import ProviderPlatform.Pay.Sessions
import ProviderPlatform.Async.Ownership

/-! # Sends and claims that run at the same time

Every reader of a row that it writes takes the lock first, so what it read is
what it overwrites. In every interleaving of sends and claims the balances are
those of the start changed by the entries of the ledger, none is negative, and
no escrow is credited twice. -/
namespace ProviderPlatform
open Async Store

/-! ## What a call owns -/

/-- The moves that a call may make: a send moves its amount into one escrow, a
claim moves escrows into balances. -/
def PayCall.Makes (isValid : String → Bool) : PayCall → Multiset Move → Prop
  | .idle, moves => moves = 0
  | .send session body, moves => moves = 0 ∨ ∃ sent toAddress amount escrow, body = some sent ∧
      checkSend isValid sent = .ok (toAddress, amount) ∧
      moves = {.intoEscrow session.sub escrow amount}
  | .claim _, moves => ∀ move ∈ moves, ∃ escrow account amount,
      move = .intoBalance escrow account amount

section Calls
variable {start : PayState} {Base : Multiset Entry → Prop} {strict : Prop} {l : PayCall}
  {α : Type} {isValid : String → Bool}

/-! ### Sends -/

/-- What a send notes before it commits. -/
structure DebitNotes (accountId : AccountId) (sendAmount : Int) (receiverIsVerified : Bool)
    (result : Except Rejection Debited) (notes : Multiset Entry) : Prop where
  debited : ∀ debited, result = .ok debited →
    debited.isVerified = receiverIsVerified ∧ notes = {.debit accountId sendAmount}
  rejected : ∀ rejection, result = .error rejection → notes = 0

/-- The body of a send: a debit of the amount, or nothing. -/
theorem debitAccount_triple (accountId : AccountId) (toAddress : PublicKey) (sendAmount : Int)
    (receiverIsVerified : Bool) (R : Multiset Entry) (tx : Nat) :
    PayTriple start Base strict l ({⟨tx, [], [], 0⟩}, R)
      (debitAccount accountId toAddress sendAmount receiverIsVerified tx)
      (Leaves tx R (DebitNotes accountId sendAmount receiverIsVerified)) := by
  unfold debitAccount
  apply (selectAccounts_triple ⟨tx, [], [], 0⟩ R rfl (.id accountId)).bind
  · rintro rows o ⟨found, rfl, hfound⟩
    obtain ⟨rfl, hholds, -⟩ := hfound rows rfl
    have hrejected : ∀ rejection : Rejection, PayTriple start Base strict l
        ({⟨tx, rows, [], 0⟩}, R) (pure (.error rejection) : PayPromise (Except Rejection Debited))
        (Leaves tx R (DebitNotes accountId sendAmount receiverIsVerified)) := by
      intro rejection
      exact Task.Triple.done (leaves_ok ⟨tx, rows, [], 0⟩ rfl
        ⟨fun _ he => (by cases he), fun _ _ => rfl⟩ committable_zero)
    cases hrows : rows.head? with
    | none => exact hrejected _
    | some account =>
      have hmem : account ∈ rows := List.mem_of_head? hrows
      obtain rfl : account.id = accountId := eq_of_beq (hholds account hmem)
      dsimp only
      split
      · exact hrejected _
      split
      · exact hrejected _
      rename_i hsuspended hbalance
      apply op_bind
      intro now
      apply (updateBalance_triple ⟨tx, rows, [], 0⟩ R hmem (account.balance - sendAmount) now
        (.debit account.id sendAmount) (by simp [Entry.onAccounts]) rfl (.inl (by omega))).bind
      · rintro _ o ⟨howns, -⟩
        rw [howns rfl]
        apply op_bind
        intro txId
        apply op_bind
        intro now
        have hinsert : ∀ row : PayTransaction, PayTriple start Base strict l
            ({⟨tx, [], [], 0 + {.debit account.id sendAmount}⟩}, R)
            (Task.call (I := payPlatform) (.insertTransaction tx row)) fun _ o =>
              o = ({⟨tx, [], [], 0 + {.debit account.id sendAmount}⟩}, R) :=
          fun row => payQuiet_triple (Task.Uses.call (by exact trivial)) _
        apply (hinsert _).bind
        · rintro _ o rfl
          apply Task.Triple.done
          apply leaves_ok ⟨tx, [], [], 0 + {.debit account.id sendAmount}⟩ rfl
          · refine ⟨?_, fun _ he => by cases he⟩
            rintro debited ⟨⟩
            exact ⟨rfl, zero_add _⟩
          · exact committable_zero.add (committable_debit _ _)
        · rintro e o rfl
          exact leaves_error ⟨tx, [], [], _⟩ rfl e
      · rintro e o ⟨-, howns⟩
        rw [howns e rfl]
        exact leaves_error ⟨tx, rows, [], 0⟩ rfl e
  · rintro e o ⟨found, rfl, -⟩
    exact leaves_error ⟨tx, found, [], 0⟩ rfl e

/-- What a call leaves: under the conditions, the entries of moves it may make. -/
def Made (isValid : String → Bool) (strict : Prop) (l : PayCall) (own : PayOwn) : Prop :=
  own.1 = 0 ∧ (strict → ∃ moves, l.Makes isValid moves ∧ own.2 = (moves.map Move.entries).sum)

theorem made_nothing : Made isValid strict l (0, 0) := by
  refine ⟨rfl, fun _ => ⟨0, ?_, rfl⟩⟩
  cases l with
  | idle => rfl
  | send session body => exact .inl rfl
  | claim address => exact fun _ hmove => absurd hmove (Multiset.notMem_zero _)

theorem isHeld_created {escrow : PayEscrow} (h : escrow.IsHeld) :
    (escrow.created : Multiset Entry) = {.hold escrow.id escrow.amount} := by
  rw [PayEscrow.created, if_pos h]
  rfl

section Send
variable {session : JwtSessionData} {sent : SendBody} {toAddress : PublicKey} {sendAmount : Int}

/-- The escrow of a send goes with the debit. -/
theorem createEscrow_triple (hcheck : checkSend isValid sent = .ok (toAddress, sendAmount))
    (hamount : 0 ≤ sendAmount) (opts : EscrowOptions) (hopts : opts.amount = sendAmount)
    (hmode : opts.mode = .custodial) :
    PayTriple start Base strict (.send session (some sent)) (0, {.debit session.sub sendAmount})
      (createEscrow opts) fun _ o => Made isValid strict (.send session (some sent)) o := by
  subst hopts
  unfold createEscrow
  apply op_bind
  intro id
  apply op_bind
  intro now
  let escrow : PayEscrow :=
    { id := id, heldForAddress := opts.receiverAddress, senderAddress := opts.senderAddress
      amount := opts.amount, status := .held, utxoPublicKeys := opts.utxoPublicKeys
      bundleId := opts.bundleId, mode := opts.mode, createdAt := now, updatedAt := now }
  have hmoved : Made isValid strict (.send session (some sent))
      (0, {.debit session.sub opts.amount} + escrow.created) := by
    rw [isHeld_created ⟨rfl, hmode⟩]
    refine ⟨rfl, fun _ => ⟨{.intoEscrow session.sub id opts.amount}, ?_, ?_⟩⟩
    · exact .inr ⟨sent, toAddress, opts.amount, id, rfl, hcheck, rfl⟩
    · rw [Multiset.map_singleton, Multiset.sum_singleton]
      rfl
  apply (insertEscrow_triple {.debit session.sub opts.amount} escrow hamount).bind
  · rintro _ o (⟨-, rfl⟩ | ⟨-, ⟨e, ⟨⟩⟩, -⟩)
    exact Task.Triple.done hmoved
  · rintro e o (⟨⟨⟩, -⟩ | ⟨hlax, -, rfl⟩)
    exact ⟨rfl, fun hstrict => absurd hstrict hlax⟩

theorem sendFrom_triple (hcheck : checkSend isValid sent = .ok (toAddress, sendAmount))
    (hamount : 0 ≤ sendAmount) :
    PayTriple start Base strict (.send session (some sent)) (0, 0)
      (sendFrom session.sub toAddress sendAmount) fun _ o =>
        Made isValid strict (.send session (some sent)) o := by
  unfold sendFrom
  have hkyc : PayTriple start Base strict (.send session (some sent)) (0, 0)
      (Task.call (I := payPlatform) (.findKyc toAddress)) fun r o =>
        o = (0, 0) ∧ ∀ kyc : Option PayKyc, r = .ok kyc → strict →
          kyc.any (·.status = .verified) = false := by
    apply call_triple
    · intro s f hrec hkeeps
      refine ⟨(0, 0), ⟨rfl, ?_⟩, hrec⟩
      rintro kyc ⟨⟩ hstrict
      exact (hkeeps hstrict).1
    · exact fun _ e => ⟨rfl, nofun⟩
  apply hkyc.bind
  · rintro kyc o ⟨rfl, hunverified⟩
    dsimp only
    apply (transaction_triple fun tx => debitAccount_triple session.sub toAddress sendAmount
      (kyc.any (·.status = .verified)) 0 tx).bind
    · rintro result o (⟨_, notes, ⟨⟩, hnotes, rfl⟩ | ⟨⟨e, ⟨⟩⟩, -⟩)
      cases result with
      | error rejection =>
        rw [hnotes.rejected rejection rfl]
        exact Task.Triple.done made_nothing
      | ok debited =>
        obtain ⟨hverified, rfl⟩ := hnotes.debited debited rfl
        rw [zero_add]
        dsimp only
        unfold finishSend
        split
        · rename_i hdone
          apply Task.Triple.done
          refine ⟨rfl, fun hstrict => ?_⟩
          rw [hverified, hunverified kyc rfl hstrict] at hdone
          cases hdone
        · let opts : EscrowOptions :=
            { senderAddress := debited.depositAddress, receiverAddress := toAddress
              amount := sendAmount, mode := .custodial, bundleId := some debited.txId }
          apply (createEscrow_triple hcheck hamount opts rfl rfl).bind
          · exact fun _ _ hmade => Task.Triple.done hmade
          · exact fun _ _ hmade => hmade
    · rintro e o (⟨_, _, ⟨⟩, -⟩ | ⟨-, rfl⟩)
      exact made_nothing
  · rintro e o ⟨rfl, -⟩
    exact made_nothing

end Send

/-! ### Claims -/

/-- The credit of an escrow, if the address has an account. -/
theorem creditAccount_triple (session : PaySession) (R : Multiset Entry) (address : PublicKey)
    {escrow : PayEscrow} (hnone : session.accounts = []) (hamount : 0 ≤ escrow.amount) :
    PayTriple start Base strict l ({session}, R) (creditAccount session.tx address escrow)
      fun r o => (r = .ok () → ∃ credited : Multiset Entry,
          o = ({{ session with notes := session.notes + credited }}, R) ∧
          ((∃ account, credited = {.credit account escrow.id escrow.amount}) ∨
            (credited = 0 ∧ ¬ start.HasAccountAt address))) ∧
        ∀ e, r = .error e → ∃ session' : PaySession, session'.tx = session.tx ∧
          o = ({session'}, R) := by
  unfold creditAccount
  apply (selectAccounts_triple session R hnone (.depositAddress address)).bind
  · rintro rows o ⟨found, rfl, hfound⟩
    obtain ⟨rfl, -, hsome⟩ := hfound rows rfl
    cases hrows : rows.head? with
    | none =>
      have hnil : rows = [] := List.head?_eq_none_iff.mp hrows
      apply Task.Triple.done
      refine ⟨fun _ => ⟨0, ?_, .inr ⟨rfl, fun hstart => hsome address rfl hstart hnil⟩⟩, nofun⟩
      rw [hnil, ← hnone, add_zero]
    | some account =>
      have hmem : account ∈ rows := List.mem_of_head? hrows
      apply op_bind
      intro now
      have heffect : (Entry.credit account.id escrow.id escrow.amount).onAccounts =
          Finsupp.single account.id (account.balance + escrow.amount - account.balance) := by
        rw [add_sub_cancel_left]
        rfl
      apply (updateBalance_triple { session with accounts := rows } R hmem
        (account.balance + escrow.amount) now (.credit account.id escrow.id escrow.amount)
        heffect rfl (.inr (by omega))).mono
      rintro r o ⟨hok, herror⟩
      refine ⟨?_, ?_⟩
      · intro hr
        refine ⟨{.credit account.id escrow.id escrow.amount}, ?_, .inl ⟨_, rfl⟩⟩
        rw [hok hr, hnone]
      · intro e hr
        exact ⟨{ session with accounts := rows }, rfl, herror e hr⟩
  · rintro e o ⟨found, rfl, -⟩
    exact ⟨nofun, fun _ _ => ⟨{ session with accounts := found }, rfl, rfl⟩⟩

/-- A move of an escrow into a balance. -/
def Move.Pays (move : Move) : Prop := ∃ escrow account amount, move = .intoBalance escrow account amount

/-- What a claim owns before the escrows that are left. -/
structure Claiming (start : PayState) (strict : Prop) (address : PublicKey) (tx : Nat)
    (R : Multiset Entry) (rest : List PayEscrow) (own : PayOwn) : Prop where
  session : ∃ session : PaySession, session.tx = tx ∧ session.accounts = [] ∧
    session.escrows = rest ∧ own = ({session}, R) ∧ Committable session.notes ∧
    (strict → MovedBy Move.Pays session.notes)
  distinct : (rest.map (·.id)).Nodup
  claimable : ∀ escrow ∈ rest, escrow.Claimable start strict address

/-- An escrow of mode custodial is released with its credit, and one of mode
self changes nothing. -/
theorem claimed_notes {address : PublicKey} {escrow : PayEscrow} {credited : Multiset Entry}
    (h : escrow.Claimable start strict address)
    (hcredited : escrow.mode = .custodial →
      (∃ account, credited = {.credit account escrow.id escrow.amount}) ∨
        (credited = 0 ∧ ¬ start.HasAccountAt address))
    (hself : escrow.mode ≠ .custodial → credited = 0) :
    Committable (credited + escrow.released) ∧
      (strict → MovedBy Move.Pays (credited + escrow.released)) := by
  have hstatus : escrow.status = .held := by
    have hheld := h.held
    simp only [PayEscrow.heldFor, Bool.and_eq_true, beq_iff_eq] at hheld
    exact hheld.1.2
  by_cases hmode : escrow.mode = .custodial
  · have hreleased : (escrow.released : Multiset Entry) = {.release escrow.id escrow.amount} := by
      rw [PayEscrow.released, if_pos ⟨hstatus, hmode⟩]
      rfl
    rcases hcredited hmode with ⟨account, rfl⟩ | ⟨rfl, hnone⟩
    · rw [hreleased]
      refine ⟨committable_paid account escrow.id escrow.amount, ?_⟩
      · intro _
        exact movedBy_one (.intoBalance escrow.id account escrow.amount) ⟨_, _, _, rfl⟩
    · rw [zero_add]
      exact ⟨committable_released escrow, fun hstrict => absurd (h.account hstrict hmode) hnone⟩
  · have hreleased : escrow.released = [] := if_neg fun hheld => hmode hheld.2
    rw [hself hmode, hreleased, zero_add]
    exact ⟨committable_zero, fun _ => movedBy_zero⟩

/-- One round of the loop. -/
theorem claimEscrow_triple (address : PublicKey) (kyc : PayKyc) (tx : Nat) (R : Multiset Entry)
    (escrow : PayEscrow) (rest : List PayEscrow) (own : PayOwn)
    (h : Claiming start strict address tx R (escrow :: rest) own) :
    PayTriple start Base strict (.claim address) own (claimEscrow tx address kyc escrow)
      fun r o => (r = .ok () → Claiming start strict address tx R rest o) ∧
        ∀ e, r = .error e → ∃ session : PaySession, session.tx = tx ∧ o = ({session}, R) := by
  obtain ⟨⟨session, rfl, hnone, hescrows, rfl, hnotes, hmoved⟩, hdistinct, hclaimable⟩ := h
  have hclaim := hclaimable escrow List.mem_cons_self
  have hcredit : PayTriple start Base strict (.claim address) ({session}, R)
      (creditEscrow session.tx address escrow) fun r o => (r = .ok () → ∃ credited : Multiset Entry,
          o = ({{ session with notes := session.notes + credited }}, R) ∧
          Committable (credited + escrow.released) ∧
          (strict → MovedBy Move.Pays (credited + escrow.released))) ∧
        ∀ e, r = .error e → ∃ session' : PaySession, session'.tx = session.tx ∧
          o = ({session'}, R) := by
    unfold creditEscrow
    by_cases hmode : escrow.mode = .custodial
    · rw [if_pos hmode]
      apply (creditAccount_triple session R address hnone hclaim.amount).mono
      rintro r o ⟨hok, herror⟩
      refine ⟨?_, herror⟩
      intro hr
      obtain ⟨credited, ho, hcredited⟩ := hok hr
      exact ⟨credited, ho, claimed_notes hclaim (fun _ => hcredited) fun hself => absurd hmode hself⟩
    · rw [if_neg hmode]
      apply Task.Triple.done
      refine ⟨fun _ => ⟨0, by rw [add_zero], ?_⟩, nofun⟩
      exact claimed_notes hclaim (fun hcustodial => absurd hcustodial hmode) fun _ => rfl
  unfold claimEscrow
  apply hcredit.bind
  · rintro _ o ⟨hok, -⟩
    obtain ⟨credited, rfl, hcommittable, hmade⟩ := hok rfl
    apply op_bind
    intro now
    apply (markClaimed_triple { session with notes := session.notes + credited } R hescrows (by rw [hescrows]; exact hdistinct)).bind
    · rintro _ o ⟨howns, -⟩
      rw [howns rfl]
      apply op_bind
      intro now
      apply op_bind
      intro id
      apply (payQuiet_triple (Task.Uses.call (by exact trivial)) _).mono
      rintro r o rfl
      let next : PaySession := { session with
        escrows := rest, notes := session.notes + credited + escrow.released }
      refine ⟨fun _ => ⟨⟨next, rfl, hnone, rfl, rfl, ?_, ?_⟩, ?_, ?_⟩,
        fun _ _ => ⟨next, rfl, rfl⟩⟩
      · rw [show next.notes = _ from add_assoc _ _ _]
        exact hnotes.add hcommittable
      · intro hstrict
        rw [show next.notes = _ from add_assoc _ _ _]
        exact (hmoved hstrict).add (hmade hstrict)
      · exact (List.nodup_cons.mp hdistinct).2
      · exact fun row hrow => hclaimable row (List.mem_cons_of_mem _ hrow)
    · rintro e o ⟨-, howns⟩
      rw [howns e rfl]
      exact ⟨nofun, fun _ _ => ⟨{ session with notes := session.notes + credited }, rfl, rfl⟩⟩
  · rintro e o ⟨-, herror⟩
    exact ⟨nofun, fun _ _ => herror e rfl⟩

/-- The body of a claim. -/
theorem claimHeld_triple (address : PublicKey) (kyc : PayKyc) (R : Multiset Entry) (tx : Nat) :
    PayTriple start Base strict (.claim address) ({⟨tx, [], [], 0⟩}, R) (claimHeld address kyc tx)
      (Leaves tx R fun _ notes => strict → MovedBy Move.Pays notes) := by
  unfold claimHeld
  apply (selectHeld_triple ⟨tx, [], [], 0⟩ R rfl address).bind
  · rintro held o ⟨found, rfl, hfound⟩
    obtain ⟨rfl, hdistinct, hclaimable⟩ := hfound held rfl
    have hloop := Task.Triple.forEach_until
      (@claimEscrow_triple _ Base _ address kyc tx R) held ({⟨tx, [], held, 0⟩}, R)
      ⟨⟨_, rfl, rfl, rfl, rfl, committable_zero, fun _ => movedBy_zero⟩, hdistinct, hclaimable⟩
    apply hloop.bind
    · rintro _ o ⟨hok, -⟩
      obtain ⟨⟨session, rfl, -, -, rfl, hnotes, hmoved⟩, -, -⟩ := hok rfl
      exact Task.Triple.done (leaves_ok session rfl hmoved hnotes)
    · rintro e o ⟨-, herror⟩
      obtain ⟨session, rfl, rfl⟩ := herror e rfl
      exact leaves_error session rfl e
  · rintro e o ⟨found, rfl, -⟩
    exact leaves_error ⟨tx, [], found, 0⟩ rfl e

theorem claimEscrowForAddress_triple (address : PublicKey) :
    PayTriple start Base strict (.claim address) (0, 0) (claimEscrowForAddress address)
      fun _ o => Made isValid strict (.claim address) o := by
  unfold claimEscrowForAddress
  apply (payQuiet_triple (Task.Uses.call (by exact trivial)) (0, 0)).bind
  · rintro kyc o rfl
    split
    · exact Task.Triple.done made_nothing
    · rename_i kyc' _
      apply (transaction_triple fun tx => claimHeld_triple address kyc' 0 tx).mono
      rintro r o (⟨a, notes, -, hmoved, rfl⟩ | ⟨-, rfl⟩)
      · rw [zero_add]
        exact ⟨rfl, hmoved⟩
      · exact made_nothing
  · rintro e o rfl
    exact made_nothing

/-! ### Every call -/

theorem checkSend_positive {body : SendBody} {toAddress : PublicKey}
    {sendAmount : Int} (h : checkSend isValid body = .ok (toAddress, sendAmount)) :
    0 < sendAmount := by
  unfold checkSend at h
  split at h
  · cases h
  split at h
  · split at h
    · cases h
    split at h
    · split at h
      · cases h
      split at h
      · cases h
      · cases h
        omega
    · cases h
  · cases h

theorem readBody_triple (body : Option SendBody) :
    PayTriple start Base strict l (0, 0) (Task.call (I := payPlatform) (.readBody body))
      fun r o => o = (0, 0) ∧ ∀ read, r = .ok read → read = body := by
  apply call_triple
  · intro s f hrec _
    refine ⟨(0, 0), ⟨rfl, ?_⟩, hrec⟩
    rintro read ⟨⟩
    rfl
  · exact fun _ e => ⟨rfl, nofun⟩

theorem payProgram_triple (isValid : String → Bool) (l : PayCall) :
    PayTriple start Base strict l 0 (l.program isValid) fun _ o => Made isValid strict l o := by
  cases l with
  | idle => exact Task.Triple.done made_nothing
  | claim address =>
    apply (claimEscrowForAddress_triple address).bind
    · exact fun _ _ hmade => Task.Triple.done hmade
    · exact fun _ _ hmade => hmade
  | send session body =>
    have htry : PayTriple start Base strict (.send session body) 0 (trySend isValid session body)
        fun _ o => Made isValid strict (.send session body) o := by
      unfold trySend
      apply (readBody_triple body).bind
      · rintro read o ⟨rfl, hread⟩
        rw [hread read rfl]
        cases body with
        | none => exact Task.Triple.done made_nothing
        | some sent =>
          dsimp only
          split
          · exact Task.Triple.done made_nothing
          · rename_i toAddress sendAmount hcheck
            split
            · exact Task.Triple.done made_nothing
            · exact sendFrom_triple hcheck (checkSend_positive hcheck).le
      · rintro e o ⟨rfl, -⟩
        exact made_nothing
    have hhandler : PayTriple start Base strict (.send session body) 0
        (handlePostCustodialSend isValid session body) fun _ o =>
          Made isValid strict (.send session body) o :=
      htry.recover (fun _ _ hmade => hmade) fun _ _ hmade => Task.Triple.done hmade
    apply hhandler.bind
    · exact fun _ _ hmade => Task.Triple.done hmade
    · exact fun _ _ hmade => hmade

end Calls

/-! ## Every run -/

inductive PayDrift
  | elapse (ms : Nat)
  | kyc (rows : Table PayKyc.address)

/-- The database rolls back what a process that stops had open. -/
def PayState.abort (s : PayState) : PayState :=
  { s with
    accounts := .unlocked s.accounts.table
    escrows := .unlocked s.escrows.table
    inserted := []
    noted := [] }

def payProcess (isValidEd25519PublicKey : String → Bool) :
    Machine payPlatform PayState PayCall PayDrift where
  host := payHost
  program := PayCall.program isValidEd25519PublicKey
  startable _ _ := true
  boot := .idle
  drift
    | .elapse ms, s => { s with clock := s.clock + ms }
    | .kyc rows, s => { s with kyc := rows }
  reboot := PayState.abort

abbrev PayPool := Pool payPlatform PayState PayCall
abbrev PayChoice := Choice payPlatform PayCall PayDrift

/-- No transaction is open, no balance is negative, and no escrow is. -/
structure PayState.Fresh (s : PayState) : Prop where
  accounts : s.accounts = .unlocked s.accounts.table
  escrows : s.escrows = .unlocked s.escrows.table
  noted : s.noted = []
  ledger : s.ledger = []
  solvent : ∀ account ∈ s.accounts.table.rows, 0 ≤ account.balance
  positive : ∀ escrow ∈ s.escrows.table.rows, 0 ≤ escrow.amount

/-- No balance is negative, the balances are those of the start changed by the
ledger, and no escrow is credited twice. -/
structure CustodialLaw (start s : PayState) : Prop where
  solvent : ∀ account ∈ s.accounts.table.rows, 0 ≤ account.balance
  balanced : ∀ id, s.balance id = start.balance id + (s.ledger.map (·.balanceChange id)).sum
  once : ∀ id, s.ledger.countP (·.credits id) ≤ 1

section Runs
variable {isValid : String → Bool} {s : PayState} {c : PayPool}

theorem PayState.Fresh.reconciled (h : s.Fresh) : Reconciled s (fun _ => True) s 0 := by
  have hnotes : ∀ tx, s.notesOf tx = [] := by
    intro tx
    simp only [PayState.notesOf, h.noted, List.filterMap_nil]
  have hsound : ∀ account ∈ s.accounts.table.rows, account.Sound s := by
    intro account hmem
    refine ⟨h.solvent account hmem, ?_⟩
    rw [PayState.addressOf, Table.find_of_mem hmem]
    rfl
  constructor
  · exact Multiset.nodup_zero
  · exact fun _ hsession => absurd hsession (Multiset.notMem_zero _)
  · exact fun tx _ => hnotes tx
  · rw [h.accounts]
    exact LockedTable.tracks_unlocked hsound fun tx => by rw [hnotes]; rfl
  · rw [h.escrows]
    exact LockedTable.tracks_unlocked h.positive fun tx => by rw [hnotes]; rfl
  · intro id hid
    rwa [PayState.addressOf, Option.isSome_map] at hid
  · rw [h.ledger]
    exact (add_zero _).symm
  · rw [h.ledger]
    exact (add_zero _).symm
  · intro id
    rw [h.ledger, Table.worth_apply]
    cases s.escrows.table.find id with
    | none => exact Int.le_refl 0
    | some escrow =>
      show escrow.measure.2 + 0 ≤ 1
      unfold PayEscrow.measure
      split
      · exact Int.le_refl 1
      · exact Int.zero_le_ofNat 1
  · rw [h.ledger]
    exact fun _ => Nat.le_refl 0
  · exact ⟨s.ledger, trivial, (add_zero _).symm⟩

/-- A process that stops leaves the committed rows. -/
theorem Reconciled.abort {start : PayState} {own : PayOwn}
    (h : Reconciled start (fun _ => True) s own) :
    Reconciled start (fun _ => True) s.abort 0 := by
  have hnotes : ∀ tx, s.abort.notesOf tx = [] := fun _ => rfl
  constructor
  · exact Multiset.nodup_zero
  · exact fun _ hsession => absurd hsession (Multiset.notMem_zero _)
  · exact fun tx _ => hnotes tx
  · exact LockedTable.tracks_unlocked h.accounts.all.table fun tx => by rw [hnotes]; rfl
  · exact LockedTable.tracks_unlocked h.escrows.all.table fun tx => by rw [hnotes]; rfl
  · exact h.present
  · exact h.balances
  · exact h.held
  · exact h.created
  · exact h.matched
  · exact ⟨s.ledger, trivial, (add_zero _).symm⟩

theorem run_reconciled (hfresh : s.Fresh)
    (h : (payProcess isValid).Run Machine.Free ((payProcess isValid).init s) c) :
    ∃ own, Reconciled s (fun _ => True) c.state own := by
  have hprog : ∀ l, Task.Triple (payProcess isValid).host (booking s (fun _ => True) False l) 0
      ((payProcess isValid).program l) fun _ _ => True :=
    fun l => (payProgram_triple isValid l).mono fun _ _ _ => trivial
  apply Machine.Owned.holds (M := payProcess isValid) (K := booking s (fun _ => True) False)
  apply Machine.Run.owned (K := booking s (fun _ => True) False) (fun _ => rfl) (hprog _)
    (fun _ l _ => hprog l) _ _ _ h
  · exact Machine.owned_init (hprog _) hfresh.reconciled
  · exact ⟨fun _ _ _ _ _ _ _ _ => trivial, fun _ _ _ _ _ _ _ => False.elim,
      fun _ _ _ _ _ _ _ _ => False.elim⟩
  · intro c d r _ hinv
    have hrec : Reconciled s (fun _ => True) c.state r := hinv
    cases d <;> exact hrec.of_eq rfl rfl rfl rfl rfl
  · intro c r _ hinv
    exact Reconciled.abort hinv

theorem Reconciled.law {start : PayState} {Base : Multiset Entry → Prop} {own : PayOwn}
    (h : Reconciled start Base s own) : CustodialLaw start s where
  solvent account hmem := (h.accounts.all.table account hmem).solvent
  balanced := h.balance_eq
  once := h.credited_once

/-- Only a commit changes the rows of the accounts. -/
theorem servePay_accounts {q : PayReq} (hq : ∀ tx, q ≠ .commit tx) :
    (servePay q s).2.accounts.table = s.accounts.table := by
  cases q with
  | commit tx => exact absurd rfl (hq tx)
  | createEscrow escrow =>
    simp only [servePay]
    split <;> rfl
  | lockAccount tx cond id =>
    rcases @serve_lockAccount s tx cond id with ⟨_, _, _, heq⟩ | ⟨_, heq⟩ | heq
    · rw [heq]
      rfl
    · rw [heq]
    · rw [heq]
  | lockEscrow tx address id =>
    rcases @serve_lockEscrow s tx address id with ⟨_, _, _, heq⟩ | heq | heq <;>
      rw [heq]
  | updateBalance tx id balance updatedAt cause | markClaimed tx id updatedAt =>
    simp only [servePay]
    split
    · split <;> rfl
    · rfl
  | insertTransaction tx row =>
    simp only [servePay]
    split <;> rfl
  | _ => rfl

/-- A step that commits nothing leaves the balances, and a commit changes them
by the entries of its transaction. -/
theorem step_balance {own : PayOwn} {start : PayState} {Base : Multiset Entry → Prop}
    (hrec : Reconciled start Base c.state own) {c' : PayPool} {ch : PayChoice}
    (hs : (payProcess isValid).step ch c = some c') :
    (∀ l tx, ch.served c = some (l, .commit tx) →
      c'.state.ledger = c.state.ledger ++ c.state.notesOf tx ∧
      ∀ id, c'.state.balance id =
        c.state.balance id + ((c.state.notesOf tx).map (·.balanceChange id)).sum) ∧
    ((∀ l tx, ch.served c ≠ some (l, .commit tx)) →
      ∀ id, c'.state.balance id = c.state.balance id) := by
  have hsame : c'.state.accounts.table = c.state.accounts.table →
      ∀ id, c'.state.balance id = c.state.balance id := by
    intro htable id
    rw [PayState.balance, htable]
    rfl
  rcases (payProcess isValid).step_cases hs with ⟨l, rfl, -, rfl⟩ | ⟨i, l, t, rfl, ht, rfl⟩ |
    ⟨i, l, q, k, rfl, ht, rfl⟩ | ⟨i, l, q, k, e, rfl, ht, rfl⟩ | ⟨d, rfl, rfl⟩ | ⟨rfl, rfl⟩
  · exact ⟨fun _ _ hc => (by cases hc), fun _ => hsame rfl⟩
  · refine ⟨fun _ _ hc => (by cases hc), fun _ => hsame ?_⟩
    apply Task.advance_keeps payHost (P := fun s' => s'.accounts.table = c.state.accounts.table)
      (g := fun _ _ => True) _ t _ rfl fun _ _ => trivial
    intro s o hkept _
    cases o <;> exact hkept
  · have hserved : (Choice.serve i : PayChoice).served c = some (l, q) := by
      simp only [Choice.served, ht]
    rw [hserved]
    constructor
    · rintro l' tx ⟨⟩
      refine ⟨rfl, ?_⟩
      intro id
      have hchange := DFunLike.congr_fun (hrec.accounts.changes tx) id
      rw [Finsupp.add_apply, Table.worth_apply, Table.worth_apply, onAccounts_apply,
        Multiset.map_coe, Multiset.sum_coe] at hchange
      exact hchange
    · intro hother
      apply hsame
      apply servePay_accounts
      rintro tx rfl
      exact hother l tx rfl
  · exact ⟨fun _ _ hc => (by cases hc), fun _ => hsame rfl⟩
  · refine ⟨fun _ _ hc => (by cases hc), fun _ => hsame ?_⟩
    cases d <;> rfl
  · exact ⟨fun _ _ hc => (by cases hc), fun _ => hsame rfl⟩

/-- **Sends and claims do not lose an update.** In every state that any
interleaving of sends and claims reaches, no balance is negative, every balance
is the one of the start changed by all committed debits and credits, and no
escrow has been credited twice; and a commit adds its entries to the balances
as they are committed at that moment. -/
theorem custodial_concurrency (isValid : String → Bool) {s : PayState} {c : PayPool}
    (hfresh : s.Fresh)
    (h : (payProcess isValid).Run Machine.Free ((payProcess isValid).init s) c) :
    CustodialLaw s c.state ∧ ∀ ch c', (payProcess isValid).step ch c = some c' →
      (∀ l tx, ch.served c = some (l, .commit tx) →
        c'.state.ledger = c.state.ledger ++ c.state.notesOf tx ∧
        ∀ id, c'.state.balance id =
          c.state.balance id + ((c.state.notesOf tx).map (·.balanceChange id)).sum) ∧
      ((∀ l tx, ch.served c ≠ some (l, .commit tx)) →
        ∀ id, c'.state.balance id = c.state.balance id) := by
  obtain ⟨own, hrec⟩ := run_reconciled hfresh h
  exact ⟨hrec.law, fun _ _ hs => step_balance hrec hs⟩

end Runs

namespace Small

/-- "a" has 10 and "b" has 4; "e" holds 5 for the owner of "b". -/
def payState : PayState where
  accounts := .unlocked ⟨[⟨"a", "GA", 10, .active, 0⟩, ⟨"b", "GB", 4, .active, 0⟩], by decide⟩
  escrows := .unlocked ⟨[{
    id := "e", heldForAddress := "GB", senderAddress := "GA", amount := 5, status := .held
    utxoPublicKeys := none, bundleId := none, mode := .custodial, createdAt := 0
    updatedAt := 0 }], List.nodup_singleton _⟩
  kyc := ⟨[⟨"GB", .verified, some "CH", none⟩], List.nodup_singleton _⟩
  transactions := Table.empty
  inserted := []
  nextTx := 0
  clock := 0
  uuid n := String.ofList (List.replicate n 'u')
  uuids := 0
  noted := []
  ledger := []

/-- "b" sends 3 to an address that is not verified. -/
def send : PayCall := .send ⟨"b", some .custodial⟩ (some ⟨.string "GC", .string "3"⟩)

def turns (i n : Nat) : List PayChoice := (List.replicate n [.resume i, .serve i]).flatten

/-- A send between two claims of the same escrow. -/
def race : List PayChoice :=
  [.start (.claim "GB"), .start send, .start (.claim "GB")] ++ turns 1 3 ++ turns 3 3 ++
    turns 2 4 ++ turns 1 7 ++ [.resume 1] ++ turns 2 5 ++ [.resume 2] ++ turns 3 2 ++ [.resume 3]

theorem payState_fresh : payState.Fresh where
  accounts := rfl
  escrows := rfl
  noted := rfl
  ledger := rfl
  solvent := by decide
  positive := by decide

end Small

theorem custodial_concurrency_race :
    ∃ c, (payProcess fun _ => true).Run Machine.Free
        ((payProcess fun _ => true).init Small.payState) c ∧
      c.state.accounts.table.rows.map (·.balance) = [10, 6] ∧
      CustodialLaw Small.payState c.state := by
  obtain ⟨c, hr, hp⟩ := Machine.exists_run_of_replay (M := payProcess fun _ => true)
    (G := Machine.Free) Small.race (c := (payProcess fun _ => true).init Small.payState)
    (fun s => decide (s.accounts.table.rows.map (·.balance) = [10, 6])) (by decide +kernel)
  exact ⟨c, hr, of_decide_eq_true hp,
    (custodial_concurrency (fun _ => true) Small.payState_fresh hr).1⟩

end ProviderPlatform
