import ProviderPlatform.Pay.Ledger
import ProviderPlatform.Async.Ownership

/-! # What a send and a claim do to the books

Each request of a transaction moves its session on; a whole transaction either
leaves nothing or commits the entries it has noted. A send notes its debit and
creates an escrow afterwards; a claim notes a credit and a release for each
escrow it pays out. -/
namespace ProviderPlatform
open Async Store

/-! ## The calls -/

inductive PayCall
  | idle
  | send (session : JwtSessionData) (body : Option SendBody)
  | claim (address : PublicKey)

def PayCall.program (isValidEd25519PublicKey : String → Bool) : PayCall → PayPromise Unit
  | .idle => pure ()
  | .send session body => do
    let _ ← handlePostCustodialSend isValidEd25519PublicKey session body
    pure ()
  | .claim address => do
    let _ ← claimEscrowForAddress address
    pure ()

def PayState.HasAccountAt (s : PayState) (address : PublicKey) : Prop :=
  ∃ account ∈ s.accounts.table.rows, account.depositAddress = address

instance (s : PayState) (address : PublicKey) : Decidable (s.HasAccountAt address) :=
  inferInstanceAs (Decidable (∃ account ∈ s.accounts.table.rows, _))

/-- The receiver that a send looks up is not verified. -/
def PayCall.Finds (l : PayCall) (s : PayState) : PayReq → Prop
  | .findKyc address =>
    match l with
    | .send _ _ => (s.findKyc address).any (·.status = .verified) = false
    | _ => True
  | _ => True

/-- The id of a new escrow is not taken, and an escrow of mode custodial that
is claimed has an account to go to. -/
def PayReq.Keeps (s : PayState) : PayReq → Prop
  | .createEscrow escrow => s.escrows.table.find escrow.id = none
  | .lockEscrow tx address id => ∀ escrow ∈ (s.escrows.view tx).find id,
      escrow.heldFor address → escrow.mode = .custodial → s.HasAccountAt address
  | _ => True

/-- Every request but the insert of an escrow. -/
def PayReq.MayThrow : PayReq → Prop
  | .createEscrow _ => False
  | _ => True

instance (l : PayCall) (s : PayState) : (q : PayReq) → Decidable (l.Finds s q)
  | .findKyc address =>
    match l with
    | .send _ _ =>
      inferInstanceAs (Decidable ((s.findKyc address).any (·.status = .verified) = false))
    | .claim _ | .idle => .isTrue trivial
  | .readBody _ | .createEscrow _ | .begin | .commit _ | .rollback _ | .scanAccounts _ _
  | .lockAccount _ _ _ | .updateBalance _ _ _ _ _ | .scanEscrows _ _ | .lockEscrow _ _ _
  | .markClaimed _ _ _ | .insertTransaction _ _ => .isTrue trivial

instance (s : PayState) : (q : PayReq) → Decidable (q.Keeps s)
  | .createEscrow escrow => inferInstanceAs (Decidable (s.escrows.table.find escrow.id = none))
  | .lockEscrow tx address id =>
    inferInstanceAs (Decidable (∀ escrow ∈ (s.escrows.view tx).find id,
      escrow.heldFor address → escrow.mode = .custodial → s.HasAccountAt address))
  | .readBody _ | .findKyc _ | .begin | .commit _ | .rollback _ | .scanAccounts _ _
  | .lockAccount _ _ _ | .updateBalance _ _ _ _ _ | .scanEscrows _ _
  | .markClaimed _ _ _ | .insertTransaction _ _ => .isTrue trivial

instance : (q : PayReq) → Decidable q.MayThrow
  | .createEscrow _ => .isFalse id
  | .readBody _ | .findKyc _ | .begin | .commit _ | .rollback _ | .scanAccounts _ _
  | .lockAccount _ _ _ | .updateBalance _ _ _ _ _ | .scanEscrows _ _ | .lockEscrow _ _ _
  | .markClaimed _ _ _ | .insertTransaction _ _ => .isTrue trivial

/-- The books, under no condition or under the conditions above. -/
def booking (start : PayState) (Base : Multiset Entry → Prop) (strict : Prop) (l : PayCall) :
    Discipline payPlatform PayState PayOwn where
  inv := Reconciled start Base
  mayRun _ _ := True
  mayServe s q := strict → l.Finds s q ∧ q.Keeps s
  mayReject _ q := strict → q.MayThrow

/-! ## What is moved -/

/-- Money that changes its place. -/
inductive Move
  | intoEscrow (account : AccountId) (escrow : EscrowId) (amount : Int)
  | intoBalance (escrow : EscrowId) (account : AccountId) (amount : Int)
  deriving DecidableEq

def Move.entries : Move → Multiset Entry
  | intoEscrow account escrow amount => {.debit account amount, .hold escrow amount}
  | intoBalance escrow account amount => {.credit account escrow amount, .release escrow amount}

def Move.balanceChange (id : AccountId) : Move → Int
  | intoEscrow account _ amount => if account = id then -amount else 0
  | intoBalance _ account amount => if account = id then amount else 0

def Move.heldChange (id : EscrowId) : Move → Int
  | intoEscrow _ escrow amount => if escrow = id then amount else 0
  | intoBalance escrow _ amount => if escrow = id then -amount else 0

/-- The entries are those of some moves. -/
def MovedBy (p : Move → Prop) (entries : Multiset Entry) : Prop :=
  ∃ moves : Multiset Move, (∀ move ∈ moves, p move) ∧ entries = (moves.map Move.entries).sum

section Moves
variable {p : Move → Prop} {entries entries' : Multiset Entry}

theorem movedBy_zero : MovedBy p 0 := ⟨0, by simp, rfl⟩

theorem movedBy_one (move : Move) (h : p move) : MovedBy p move.entries :=
  ⟨{move}, by simpa using h, by simp⟩

theorem MovedBy.add (h : MovedBy p entries) (h' : MovedBy p entries') :
    MovedBy p (entries + entries') := by
  obtain ⟨moves, hp, rfl⟩ := h
  obtain ⟨moves', hp', rfl⟩ := h'
  refine ⟨moves + moves', ?_, by simp⟩
  intro move hmove
  rcases Multiset.mem_add.mp hmove with hmove | hmove
  · exact hp move hmove
  · exact hp' move hmove

end Moves

/-! ## The requests of a transaction -/

section Requests
variable {start : PayState} {Base : Multiset Entry → Prop} {strict : Prop} {l : PayCall}
  {α : Type}

abbrev PayTriple (start : PayState) (Base : Multiset Entry → Prop) (strict : Prop) (l : PayCall)
    (own : PayOwn) (t : PayPromise α) (B : Except Err α → PayOwn → Prop) : Prop :=
  Task.Triple payHost (booking start Base strict l) own t B

/-- A request: what it does when it is served, and that a rejection leaves the
task what it owns. -/
theorem call_triple {q : PayReq} {own : PayOwn} {B : Except Err q.Ans → PayOwn → Prop}
    (hserve : ∀ s f, Reconciled start Base s (own + f) → (strict → l.Finds s q ∧ q.Keeps s) →
      ∃ own', B (servePay q s).1 own' ∧ Reconciled start Base (servePay q s).2 (own' + f))
    (hreject : (strict → q.MayThrow) → ∀ e, B (.error e) own) :
    PayTriple start Base strict l own (Task.call (I := payPlatform) q) B :=
  Task.Triple.call hserve fun _ _ h hmay e => ⟨own, hreject hmay e, h⟩

/-- A step that the books do not mention. -/
def PayReq.Quiet : PayReq → Prop
  | readBody _ | findKyc _ | scanAccounts _ _ | scanEscrows _ _ | insertTransaction _ _ => True
  | _ => False

theorem servePay_quiet {q : PayReq} (hq : q.Quiet) {s : PayState} {own : PayOwn}
    (h : Reconciled start Base s own) : Reconciled start Base (servePay q s).2 own := by
  cases q with
  | readBody body => exact h
  | findKyc address => exact h
  | scanAccounts tx cond => exact h
  | scanEscrows tx address => exact h
  | insertTransaction tx row =>
    simp only [servePay]
    split
    · exact h
    · exact h.of_eq rfl rfl rfl rfl rfl
  | _ => exact hq.elim

theorem runPayOp_kept {o : PayOp} {s : PayState} {own : PayOwn}
    (h : Reconciled start Base s own) : Reconciled start Base (runPayOp o s).2 own := by
  cases o with
  | randomUUID => exact h.of_eq rfl rfl rfl rfl rfl
  | now => exact h

theorem payQuiet_triple {t : PayPromise α} (ht : t.Uses (fun _ => True) PayReq.Quiet)
    (own : PayOwn) : PayTriple start Base strict l own t fun _ o => o = own :=
  Task.Triple.of_uses (fun _ _ _ _ h _ => runPayOp_kept h)
    (fun _ hq _ _ h _ => servePay_quiet hq h) ht own

theorem op_bind {o : PayOp} {k : o.Out → PayPromise α} {own : PayOwn}
    {B : Except Err α → PayOwn → Prop} (hk : ∀ a, PayTriple start Base strict l own (k a) B) :
    PayTriple start Base strict l own (Task.op (I := payPlatform) o >>= k) B := by
  have hop : PayTriple start Base strict l own (Task.op (I := payPlatform) o)
      fun r own' => own' = own ∧ ∃ a, r = .ok a :=
    Task.Triple.op fun s f h _ => ⟨own, ⟨rfl, _, rfl⟩, runPayOp_kept h⟩
  apply hop.bind
  · rintro a o ⟨rfl, -⟩
    exact hk a
  · rintro e o ⟨-, a, ha⟩
    cases ha

/-- The accounts that a scan for an address names have it; there is one if any
account had it at the start. -/
theorem scanAccounts_triple (tx : Nat) (cond : AccountWhere) (own : PayOwn) :
    PayTriple start Base strict l own (Task.call (I := payPlatform) (.scanAccounts tx cond))
      fun r o => o = own ∧ ∀ ids address, r = .ok ids → cond = .depositAddress address →
        (∀ id ∈ ids, start.addressOf id = some address) ∧
          (ids = [] → ¬ start.HasAccountAt address) := by
  apply call_triple
  · intro s f hrec _
    refine ⟨own, ⟨rfl, ?_⟩, hrec⟩
    rintro ids address ⟨⟩ rfl
    constructor
    · intro id hid
      obtain ⟨account, hmem, rfl⟩ := List.mem_map.mp hid
      obtain ⟨hmem, hcond⟩ := Table.mem_select.mp hmem
      rw [(hrec.accounts.all.view tx account hmem).address, eq_of_beq hcond]
    · rintro hnil ⟨account, hmem, haddress⟩
      have hstart : start.addressOf account.id = some address := by
        rw [PayState.addressOf, Table.find_of_mem hmem, Option.map_some, haddress]
      obtain ⟨row, hrow, hat⟩ := hrec.exists_account tx hstart
      have hselected : row ∈ (s.accounts.view tx).select (AccountWhere.depositAddress address).holds :=
        Table.mem_select.mpr ⟨Table.find_mem hrow, beq_iff_eq.mpr hat⟩
      rw [List.map_eq_nil_iff.mp hnil] at hselected
      cases hselected
  · exact fun _ e => ⟨rfl, nofun⟩

theorem scanEscrows_triple (tx : Nat) (address : PublicKey) (own : PayOwn) :
    PayTriple start Base strict l own (Task.call (I := payPlatform) (.scanEscrows tx address))
      fun r o => o = own ∧ ∀ ids, r = .ok ids → ids.Nodup := by
  apply call_triple
  · intro s f hrec _
    refine ⟨own, ⟨rfl, ?_⟩, hrec⟩
    rintro ids ⟨⟩
    exact Table.select_nodup _ _
  · exact fun _ e => ⟨rfl, nofun⟩

section Serve
variable {s : PayState} {tx : Nat}

theorem serve_lockAccount (cond : AccountWhere) (id : AccountId) :
    (∃ account, s.accounts.Free tx id ∧ (s.accounts.view tx).find id = some account ∧
      servePay (.lockAccount tx cond id) s = (.ok (Option.filter cond.holds (some account)),
        { s with accounts := s.accounts.lock tx id })) ∨
    ((s.accounts.view tx).find id = none ∧
      servePay (.lockAccount tx cond id) s = (.ok none, s)) ∨
    servePay (.lockAccount tx cond id) s = (.error lockTimeout, s) := by
  by_cases hfree : s.accounts.Free tx id
  · cases hfind : (s.accounts.view tx).find id with
    | none => exact .inr (.inl ⟨rfl, by simp only [servePay, if_pos hfree, hfind]⟩)
    | some account =>
      exact .inl ⟨account, hfree, rfl, by simp only [servePay, if_pos hfree, hfind]⟩
  · exact .inr (.inr (by simp only [servePay, if_neg hfree]))

theorem serve_lockEscrow (address : PublicKey) (id : EscrowId) :
    (∃ escrow, s.escrows.Free tx id ∧ (s.escrows.view tx).find id = some escrow ∧
      servePay (.lockEscrow tx address id) s =
        (.ok (Option.filter (·.heldFor address) (some escrow)),
          { s with escrows := s.escrows.lock tx id })) ∨
    servePay (.lockEscrow tx address id) s = (.ok none, s) ∨
    servePay (.lockEscrow tx address id) s = (.error lockTimeout, s) := by
  by_cases hfree : s.escrows.Free tx id
  · cases hfind : (s.escrows.view tx).find id with
    | none => exact .inr (.inl (by simp only [servePay, if_pos hfree, hfind]))
    | some escrow =>
      exact .inl ⟨escrow, hfree, rfl, by simp only [servePay, if_pos hfree, hfind]⟩
  · exact .inr (.inr (by simp only [servePay, if_neg hfree]))

end Serve

/-- A locking read of one account. -/
theorem lockAccount_triple (session : PaySession) (R : Multiset Entry) (cond : AccountWhere)
    (id : AccountId) :
    PayTriple start Base strict l ({session}, R)
      (Task.call (I := payPlatform) (.lockAccount session.tx cond id)) fun r o =>
        (∃ account : PayCustodialAccount, r = .ok (some account) ∧ account.id = id ∧
          cond.holds account = true ∧
          o = ({{ session with accounts := session.accounts ++ [account] }}, R)) ∨
        (r = .ok none ∧ (∀ address, cond = .depositAddress address →
          start.addressOf id ≠ some address) ∧ o = ({session}, R)) ∨
        ((∃ e, r = .error e) ∧ o = ({session}, R)) := by
  apply call_triple
  · intro s f h _
    have hrec : Reconciled start Base s ({session} + f.1, R + f.2) := h
    rcases @serve_lockAccount s session.tx cond id with
      ⟨account, hfree, hfind, heq⟩ | ⟨hnone, heq⟩ | heq
    · have hid : account.id = id := Table.find_key hfind
      subst hid
      rw [heq]
      cases hcond : cond.holds account with
      | true =>
        refine ⟨_, .inl ⟨account, ?_, rfl, hcond, rfl⟩, ?_⟩
        · simp [Option.filter, hcond]
        · apply Reconciled.lock_account { session with accounts := session.accounts ++ [account] }
            hrec hfree hfind rfl ?_ rfl rfl
          intro row hrow
          rcases List.mem_append.mp hrow with hrow | hrow
          · exact .inr hrow
          · exact .inl (List.mem_singleton.mp hrow)
      | false =>
        refine ⟨({session}, R), .inr (.inl ⟨?_, ?_, rfl⟩), ?_⟩
        · simp [Option.filter, hcond]
        · rintro address rfl hstart
          obtain ⟨row, hrow, hat⟩ := hrec.exists_account session.tx hstart
          rw [hfind, Option.some.injEq] at hrow
          subst hrow
          simp [AccountWhere.holds, hat] at hcond
        · exact Reconciled.lock_account session hrec hfree hfind rfl (fun row hrow => .inr hrow) rfl rfl
    · rw [heq]
      refine ⟨({session}, R), .inr (.inl ⟨rfl, ?_, rfl⟩), h⟩
      rintro address rfl hstart
      obtain ⟨row, hrow, -⟩ := hrec.exists_account session.tx hstart
      rw [hnone] at hrow
      cases hrow
    · rw [heq]
      exact ⟨({session}, R), .inr (.inr ⟨⟨_, rfl⟩, rfl⟩), h⟩
  · exact fun _ e => .inr (.inr ⟨⟨e, rfl⟩, rfl⟩)

/-- What a claim knows of an escrow that it has locked. -/
structure PayEscrow.Claimable (start : PayState) (strict : Prop) (address : PublicKey)
    (escrow : PayEscrow) : Prop where
  held : escrow.heldFor address = true
  amount : 0 ≤ escrow.amount
  account : strict → escrow.mode = .custodial → start.HasAccountAt address

/-- A locking read of one escrow. -/
theorem lockEscrow_triple (session : PaySession) (R : Multiset Entry) (address : PublicKey)
    (id : EscrowId) :
    PayTriple start Base strict l ({session}, R)
      (Task.call (I := payPlatform) (.lockEscrow session.tx address id)) fun r o =>
        (∃ escrow : PayEscrow, r = .ok (some escrow) ∧ escrow.id = id ∧
          escrow.Claimable start strict address ∧
          o = ({{ session with escrows := session.escrows ++ [escrow] }}, R)) ∨
        (r = .ok none ∧ True ∧ o = ({session}, R)) ∨
        ((∃ e, r = .error e) ∧ o = ({session}, R)) := by
  apply call_triple
  · intro s f h hkeeps
    have hrec : Reconciled start Base s ({session} + f.1, R + f.2) := h
    rcases @serve_lockEscrow s session.tx address id with
      ⟨escrow, hfree, hfind, heq⟩ | heq | heq
    · have hid : escrow.id = id := Table.find_key hfind
      subst hid
      rw [heq]
      cases hheld : escrow.heldFor address with
      | true =>
        have hamount := hrec.escrows.all.view session.tx escrow (Table.find_mem hfind)
        refine ⟨_, .inl ⟨escrow, ?_, rfl, ⟨hheld, hamount, ?_⟩, rfl⟩, ?_⟩
        · simp [Option.filter, hheld]
        · intro hstrict hmode
          obtain ⟨account, hmem, hat⟩ := (hkeeps hstrict).2 escrow hfind hheld hmode
          have hstart := (hrec.accounts.all.table account hmem).address
          rw [PayState.addressOf, hat] at hstart
          obtain ⟨row, hrow, hat⟩ := Option.map_eq_some_iff.mp hstart
          exact ⟨row, Table.find_mem hrow, hat⟩
        · apply Reconciled.lock_escrow { session with escrows := session.escrows ++ [escrow] }
            hrec hfree hfind rfl ?_ rfl rfl
          intro row hrow
          rcases List.mem_append.mp hrow with hrow | hrow
          · exact .inr hrow
          · exact .inl (List.mem_singleton.mp hrow)
      | false =>
        refine ⟨({session}, R), .inr (.inl ⟨?_, trivial, rfl⟩), ?_⟩
        · simp [Option.filter, hheld]
        · exact Reconciled.lock_escrow session hrec hfree hfind rfl (fun row hrow => .inr hrow)
            rfl rfl
    · rw [heq]
      exact ⟨({session}, R), .inr (.inl ⟨rfl, trivial, rfl⟩), h⟩
    · rw [heq]
      exact ⟨({session}, R), .inr (.inr ⟨⟨_, rfl⟩, rfl⟩), h⟩
  · exact fun _ e => .inr (.inr ⟨⟨e, rfl⟩, rfl⟩)

/-- `SELECT … FOR UPDATE` on the accounts: it knows the rows it returns. -/
theorem selectAccounts_triple (session : PaySession) (R : Multiset Entry)
    (hnone : session.accounts = []) (cond : AccountWhere) :
    PayTriple start Base strict l ({session}, R) (selectAccountsForUpdate session.tx cond)
      fun r o => ∃ found, o = ({{ session with accounts := found }}, R) ∧
        ∀ rows, r = .ok rows → rows = found ∧ (∀ row ∈ rows, cond.holds row = true) ∧
          ∀ address, cond = .depositAddress address → start.HasAccountAt address → rows ≠ [] := by
  have hsame : session = { session with accounts := [] } := by
    rw [← hnone]
  unfold selectAccountsForUpdate
  apply (scanAccounts_triple session.tx cond ({session}, R)).bind
  · rintro ids o ⟨rfl, hids⟩
    have hcollect := Task.Triple.collect_found
      (H := payHost) (K := booking start Base strict l)
      (f := fun id => Task.call (I := payPlatform) (.lockAccount session.tx cond id))
      (fun id (known : List PayCustodialAccount) =>
        lockAccount_triple { session with accounts := known } R cond id) ids []
    rw [← hsame] at hcollect
    apply hcollect.bind
    · rintro rows o ⟨found, rfl, hfound⟩
      obtain ⟨rfl, -, hholds, hmissing⟩ := hfound rows rfl
      apply Task.Triple.done
      refine ⟨_, rfl, ?_⟩
      rintro _ ⟨⟩
      refine ⟨rfl, hholds, ?_⟩
      intro address hcond hstart hnil
      obtain ⟨hat, hempty⟩ := hids ids address rfl hcond
      cases hids' : ids with
      | nil => exact hempty hids' hstart
      | cons id rest =>
        have hid : id ∈ ids := by rw [hids']; exact List.mem_cons_self
        exact hmissing hnil id hid address hcond (hat id hid)
    · rintro e o ⟨found, rfl, -⟩
      exact ⟨found, rfl, nofun⟩
  · rintro e o ⟨rfl, -⟩
    exact ⟨[], by rw [← hsame], nofun⟩

theorem selectHeld_triple (session : PaySession) (R : Multiset Entry)
    (hnone : session.escrows = []) (address : PublicKey) :
    PayTriple start Base strict l ({session}, R) (selectHeldForUpdate session.tx address)
      fun r o => ∃ found, o = ({{ session with escrows := found }}, R) ∧
        ∀ rows, r = .ok rows → rows = found ∧ (rows.map (·.id)).Nodup ∧
          ∀ row ∈ rows, row.Claimable start strict address := by
  have hsame : session = { session with escrows := [] } := by
    rw [← hnone]
  unfold selectHeldForUpdate
  apply (scanEscrows_triple session.tx address ({session}, R)).bind
  · rintro ids o ⟨rfl, hids⟩
    have hcollect := Task.Triple.collect_found
      (H := payHost) (K := booking start Base strict l)
      (f := fun id => Task.call (I := payPlatform) (.lockEscrow session.tx address id))
      (fun id (known : List PayEscrow) =>
        lockEscrow_triple { session with escrows := known } R address id) ids []
    rw [← hsame] at hcollect
    apply hcollect.bind
    · rintro rows o ⟨found, rfl, hfound⟩
      obtain ⟨rfl, hkeys, hclaimable, -⟩ := hfound rows rfl
      apply Task.Triple.done
      refine ⟨_, rfl, ?_⟩
      rintro _ ⟨⟩
      exact ⟨rfl, (hids ids rfl).sublist hkeys, hclaimable⟩
    · rintro e o ⟨found, rfl, -⟩
      exact ⟨found, rfl, nofun⟩
  · rintro e o ⟨rfl, -⟩
    exact ⟨[], by rw [← hsame], nofun⟩

/-- The write of a balance that follows from the row that is known. -/
theorem updateBalance_triple (session : PaySession) (R : Multiset Entry)
    {account : PayCustodialAccount} (hknown : account ∈ session.accounts) (balance : Int)
    (updatedAt : Time) (cause : Entry)
    (heffect : cause.onAccounts = Finsupp.single account.id (balance - account.balance))
    (hescrows : cause.onEscrows = 0) (hsolvent : 0 ≤ balance ∨ account.balance ≤ balance) :
    PayTriple start Base strict l ({session}, R)
      (Task.call (I := payPlatform) (.updateBalance session.tx account.id balance updatedAt cause))
      fun r o => (r = .ok () →
        o = ({{ session with accounts := [], notes := session.notes + {cause} }}, R)) ∧
        ∀ e, r = .error e → o = ({session}, R) := by
  apply call_triple
  · intro s f h _
    have hrec : Reconciled start Base s ({session} + f.1, R + f.2) := h
    obtain ⟨hopen, hvalid⟩ := hrec.self_valid
    obtain ⟨howns, hfind⟩ := hvalid.accounts account hknown
    have hfree : s.accounts.Free session.tx account.id := howns.free
    have hnonneg : 0 ≤ balance := by
      have hsound := (hrec.accounts.all.view session.tx account (Table.find_mem hfind)).solvent
      omega
    have heq : servePay (.updateBalance session.tx account.id balance updatedAt cause) s =
        (.ok (), s.updateBalance session.tx account.id balance updatedAt cause) := by
      simp only [servePay, if_pos hfree, hfind]
    rw [heq]
    refine ⟨_, ⟨fun _ => rfl, fun _ he => by cases he⟩, ?_⟩
    apply Reconciled.write_account
      { session with accounts := [], notes := session.notes + {cause} } [cause] hrec
      (g := fun row => { row with balance := balance, updatedAt := updatedAt })
      (fun _ => rfl) hfree hfind
    · rw [Multiset.coe_singleton, onAccounts_singleton]
      exact heffect
    · rw [Multiset.coe_singleton, onEscrows_singleton]
      exact hescrows
    · exact hnonneg
    · rfl
    · rfl
    · exact fun _ hrow => by cases hrow
    · rfl
    · rfl
  · exact fun _ e => ⟨fun he => (by cases he), fun _ _ => rfl⟩

/-- The mark on an escrow that is known. -/
theorem markClaimed_triple (session : PaySession) (R : Multiset Entry) {escrow : PayEscrow}
    {rest : List PayEscrow} (hknown : session.escrows = escrow :: rest)
    (hdistinct : (session.escrows.map (·.id)).Nodup) {updatedAt : Time} :
    PayTriple start Base strict l ({session}, R)
      (Task.call (I := payPlatform) (.markClaimed session.tx escrow.id updatedAt))
      fun r o => (r = .ok () →
        o = ({{ session with escrows := rest, notes := session.notes + escrow.released }}, R)) ∧
        ∀ e, r = .error e → o = ({session}, R) := by
  apply call_triple
  · intro s f h _
    have hrec : Reconciled start Base s ({session} + f.1, R + f.2) := h
    obtain ⟨hopen, hvalid⟩ := hrec.self_valid
    obtain ⟨howns, hfind⟩ := hvalid.escrows escrow (by rw [hknown]; exact List.mem_cons_self)
    have hfree : s.escrows.Free session.tx escrow.id := howns.free
    have heq : servePay (.markClaimed session.tx escrow.id updatedAt) s =
        (.ok (), s.markClaimed session.tx escrow.id updatedAt escrow) := by
      simp only [servePay, if_pos hfree, hfind]
    rw [heq]
    refine ⟨_, ⟨fun _ => rfl, fun _ he => by cases he⟩, ?_⟩
    have hmeasure : ({ escrow with status := .claimed, updatedAt := updatedAt } : PayEscrow).measure =
        0 := if_neg (by simp [PayEscrow.IsHeld])
    apply Reconciled.write_escrow
      { session with escrows := rest, notes := session.notes + escrow.released } escrow.released hrec
      (g := fun row => { row with status := .claimed, updatedAt := updatedAt })
      (fun _ => rfl) hfree hfind
    · rw [escrow.onEscrows_released, hmeasure, zero_sub]
    · exact escrow.onAccounts_released
    · rfl
    · rfl
    · intro row hrow
      rw [hknown, List.map_cons, List.nodup_cons] at hdistinct
      refine .inr ⟨hknown ▸ List.mem_cons_of_mem _ hrow, ?_⟩
      intro hsame
      exact hdistinct.1 (hsame ▸ List.mem_map_of_mem hrow)
    · rfl
    · rfl
  · exact fun _ e => ⟨fun he => (by cases he), fun _ _ => rfl⟩

/-- The insert of an escrow: under the condition it cannot fail. -/
theorem insertEscrow_triple (R : Multiset Entry) (escrow : PayEscrow) (hamount : 0 ≤ escrow.amount) :
    PayTriple start Base strict l (0, R) (Task.call (I := payPlatform) (.createEscrow escrow))
      fun r o => (r = .ok () ∧ o = (0, R + escrow.created)) ∨
        (¬ strict ∧ (∃ e, r = .error e) ∧ o = (0, R)) := by
  apply call_triple
  · intro s f h hkeeps
    have hrec : Reconciled start Base s (0 + f.1, R + f.2) := h
    cases hins : s.escrows.insert? escrow with
    | some escrows =>
      have heq : servePay (.createEscrow escrow) s = (.ok (), { s with
          escrows := escrows, ledger := s.ledger ++ escrow.created }) := by
        simp only [servePay, hins]
      rw [heq]
      refine ⟨_, .inl ⟨rfl, rfl⟩, ?_⟩
      have hnext := hrec.createEscrow hins hamount
      rw [add_right_comm] at hnext
      exact hnext
    | none =>
      have heq : servePay (.createEscrow escrow) s = (.error constraintViolation, s) := by
        simp only [servePay, hins]
      rw [heq]
      refine ⟨(0, R), .inr ⟨?_, ⟨_, rfl⟩, rfl⟩, h⟩
      intro hstrict
      have hnone : s.escrows.table.find escrow.id = none := (hkeeps hstrict).2
      have htaken : s.escrows.table.insert? escrow = none := Option.map_eq_none_iff.mp hins
      obtain ⟨row, hrow⟩ := Table.insert?_eq_none htaken
      rw [hnone] at hrow
      cases hrow
  · exact fun hmay e => .inr ⟨hmay, ⟨e, rfl⟩, rfl⟩

/-- The body of a transaction ends in its session; a value it returns goes with
notes that may be committed. -/
def Leaves (tx : Nat) (R : Multiset Entry) (Q : α → Multiset Entry → Prop) (r : Except Err α)
    (own : PayOwn) : Prop :=
  ∃ session : PaySession, session.tx = tx ∧ own = ({session}, R) ∧
    ∀ a, r = .ok a → Q a session.notes ∧ Committable session.notes

theorem leaves_error {tx : Nat} {R : Multiset Entry} {Q : α → Multiset Entry → Prop}
    (session : PaySession) (htx : session.tx = tx) (e : Err) :
    Leaves tx R Q (.error e) ({session}, R) :=
  ⟨session, htx, rfl, nofun⟩

theorem leaves_ok {tx : Nat} {R : Multiset Entry} {Q : α → Multiset Entry → Prop} {a : α}
    (session : PaySession) (htx : session.tx = tx) (hQ : Q a session.notes)
    (hnotes : Committable session.notes) : Leaves tx R Q (.ok a) ({session}, R) := by
  refine ⟨session, htx, rfl, ?_⟩
  rintro a ⟨⟩
  exact ⟨hQ, hnotes⟩

/-- `drizzleClient.transaction`: the entries of the body are committed, or none. -/
theorem transaction_triple {body : Nat → PayPromise α} {R : Multiset Entry}
    {Q : α → Multiset Entry → Prop}
    (hbody : ∀ tx, PayTriple start Base strict l ({⟨tx, [], [], 0⟩}, R) (body tx)
      (Leaves tx R Q)) :
    PayTriple start Base strict l (0, R) (transaction body) fun r o =>
      (∃ a notes, r = .ok a ∧ Q a notes ∧ o = (0, R + notes)) ∨
        ((∃ e, r = .error e) ∧ o = (0, R)) := by
  have hbegin : PayTriple start Base strict l (0, R) (Task.call (I := payPlatform) .begin)
      fun r o => (∃ tx : Nat, r = .ok tx ∧ o = ({⟨tx, [], [], 0⟩}, R)) ∨
        ((∃ e, r = .error e) ∧ o = (0, R)) := by
    apply call_triple
    · intro s f h _
      have hrec : Reconciled start Base s (0 + f.1, R + f.2) := h
      refine ⟨_, .inl ⟨s.nextTx, rfl, rfl⟩, ?_⟩
      rw [zero_add] at hrec
      exact hrec.begin
    · exact fun _ e => .inr ⟨⟨e, rfl⟩, rfl⟩
  have hdrop : ∀ {session : PaySession} {s : PayState} {f : PayOwn},
      Reconciled start Base s (({session}, R) + f) → Reconciled start Base s ((0, R) + f) := by
    intro session s f h
    have hrec : Reconciled start Base s ({session} + f.1, R + f.2) := h
    have hnext := hrec.drop
    rw [← zero_add f.1] at hnext
    exact hnext
  have hrollback : ∀ session : PaySession, PayTriple start Base strict l ({session}, R)
      (Task.call (I := payPlatform) (.rollback session.tx)) fun _ o => o = (0, R) := by
    intro session
    apply Task.Triple.call
    · intro s f h _
      have hrec : Reconciled start Base s ({session} + f.1, R + f.2) := h
      have hnext := hrec.rollback
      rw [← zero_add f.1] at hnext
      exact ⟨(0, R), rfl, hnext⟩
    · exact fun s f h _ e => ⟨(0, R), rfl, hdrop h⟩
  have hcommit : ∀ session : PaySession, Committable session.notes →
      PayTriple start Base strict l ({session}, R)
        (Task.call (I := payPlatform) (.commit session.tx)) fun r o =>
          (r = .ok () ∧ o = (0, R + session.notes)) ∨ ((∃ e, r = .error e) ∧ o = (0, R)) := by
    intro session hnotes
    apply Task.Triple.call
    · intro s f h _
      have hrec : Reconciled start Base s ({session} + f.1, R + f.2) := h
      have hnext := hrec.commit hnotes
      rw [← zero_add f.1, add_right_comm] at hnext
      exact ⟨(0, R + session.notes), .inl ⟨rfl, rfl⟩, hnext⟩
    · exact fun s f h _ e => ⟨(0, R), .inr ⟨⟨e, rfl⟩, rfl⟩, hdrop h⟩
  unfold transaction
  apply hbegin.bind
  · rintro tx o (⟨_, ⟨⟩, rfl⟩ | ⟨⟨e, ⟨⟩⟩, -⟩)
    have hrecover : PayTriple start Base strict l ({⟨tx, [], [], 0⟩}, R)
        ((body tx).recover fun error => do
          Task.call (I := payPlatform) (.rollback tx)
          Task.fail error) fun r o =>
        (∃ (session : PaySession) (a : α), session.tx = tx ∧ o = ({session}, R) ∧ r = .ok a ∧
          Q a session.notes ∧ Committable session.notes) ∨ ((∃ e, r = .error e) ∧ o = (0, R)) := by
      apply (hbody tx).recover
      · rintro a o ⟨session, htx, rfl, hQ⟩
        exact .inl ⟨session, a, htx, rfl, rfl, hQ a rfl⟩
      · rintro e o ⟨session, rfl, rfl, -⟩
        apply (hrollback session).bind
        · rintro _ o rfl
          exact Task.Triple.done (.inr ⟨⟨_, rfl⟩, rfl⟩)
        · rintro e o rfl
          exact .inr ⟨⟨e, rfl⟩, rfl⟩
    apply hrecover.bind
    · rintro a o (⟨session, _, rfl, rfl, ⟨⟩, hQ, hnotes⟩ | ⟨⟨e, ⟨⟩⟩, -⟩)
      apply (hcommit session hnotes).bind
      · rintro _ o (⟨-, rfl⟩ | ⟨⟨e, ⟨⟩⟩, -⟩)
        exact Task.Triple.done (.inl ⟨a, session.notes, rfl, hQ, rfl⟩)
      · rintro e o (⟨⟨⟩, -⟩ | ⟨-, rfl⟩)
        exact .inr ⟨⟨e, rfl⟩, rfl⟩
    · rintro e o (⟨session, a, -, -, ⟨⟩, -⟩ | ⟨-, rfl⟩)
      exact .inr ⟨⟨e, rfl⟩, rfl⟩
  · rintro e o (⟨tx, ⟨⟩, -⟩ | ⟨-, rfl⟩)
    exact .inr ⟨⟨e, rfl⟩, rfl⟩

end Requests

end ProviderPlatform
