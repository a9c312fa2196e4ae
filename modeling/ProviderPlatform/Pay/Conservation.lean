import ProviderPlatform.Pay.Concurrency
import ProviderPlatform.Async.Solo

/-! # What sends and claims keep

Calls that run one after the other, with any database call of each throwing at
any point. While no insert of an escrow throws, and every escrow of mode
custodial that a claim locks has an account to go to, each call leaves the sum
of all balances and all held escrows as it was: it moves money between them or
does nothing. -/
namespace ProviderPlatform
open Async Store

/-! ## What moves leave as it is -/

section Moves
variable (moves : Multiset Move)

theorem sum_balanceChange (id : AccountId) :
    (((moves.map Move.entries).sum).map (·.balanceChange id)).sum =
      (moves.map (·.balanceChange id)).sum := by
  induction moves using Multiset.induction with
  | empty => rfl
  | cons move moves ih =>
    have hone : (move.entries.map (·.balanceChange id)).sum = move.balanceChange id := by
      cases move <;> simp [Move.entries, Entry.balanceChange, Move.balanceChange]
    rw [Multiset.map_cons, Multiset.sum_cons, Multiset.map_add, Multiset.sum_add, hone, ih,
      Multiset.map_cons, Multiset.sum_cons]

theorem sum_heldChange (id : EscrowId) :
    (((moves.map Move.entries).sum).map (·.heldChange id)).sum =
      (moves.map (·.heldChange id)).sum := by
  induction moves using Multiset.induction with
  | empty => rfl
  | cons move moves ih =>
    have hone : (move.entries.map (·.heldChange id)).sum = move.heldChange id := by
      cases move <;> simp [Move.entries, Entry.heldChange, Move.heldChange]
    rw [Multiset.map_cons, Multiset.sum_cons, Multiset.map_add, Multiset.sum_add, hone, ih,
      Multiset.map_cons, Multiset.sum_cons]

/-- What entries add to the balances and the escrows together. -/
theorem net_eq (entries : Multiset Entry) : (entries.map Entry.net).sum =
    Table.sumOf (onAccounts entries) + (Table.sumOf (onEscrows entries)).1 := by
  induction entries using Multiset.induction with
  | empty => simp
  | cons entry entries ih =>
    rw [← Multiset.singleton_add, onAccounts_add, onEscrows_add, map_add, map_add, Prod.fst_add,
      onAccounts_singleton, onEscrows_singleton, Multiset.map_add, Multiset.sum_add, ih,
      Multiset.map_singleton, Multiset.sum_singleton, entry.net_eq]
    abel

theorem moves_net : (((moves.map Move.entries).sum).map Entry.net).sum = 0 := by
  induction moves using Multiset.induction with
  | empty => rfl
  | cons move moves ih =>
    have hone : (move.entries.map Entry.net).sum = 0 := by
      cases move <;> simp [Move.entries, Entry.net]
    rw [Multiset.map_cons, Multiset.sum_cons, Multiset.map_add, Multiset.sum_add, hone, ih,
      add_zero]

end Moves

theorem PayState.value_eq (s : PayState) : s.value =
    Table.sumOf (s.accounts.table.worth fun account : PayCustodialAccount => account.balance) +
      (Table.sumOf (s.escrows.table.worth fun escrow : PayEscrow => escrow.measure)).1 := by
  have hheld : s.escrows.table.total (fun escrow : PayEscrow => escrow.measure.1) =
      (s.escrows.table.total fun escrow : PayEscrow => escrow.measure).1 := by
    unfold Table.total
    rw [← AddMonoidHom.coe_fst, map_list_sum, List.map_map]
    rfl
  rw [PayState.value, hheld, Table.total_eq, Table.total_eq]

/-- The balances and the escrows differ by the moves. -/
structure Moved (s s' : PayState) (moves : Multiset Move) : Prop where
  balance : ∀ id, s'.balance id = s.balance id + (moves.map (·.balanceChange id)).sum
  held : ∀ id, s'.heldAmount id = s.heldAmount id + (moves.map (·.heldChange id)).sum

section Reconciled
variable {start s s' : PayState} {Base Base' : Multiset Entry → Prop} {own own' : PayOwn}
  {entries : Multiset Entry}

theorem Reconciled.heldAmount_eq (h : Reconciled start Base s own) (id : EscrowId) :
    s.heldAmount id =
      start.heldAmount id + (((s.ledger : Multiset Entry)).map (·.heldChange id)).sum := by
  have hworth : ∀ s : PayState, (s.escrows.table.worth (·.measure) id).1 = s.heldAmount id := by
    intro s
    rw [Table.worth_apply, PayState.heldAmount]
    cases s.escrows.table.find id <;> rfl
  have hlaw := congrArg Prod.fst (DFunLike.congr_fun h.held id)
  rwa [Finsupp.add_apply, onEscrows_apply, Prod.fst_add, hworth, hworth] at hlaw

/-- Two states of one history differ by the entries in between. -/
theorem moved_of_entries (h : Reconciled start Base s own) (h' : Reconciled start Base' s' own')
    {moves : Multiset Move}
    (hledger : (s'.ledger : Multiset Entry) = s.ledger + (moves.map Move.entries).sum) :
    Moved s s' moves ∧ s'.value = s.value := by
  refine ⟨⟨?_, ?_⟩, ?_⟩
  · intro id
    have hsum := congrArg (fun entries => (entries.map (·.balanceChange id)).sum) hledger
    simp only [Multiset.map_add, Multiset.sum_add, sum_balanceChange, Multiset.map_coe,
      Multiset.sum_coe] at hsum
    rw [h.balance_eq, h'.balance_eq, hsum, add_assoc]
  · intro id
    rw [h.heldAmount_eq, h'.heldAmount_eq, hledger, Multiset.map_add, Multiset.sum_add,
      sum_heldChange, add_assoc]
  · have hnet := net_eq (moves.map Move.entries).sum
    rw [moves_net] at hnet
    rw [s'.value_eq, s.value_eq, h.balances, h'.balances, h.held, h'.held, hledger, onAccounts_add,
      onEscrows_add]
    simp only [map_add, Prod.fst_add]
    omega

end Reconciled

/-! ## One call after the other -/

/-- A send finds that its receiver is not verified. -/
def FindsUnverified (l : PayCall) : Step payPlatform PayState → Prop
  | .served s q => l.Finds s q
  | _ => True

/-- No insert of an escrow throws, and no escrow of mode custodial is claimed
without an account for it. -/
def KeepsEscrows : Step payPlatform PayState → Prop
  | .ran _ _ => True
  | .served s q => q.Keeps s
  | .rejected _ q _ => q.MayThrow
  | .stopped _ _ => False

instance (l : PayCall) : (st : Step payPlatform PayState) → Decidable (FindsUnverified l st)
  | .served s q => inferInstanceAs (Decidable (l.Finds s q))
  | .ran _ _ | .rejected _ _ _ | .stopped _ _ => .isTrue trivial

instance : (st : Step payPlatform PayState) → Decidable (KeepsEscrows st)
  | .ran _ _ => .isTrue trivial
  | .served s q => inferInstanceAs (Decidable (q.Keeps s))
  | .rejected _ q _ => inferInstanceAs (Decidable q.MayThrow)
  | .stopped _ _ => .isFalse id

/-- Calls that are run to their end one after the other, with the world in
between. -/
inductive PaySequence (isValid : String → Bool) (s : PayState) : PayState → Prop
  | start : PaySequence isValid s s
  | call {s' : PayState} (l : PayCall) (bs : List (Beat Err)) : PaySequence isValid s s' →
      (∀ b ∈ bs, Beat.Lives b) →
      PaySequence isValid s ((l.program isValid).eval payHost bs s').2.2
  | drift {s' : PayState} (d : PayDrift) : PaySequence isValid s s' →
      PaySequence isValid s ((payProcess isValid).drift d s')

section Sequence
variable {isValid : String → Bool} {start s : PayState} {l : PayCall} {bs : List (Beat Err)}

theorem pass_reconciled {Base : Multiset Entry → Prop} (n : Nat) (s : PayState) (own : PayOwn)
    (h : Reconciled start Base s own) : Reconciled start Base (payHost.pass n s) own :=
  h.of_eq rfl rfl rfl rfl rfl

/-- Nobody needs to remember what was committed. -/
theorem Reconciled.forget_receipts {R : Multiset Entry}
    (h : Reconciled start (fun _ => True) s (0, R)) : Reconciled start (fun _ => True) s 0 := by
  obtain ⟨base, -, hledger⟩ := h.receipts
  exact { h with receipts := ⟨base + R, trivial, by rw [hledger]; exact (add_zero _).symm⟩ }

theorem sequence_reconciled (hfresh : start.Fresh) (h : PaySequence isValid start s) :
    Reconciled start (fun _ => True) s 0 := by
  induction h with
  | start => exact hfresh.reconciled
  | drift d _ ih => cases d <;> exact ih.of_eq rfl rfl rfl rfl rfl
  | @call s' l bs _ hlives ih =>
    have htriple : PayTriple start (fun _ => True) False l 0 (l.program isValid)
        fun _ o => Made isValid False l o := payProgram_triple isValid l
    have hallows : ∀ st ∈ (l.program isValid).trace payHost bs s',
        (booking start (fun _ => True) False l).Allows st := by
      intro st hst
      have hstop := Task.trace_lives payHost _ bs s' hlives st hst
      cases st with
      | ran s o => trivial
      | served s q => exact False.elim
      | rejected s q e => exact False.elim
      | stopped s q => exact hstop s q rfl
    obtain ⟨r, ⟨S, R⟩, -, ⟨hnone, -⟩, hrec⟩ := htriple.eval pass_reconciled ih hallows
    have hS : S = 0 := hnone
    subst hS
    exact Reconciled.forget_receipts hrec

/-- **Sends and claims move money.** While no insert of an escrow throws or
meets a taken id, and no escrow of mode custodial is claimed for an address
without an account, a call moves money between the balances and the escrows, or
nothing, and leaves their sum. -/
theorem custodial_value (isValid : String → Bool) (hfresh : start.Fresh)
    (h : PaySequence isValid start s) (l : PayCall) (bs : List (Beat Err))
    (hunverified : ∀ st ∈ (l.program isValid).trace payHost bs s, FindsUnverified l st)
    (hkeeps : ∀ st ∈ (l.program isValid).trace payHost bs s, KeepsEscrows st) :
    ∃ moves, l.Makes isValid moves ∧
      Moved s ((l.program isValid).eval payHost bs s).2.2 moves ∧
      ((l.program isValid).eval payHost bs s).2.2.value = s.value := by
  have hrec := sequence_reconciled hfresh h
  have hbase : Reconciled start (· = (s.ledger : Multiset Entry)) s 0 :=
    { hrec with receipts := ⟨s.ledger, rfl, (add_zero _).symm⟩ }
  have htriple : PayTriple start (· = (s.ledger : Multiset Entry)) True l 0 (l.program isValid)
      fun _ o => Made isValid True l o := payProgram_triple isValid l
  have hallows : ∀ st ∈ (l.program isValid).trace payHost bs s,
      (booking start (· = (s.ledger : Multiset Entry)) True l).Allows st := by
    intro st hst
    have hfinds := hunverified st hst
    have hkeep := hkeeps st hst
    cases st with
    | ran s o => trivial
    | served s q => exact fun _ => ⟨hfinds, hkeep⟩
    | rejected s q e => exact fun _ => hkeep
    | stopped s q => exact hkeep
  obtain ⟨r, ⟨S, R⟩, -, ⟨-, hmade⟩, hnext⟩ := htriple.eval pass_reconciled hbase hallows
  obtain ⟨moves, hmakes, hR⟩ := hmade trivial
  obtain ⟨base, rfl, hledger⟩ := hnext.receipts
  have hR : R = (moves.map Move.entries).sum := hR
  subst hR
  exact ⟨moves, hmakes, moved_of_entries hrec hnext hledger⟩

end Sequence

namespace Small

/-- The address of the receiver is verified after a send, with no account. -/
def verifiedLater : PayState :=
  (payProcess fun _ => true).drift (.kyc ⟨[⟨"GC", .verified, none, none⟩], List.nodup_singleton _⟩)
    ((send.program fun _ => true).eval payHost [] payState).2.2

/-- The ninth request fails, which is the insert of the escrow. -/
def insertFails : List (Beat Err) :=
  List.replicate 8 .calm ++ [⟨0, .reject (.database "connection terminated")⟩]

end Small

theorem custodial_value_send : ∃ moves, Small.send.Makes (fun _ => true) moves ∧
    Moved Small.payState ((Small.send.program fun _ => true).eval payHost [] Small.payState).2.2
      moves ∧
    ((Small.send.program fun _ => true).eval payHost [] Small.payState).2.2.value =
      Small.payState.value :=
  custodial_value (fun _ => true) Small.payState_fresh .start Small.send []
    (by decide +kernel) (by decide +kernel)

/-- A send whose escrow cannot be inserted loses its amount, and so does a claim
for an address that has no account. -/
theorem custodial_value_lost :
    (¬ ∀ (isValid : String → Bool) (start s : PayState) (l : PayCall) (bs : List (Beat Err)),
      start.Fresh → PaySequence isValid start s → (∀ b ∈ bs, Beat.Lives b) →
      (∀ st ∈ (l.program isValid).trace payHost bs s, FindsUnverified l st) →
      ((l.program isValid).eval payHost bs s).2.2.value = s.value) ∧
    ¬ ∀ (isValid : String → Bool) (start s : PayState) (address : PublicKey),
      start.Fresh → PaySequence isValid start s →
      (((PayCall.claim address).program isValid).eval payHost [] s).2.2.value = s.value := by
  constructor
  · intro h
    have hvalue := h (fun _ => true) Small.payState Small.payState Small.send Small.insertFails
      Small.payState_fresh .start ?_ (by decide +kernel)
    · revert hvalue
      decide +kernel
    · intro b hb
      rcases List.mem_append.mp hb with hb | hb
      · rw [List.eq_of_mem_replicate hb]
        exact Beat.calm_lives
      · rw [List.mem_singleton.mp hb]
        nofun
  · intro h
    have hvalue := h (fun _ => true) Small.payState Small.verifiedLater "GC" Small.payState_fresh
      (.drift _ (.call Small.send [] .start (by simp)))
    revert hvalue
    decide +kernel

end ProviderPlatform
