import ProviderPlatform.Bundle.Checks
import Mathlib.Algebra.Order.BigOperators.Group.List
import Mathlib.Tactic.Ring
import Mathlib.Tactic.Linarith

/-! # The value of a built transaction

A built transaction holds one fee CREATE and every operation of every bundle
once. Admission computes the fee of a bundle from its deposits or, if there
are none, from its spends, never from both: the transaction of a slot is in
balance exactly when the inflows the fees left out cancel. -/
namespace ProviderPlatform
open Async

/-! ## Value -/

/-- What an operation brings in; a spend brings the balance of its UTXO. -/
def MoonlightOperation.inflow (balance : UtxoId → Int) : MoonlightOperation → Int
  | .deposit op => op.amount
  | .spend op => balance op.utxo
  | _ => 0

/-- What an operation takes out. -/
def MoonlightOperation.outflow : MoonlightOperation → Int
  | .create op => op.amount
  | .withdraw op => op.amount
  | _ => 0

/-- As much comes in as goes out. -/
def Balanced (balance : UtxoId → Int) (operations : List MoonlightOperation) : Prop :=
  (operations.map (·.inflow balance)).sum = (operations.map (·.outflow)).sum

instance (balance : UtxoId → Int) (operations : List MoonlightOperation) :
    Decidable (Balanced balance operations) :=
  inferInstanceAs (Decidable (_ = (_ : Int)))

/-- The balances of the spends of a bundle, together. -/
def ClassifiedOperations.spent (balance : UtxoId → Int) (classified : ClassifiedOperations) : Int :=
  (classified.spend.map fun op => balance op.utxo).sum

def ClassifiedOperations.deposited (classified : ClassifiedOperations) : Int :=
  (classified.deposit.map (·.amount)).sum

/-- The inflow of a bundle that its fee leaves out: the spends if there are
deposits, else the deposits (which then total at most zero). -/
def ClassifiedOperations.uncounted (balance : UtxoId → Int) (classified : ClassifiedOperations) :
    Int :=
  if classified.deposited ≤ 0 then classified.deposited else classified.spent balance

/-! ## Operations of a bundle -/

/-- The executor adds every operation of a bundle once. -/
theorem bundleOperations_perm {bundle : SlotBundle} {operations : List MoonlightOperation}
    (h : bundle.operations = classifyOperations operations) :
    (bundleOperations bundle).Perm operations := by
  unfold bundleOperations
  rw [h]
  clear h
  induction operations with
  | nil => exact .refl _
  | cons op operations ih =>
    cases op with
    | deposit op => exact ih.cons _
    | create op =>
      exact ((List.perm_middle.append_right _).append_right _).trans (ih.cons _)
    | spend op => exact (List.perm_middle.append_right _).trans (ih.cons _)
    | withdraw op => exact List.perm_middle.trans (ih.cons _)

theorem sum_inflow_bundleOperations (balance : UtxoId → Int) (bundle : SlotBundle) :
    ((bundleOperations bundle).map (·.inflow balance)).sum =
      bundle.operations.deposited + bundle.operations.spent balance := by
  simp [bundleOperations, MoonlightOperation.inflow, ClassifiedOperations.deposited,
    ClassifiedOperations.spent, Function.comp_def]

theorem sum_outflow_bundleOperations (bundle : SlotBundle) :
    ((bundleOperations bundle).map (·.outflow)).sum =
      (bundle.operations.create.map (·.amount)).sum +
        (bundle.operations.withdraw.map (·.amount)).sum := by
  simp [bundleOperations, MoonlightOperation.outflow, Function.comp_def]

/-! ## Admission -/

theorem feeOf_of_deposited_le {balance : UtxoId → Int} {classified : ClassifiedOperations}
    (h : classified.deposited ≤ 0) :
    feeOf balance classified = classified.spent balance -
      ((classified.create.map (·.amount)).sum + (classified.withdraw.map (·.amount)).sum) :=
  if_pos h

theorem feeOf_of_deposited_pos {balance : UtxoId → Int} {classified : ClassifiedOperations}
    (h : ¬ classified.deposited ≤ 0) :
    feeOf balance classified = classified.deposited -
      ((classified.create.map (·.amount)).sum + (classified.withdraw.map (·.amount)).sum) :=
  if_neg h

/-- The fee falls short of the balance of the bundle by the uncounted inflow. -/
theorem feeOf_add_uncounted (balance : UtxoId → Int) (bundle : SlotBundle) :
    feeOf balance bundle.operations + bundle.operations.uncounted balance =
      ((bundleOperations bundle).map (·.inflow balance)).sum -
        ((bundleOperations bundle).map (·.outflow)).sum := by
  rw [sum_inflow_bundleOperations, sum_outflow_bundleOperations, ClassifiedOperations.uncounted]
  by_cases hd : bundle.operations.deposited ≤ 0
  · rw [feeOf_of_deposited_le hd, if_pos hd]
    ring
  · rw [feeOf_of_deposited_pos hd, if_neg hd]
    ring

/-- The balances on the network are these. -/
def BalancesAre (balance : ContractId → UtxoId → Int) (s : State) : Prop :=
  s.network.balance = balance

theorem stable_balancesAre (balance : ContractId → UtxoId → Int) : Stable (BalancesAre balance) where
  runOp o s _ hs := by
    rw [BalancesAre, runOp_network]
    exact hs
  serve q s _ hs := by
    cases q with
    | rpc r =>
      cases r with
      | invokeRaw ctx operations =>
        simp only [serve, Rpc.run]
        split
        · exact hs
        · split <;> exact hs
      | _ => exact hs
    | _ => exact hs
  pass _ _ hs := hs

/-- A slot bundle carries the operations and the fee of a request that passed
the checks, under the balances of its channel. -/
def Admitted (cfg : Config) (balance : UtxoId → Int) (bundle : SlotBundle) : Prop :=
  ∃ input adm bs s, ((checkRequest cfg input).eval host bs s).1 = some (.ok adm) ∧
    s.network.balance adm.channelClient = balance ∧
    bundle.operationsMLXDR = input.operationsMLXDR ∧ bundle.operations = adm.classified ∧
    bundle.fee = adm.fee

section Admitted
variable {cfg : Config} {balance : UtxoId → Int} {bundle : SlotBundle}

theorem Admitted.operations (h : Admitted cfg balance bundle) :
    (bundleOperations bundle).Perm (bundle.operationsMLXDR.filterMap cfg.fromMLXDR) := by
  obtain ⟨input, adm, bs, s, heval, -, hmlxdr, hops, -⟩ := h
  have hchecked := (checkRequest_gives (stable_balancesAre _) input).value rfl heval
  exact hmlxdr ▸ bundleOperations_perm (hops.trans hchecked.classified)

theorem Admitted.fee (h : Admitted cfg balance bundle) :
    bundle.fee = feeOf balance bundle.operations ∧ 1 ≤ bundle.fee := by
  obtain ⟨input, adm, bs, s, heval, hbal, -, hops, hfee⟩ := h
  have hchecked := (checkRequest_gives (stable_balancesAre _) input).value rfl heval
  obtain ⟨s', hs', hs'fee⟩ := hchecked.fee
  rw [show s'.network.balance = s.network.balance from hs'] at hs'fee
  rw [hfee, hops, ← hbal]
  exact ⟨hs'fee, hchecked.positive⟩

end Admitted

/-! ## Building -/

section Build
variable {cfg : Config}

theorem addOperations_ok : ∀ {ops added built : List MoonlightOperation},
    addOperations cfg added ops = .ok built → built = added ++ ops
  | [], added, built, h => by simpa using (Except.ok.inj h).symm
  | op :: ops, added, built, h => by
    rw [addOperations] at h
    split at h
    · simpa using addOperations_ok h
    · cases h

theorem slotOperations_ok {bundles : List SlotBundle} {utxo : UtxoId}
    {built : List MoonlightOperation} (h : slotOperations cfg bundles utxo = .ok built) :
    built = .create ⟨utxo, totalFee bundles⟩ :: bundles.flatMap bundleOperations := by
  unfold slotOperations at h
  split at h
  · cases h
  · rename_i feeOperation hfee
    rw [addOperations_ok h]
    unfold createFeeOperation at hfee
    split at hfee
    · cases hfee
      rfl
    · cases hfee

theorem buildTransactionFromSlot_gives {ok : Beat Err → Prop} (bundles : List SlotBundle)
    (ctx : ChannelContext) :
    Task.Gives host ok (fun _ => True) (buildTransactionFromSlot cfg bundles ctx) fun build =>
      ∃ utxo, build.operations =
        .create ⟨utxo, totalFee bundles⟩ :: bundles.flatMap bundleOperations := by
  unfold buildTransactionFromSlot
  split
  · exact .fail _
  refine Task.Gives.bind (Q := fun _ => True) (.call (fun _ _ _ => trivial) fun _ _ =>
    ⟨trivial, fun _ _ => trivial⟩) fun reserved _ => ?_
  rcases reserved with ⟨_ | utxo, n⟩
  · exact .fail _
  · refine (Task.Gives.done fun _ => slotOperations_ok).bind fun operations hops => .pure ?_
    exact ⟨utxo, hops⟩

theorem addOperations_total (h : ∀ added op, cfg.acceptsOperation added op = true) :
    ∀ ops added, addOperations cfg added ops = .ok (added ++ ops)
  | [], added => by simp [addOperations]
  | op :: ops, added => by
    rw [addOperations, if_pos (h _ _), addOperations_total h ops]
    simp

/-- A positive fee and a builder that takes every operation. -/
theorem slotOperations_total (h : ∀ added op, cfg.acceptsOperation added op = true)
    {bundles : List SlotBundle} (hfee : 0 < totalFee bundles) (utxo : UtxoId) :
    slotOperations cfg bundles utxo =
      .ok (.create ⟨utxo, totalFee bundles⟩ :: bundles.flatMap bundleOperations) := by
  rw [slotOperations, createFeeOperation, if_pos hfee]
  exact addOperations_total h _ _

end Build

/-! ## Conservation -/

section Conservation
variable {cfg : Config} {balance : UtxoId → Int}

theorem totalFee_add_uncounted {bundles : List SlotBundle}
    (h : ∀ b ∈ bundles, Admitted cfg balance b) :
    totalFee bundles + (bundles.map (·.operations.uncounted balance)).sum =
      ((bundles.flatMap bundleOperations).map (·.inflow balance)).sum -
        ((bundles.flatMap bundleOperations).map (·.outflow)).sum := by
  induction bundles with
  | nil => rfl
  | cons b bundles ih =>
    obtain ⟨hb, hbundles⟩ := List.forall_mem_cons.mp h
    have hfee := feeOf_add_uncounted balance b
    rw [← hb.fee.1] at hfee
    have htail := ih hbundles
    simp only [totalFee, List.map_cons, List.sum_cons, List.flatMap_cons, List.map_append,
      List.sum_append] at htail ⊢
    linarith

theorem totalFee_pos {bundles : List SlotBundle} (h : ∀ b ∈ bundles, Admitted cfg balance b)
    (hne : bundles ≠ []) : 0 < totalFee bundles := by
  refine List.sum_pos _ (fun fee hfee => ?_) (by simpa using hne)
  obtain ⟨b, hb, rfl⟩ := List.mem_map.mp hfee
  exact (h b hb).fee.2

theorem balanced_iff {bundles : List SlotBundle} (h : ∀ b ∈ bundles, Admitted cfg balance b)
    (utxo : UtxoId) :
    Balanced balance (.create ⟨utxo, totalFee bundles⟩ :: bundles.flatMap bundleOperations) ↔
      (bundles.map (·.operations.uncounted balance)).sum = 0 := by
  have hsum := totalFee_add_uncounted h
  rw [Balanced, List.map_cons, List.sum_cons, List.map_cons, List.sum_cons]
  change 0 + _ = totalFee bundles + _ ↔ _
  constructor
  · intro hbal
    linarith
  · intro hzero
    linarith

/-- **The value of a built transaction.** Whatever the schedule, a transaction
built from admitted bundles holds one CREATE of the total fee and every
operation of every bundle once; it is in balance exactly when the inflows left
out of the fees cancel. One is built if a UTXO is free and the builder takes
every operation. -/
theorem value_conserved {slot : Slot} (h : ∀ b ∈ slot.bundles, Admitted cfg balance b)
    (ctx : ChannelContext) :
    (∀ bs s build,
      ((buildTransactionFromSlot cfg slot.getBundles ctx).eval host bs s).1 = some (.ok build) →
      (∃ utxo, build.operations.Perm (.create ⟨utxo, totalFee slot.bundles⟩ ::
        slot.bundles.flatMap fun b => b.operationsMLXDR.filterMap cfg.fromMLXDR)) ∧
      (Balanced balance build.operations ↔
        (slot.bundles.map (·.operations.uncounted balance)).sum = 0)) ∧
    (slot.bundles ≠ [] → (∀ added op, cfg.acceptsOperation added op = true) →
      ∀ s : State, s.network.freeUtxos ctx ≠ [] → ∃ build,
        ((buildTransactionFromSlot cfg slot.getBundles ctx).eval host [] s).1 = some (.ok build)) := by
  refine ⟨fun bs s build hbuild => ?_, fun hne haccept s hfree => ?_⟩
  · obtain ⟨utxo, hops⟩ := (buildTransactionFromSlot_gives slot.getBundles ctx).value trivial hbuild
    rw [hops]
    refine ⟨⟨utxo, .cons _ ?_⟩, balanced_iff h utxo⟩
    exact List.Perm.flatMap_left _ fun b hb => (h b hb).operations
  · obtain ⟨utxo, utxos, hfree⟩ := List.exists_cons_of_ne_nil hfree
    have hbuilt := slotOperations_total haccept (totalFee_pos h hne) utxo
    refine ⟨⟨.create ⟨utxo, totalFee slot.bundles⟩ :: slot.bundles.flatMap bundleOperations,
      totalFee slot.bundles, slot.bundles.map (·.bundleId)⟩, ?_⟩
    rw [buildTransactionFromSlot, if_neg (by simpa [Slot.getBundles] using hne)]
    simp only [rpc, Task.call, Task.bind_eq_settle, Task.settle_await, Task.settle_done, Task.eval,
      host, serve, Rpc.run, List.headD_nil, Beat.calm, Task.andThen, hfree, List.head?_cons,
      Slot.getBundles]
    rw [hbuilt]
    rfl

end Conservation

namespace Small

/-- The slot bundle of a request, with its fee. -/
def admittedBundle (operationsMLXDR : List MLXDR) (fee : Int) : SlotBundle :=
  { slotBundle "bundle" 1 1 "GPP" with
    operationsMLXDR := operationsMLXDR
    operations := classifyOperations (operationsMLXDR.filterMap fromMLXDR)
    fee := fee }

theorem admitted_of_eval {operationsMLXDR : List MLXDR} {fee : Int}
    (h : ((((checkRequest config (request operationsMLXDR)).eval host [] funded).1.bind
      (·.toOption)).map fun adm => decide (adm.fee = fee)) = some true) :
    Admitted config (fun _ => 5) (admittedBundle operationsMLXDR fee) := by
  obtain ⟨adm, heval, hfee⟩ := Task.exists_value_of_eval host _ _ _ _ h
  have hchecked := (checkRequest_gives (stable_balancesAre _) (request operationsMLXDR)).value rfl heval
  exact ⟨_, adm, [], funded, heval, rfl, rfl, hchecked.classified.symm,
    (of_decide_eq_true hfee).symm⟩

/-- A slot of bundles on the channel. -/
def slotOf (bundles : List SlotBundle) : Slot := ⟨"channel", 10, bundles, bundles.length⟩

end Small

/-- A deposit of 10 and a spend of 5 that create 4: the fee is 6 and 5 is left over. -/
theorem value_not_conserved :
    ¬ ∀ (cfg : Config) (balance : UtxoId → Int) (slot : Slot) (ctx : ChannelContext)
      (bs : List (Beat Err)) (s : State) (build : TransactionBuildResult),
      (∀ b ∈ slot.bundles, Admitted cfg balance b) →
      ((buildTransactionFromSlot cfg slot.getBundles ctx).eval host bs s).1 = some (.ok build) →
      Balanced balance build.operations := by
  intro h
  let slot := Small.slotOf [Small.admittedBundle ["deposit 10", "create b 4", "spend a"] 6]
  obtain ⟨build, heval, hp⟩ := Task.exists_value_of_eval host
    (buildTransactionFromSlot Small.config slot.getBundles ⟨"GPP", "channel"⟩) [] Small.funded
    (fun build => ¬ Balanced (fun _ => 5) build.operations) (by decide +kernel)
  refine of_decide_eq_true hp (h Small.config _ slot _ [] Small.funded build (fun b hb => ?_) heval)
  rw [List.mem_singleton.mp hb]
  exact Small.admitted_of_eval (by decide +kernel)

/-- A deposit, and a spend of 5 that withdraws 3, in one transaction. -/
theorem value_conserved_small :
    let slot := Small.slotOf
      [Small.admittedBundle ["deposit 10"] 10, Small.admittedBundle ["spend a", "withdraw 3"] 2]
    ∃ build, ((buildTransactionFromSlot Small.config slot.getBundles ⟨"GPP", "channel"⟩).eval
        host [] Small.funded).1 = some (.ok build) ∧ Balanced (fun _ => 5) build.operations := by
  intro slot
  have hadm : ∀ b ∈ slot.bundles, Admitted Small.config (fun _ => 5) b := by
    intro b hb
    rcases List.mem_cons.mp hb with rfl | hb
    · exact Small.admitted_of_eval (by decide +kernel)
    · rw [List.mem_singleton.mp hb]
      exact Small.admitted_of_eval (by decide +kernel)
  obtain ⟨hvalue, htotal⟩ := value_conserved hadm ⟨"GPP", "channel"⟩
  obtain ⟨build, hbuild⟩ := htotal (by decide) (fun _ _ => rfl) Small.funded (by decide)
  exact ⟨build, hbuild, (hvalue [] Small.funded build hbuild).2.mpr (by decide +kernel)⟩

end ProviderPlatform
