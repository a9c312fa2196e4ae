import ProviderPlatform.Dashboard.Bundles
import ProviderPlatform.Mempool.Hydration
import Mathlib.Algebra.BigOperators.Group.List.Basic
import Mathlib.Data.List.Induction

/-! # One amount, three computations

Admission and hydration sum the dominant kind of the classified operations, the
dashboard runs once over the stored strings with a sum and a flag for each
kind. The flags say which kinds are there, so all three are the same sum, and
no order of the operations shows in it. -/
namespace ProviderPlatform
open Async

/-- What the loop has seen, by kind. -/
structure AmountSums.Of (sums : AmountSums) (classified : ClassifiedOperations) : Prop where
  depositSum : sums.depositSum = (classified.deposit.map (·.amount)).sum
  withdrawSum : sums.withdrawSum = (classified.withdraw.map (·.amount)).sum
  createSum : sums.createSum = (classified.create.map (·.amount)).sum
  hasDeposit : sums.hasDeposit = decide (classified.deposit.length > 0)
  hasWithdraw : sums.hasWithdraw = decide (classified.withdraw.length > 0)
  hasCreate : sums.hasCreate = decide (classified.create.length > 0)

section Loop
variable {sums : AmountSums} {classified : ClassifiedOperations}
  {operations operations' : List MoonlightOperation} {cfg : Config} {mlxdrs mlxdrs' : List MLXDR}

/-- One more operation lands in the list of its kind. -/
theorem classifyOperations_snoc (operations : List MoonlightOperation) (op : MoonlightOperation) :
    classifyOperations (operations ++ [op]) =
      match op with
      | .create op =>
        { classifyOperations operations with
          create := (classifyOperations operations).create ++ [op] }
      | .spend op =>
        { classifyOperations operations with
          spend := (classifyOperations operations).spend ++ [op] }
      | .deposit op =>
        { classifyOperations operations with
          deposit := (classifyOperations operations).deposit ++ [op] }
      | .withdraw op =>
        { classifyOperations operations with
          withdraw := (classifyOperations operations).withdraw ++ [op] } := by
  cases op with
  | create op => simp [classifyOperations]
  | spend op => simp [classifyOperations]
  | deposit op => simp [classifyOperations]
  | withdraw op => simp [classifyOperations]

/-- One round of the loop. -/
theorem AmountSums.Of.push (h : sums.Of (classifyOperations operations))
    (op : MoonlightOperation) :
    (sums.push op).Of (classifyOperations (operations ++ [op])) := by
  rw [classifyOperations_snoc]
  cases op with
  | create op =>
    refine { h with createSum := ?_, hasCreate := ?_ }
    · simp [AmountSums.push, h.createSum]
    · simp [AmountSums.push]
  | spend op => exact { h with }
  | deposit op =>
    refine { h with depositSum := ?_, hasDeposit := ?_ }
    · simp [AmountSums.push, h.depositSum]
    · simp [AmountSums.push]
  | withdraw op =>
    refine { h with withdrawSum := ?_, hasWithdraw := ?_ }
    · simp [AmountSums.push, h.withdrawSum]
    · simp [AmountSums.push]

/-- The whole loop. -/
theorem AmountSums.of_foldl (operations : List MoonlightOperation) :
    (operations.foldl AmountSums.push {}).Of (classifyOperations operations) := by
  induction operations using List.reverseRecOn with
  | nil => exact ⟨rfl, rfl, rfl, rfl, rfl, rfl⟩
  | append_singleton operations op ih =>
    rw [List.foldl_append]
    exact ih.push op

/-- The dashboard sums what the strings parse to. -/
theorem aggregateAmountFromMLXDR_eq (cfg : Config) (mlxdrs : List MLXDR) :
    aggregateAmountFromMLXDR cfg mlxdrs =
      aggregateBundleAmount (classifyOperations (mlxdrs.filterMap cfg.fromMLXDR)) := by
  unfold aggregateAmountFromMLXDR aggregateBundleAmount
  extract_lets sums
  have hloop : (mlxdrs.filterMap cfg.fromMLXDR).foldl AmountSums.push {} = sums := by
    rw [List.foldl_filterMap]
    refine List.foldl_ext _ _ _ fun sums mlxdr _ => ?_
    cases cfg.fromMLXDR mlxdr with
    | none => rfl
    | some op => rfl
  have hsums := hloop ▸ AmountSums.of_foldl (mlxdrs.filterMap cfg.fromMLXDR)
  simp only [hsums.depositSum, hsums.withdrawSum, hsums.createSum, hsums.hasDeposit,
    hsums.hasWithdraw, hsums.hasCreate, decide_eq_true_eq]

/-- The order of the operations does not show. -/
theorem aggregateBundleAmount_perm (h : operations.Perm operations') :
    aggregateBundleAmount (classifyOperations operations) =
      aggregateBundleAmount (classifyOperations operations') := by
  have hdeposit : (classifyOperations operations).deposit.Perm
      (classifyOperations operations').deposit := h.filterMap _
  have hwithdraw : (classifyOperations operations).withdraw.Perm
      (classifyOperations operations').withdraw := h.filterMap _
  have hcreate : (classifyOperations operations).create.Perm
      (classifyOperations operations').create := h.filterMap _
  simp only [aggregateBundleAmount, hdeposit.length_eq, hwithdraw.length_eq, hcreate.length_eq,
    (hdeposit.map _).sum_eq, (hwithdraw.map _).sum_eq, (hcreate.map _).sum_eq]

theorem parseOperations_of_all (h : ∀ mlxdr ∈ mlxdrs, (cfg.fromMLXDR mlxdr).isSome) :
    parseOperations cfg mlxdrs = .ok (mlxdrs.filterMap cfg.fromMLXDR) := by
  have hnone : mlxdrs.find? (fun mlxdr => (cfg.fromMLXDR mlxdr).isNone) = none := by
    simpa [List.find?_eq_none, Option.isSome_iff_ne_none] using h
  rw [parseOperations, hnone]

end Loop

/-- Everywhere the operations of these strings are given this amount. -/
structure AmountIs (cfg : Config) (mlxdrs : List MLXDR) (amount : Option String) : Prop where
  /-- The slot bundle that admission builds from the row and the operations it parsed. -/
  admission : ∃ operations, parseOperations cfg mlxdrs = .ok operations ∧
    ∀ (row : OperationsBundle) (now : Time) (entityName : Option String)
      (jurisdictions : List String), ∃ bundle,
      createSlotBundle cfg now (.row row) (classifyOperations operations) entityName
        jurisdictions = .ok bundle ∧ bundle.amount = amount
  /-- The slot bundle that hydration builds from a row of these strings. -/
  hydration : ∀ row : OperationsBundle, row.operationsMLXDR = mlxdrs →
    (createSlotBundleFromEntity cfg row).Yields fun bundle => bundle.amount = amount
  dashboard : aggregateAmountFromMLXDR cfg mlxdrs = amount

/-- **One amount.** Strings that all parse have the same amount at admission,
at hydration and on the dashboard, in any order. -/
theorem amounts_agree {cfg : Config} {mlxdrs mlxdrs' : List MLXDR}
    (hparse : ∀ mlxdr ∈ mlxdrs, (cfg.fromMLXDR mlxdr).isSome) (hperm : mlxdrs'.Perm mlxdrs) :
    AmountIs cfg mlxdrs' (aggregateAmountFromMLXDR cfg mlxdrs) := by
  have hparse' : parseOperations cfg mlxdrs' = .ok (mlxdrs'.filterMap cfg.fromMLXDR) :=
    parseOperations_of_all fun mlxdr hmem => hparse mlxdr (hperm.mem_iff.mp hmem)
  have hamount : aggregateBundleAmount (classifyOperations (mlxdrs'.filterMap cfg.fromMLXDR)) =
      aggregateAmountFromMLXDR cfg mlxdrs := by
    rw [aggregateAmountFromMLXDR_eq]
    exact aggregateBundleAmount_perm (hperm.filterMap _)
  refine ⟨⟨_, hparse', fun row now entityName jurisdictions => ⟨_, rfl, hamount⟩⟩, ?_, ?_⟩
  · intro row hrow
    refine (createSlotBundleFromEntity_mirrors row).mono fun bundle hbundle => ?_
    obtain ⟨operations, hoperations, hbundle⟩ := hbundle
    rw [hrow, hparse'] at hoperations
    cases hoperations
    rw [hbundle]
    exact hamount
  · rw [aggregateAmountFromMLXDR_eq]
    exact hamount

/-- A deposit beats the creates beside it. -/
theorem amounts_agree_small :
    AmountIs Small.config ["create b 4", "deposit 10", "create a 4"] (some "10") := by
  have hparse : ∀ mlxdr ∈ ["deposit 10", "create a 4", "create b 4"],
      (Small.config.fromMLXDR mlxdr).isSome := by decide
  exact amounts_agree hparse (by decide)

end ProviderPlatform
