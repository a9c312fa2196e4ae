import ProviderPlatform.Store.Table
import Mathlib.Algebra.BigOperators.Group.List.Basic
import Mathlib.Data.Set.Card

/-! # Joins and counts

A join yields a row of its left table once for each row it matches. Counting
the rows of a join therefore counts left rows with their multiplicity, which is
the number of left rows that match just if none matches twice. -/
namespace Store

section Join
variable {α β γ : Type}

/-- The pairs of rows that match, in the order of a nested scan. -/
def innerJoin (xs : List α) (ys : List β) (on : α → β → Bool) : List (α × β) :=
  xs.flatMap fun x => (ys.filter (on x)).map fun y => (x, y)

/-- The count of a join, by its left rows. -/
theorem countP_innerJoin (xs : List α) (ys : List β) (on : α → β → Bool) (p : α × β → Bool) :
    (innerJoin xs ys on).countP p =
      (xs.map fun x => ys.countP fun y => p (x, y) && on x y).sum := by
  rw [innerJoin, List.countP_flatMap]
  congr 1
  apply List.map_congr_left
  intro x _
  rw [Function.comp, List.countP_map, List.countP_filter]
  rfl

theorem sum_map_ite (xs : List α) (p : α → Bool) :
    (xs.map fun x => if p x then 1 else 0).sum = xs.countP p := by
  induction xs with
  | nil => rfl
  | cons x xs ih => rw [List.map_cons, List.sum_cons, ih, List.countP_cons, Nat.add_comm]

theorem countP_pos_le_sum (xs : List α) (n : α → Nat) :
    xs.countP (fun x => decide (0 < n x)) ≤ (xs.map n).sum := by
  induction xs with
  | nil => exact Nat.le_refl 0
  | cons x xs ih =>
    rw [List.countP_cons, List.map_cons, List.sum_cons]
    split
    · rename_i hpos
      have hpos := of_decide_eq_true hpos
      omega
    · omega

/-- A sum of multiplicities counts what has one just if none is over one. -/
theorem sum_eq_countP_iff (xs : List α) (n : α → Nat) :
    (xs.map n).sum = xs.countP (fun x => decide (0 < n x)) ↔ ∀ x ∈ xs, n x ≤ 1 := by
  induction xs with
  | nil => simp
  | cons x xs ih =>
    have hle := countP_pos_le_sum xs n
    rw [List.map_cons, List.sum_cons, List.countP_cons, List.forall_mem_cons, ← ih]
    by_cases hx : 0 < n x
    · rw [if_pos (decide_eq_true hx)]
      omega
    · rw [if_neg (by simpa using hx)]
      omega

/-- Counted class by class, where each class is listed once. -/
theorem countP_classes {κ : Type} [DecidableEq κ] (xs : List α) (p : α → Bool) (f : α → κ)
    (classes : List κ) (hnodup : classes.Nodup) (hall : ∀ x, f x ∈ classes) :
    xs.countP p = (classes.map fun k => xs.countP fun x => p x && f x == k).sum := by
  induction xs with
  | nil => simp
  | cons x xs ih =>
    have hone : (classes.map fun k => if p x && f x == k then 1 else 0).sum =
        if p x then 1 else 0 := by
      rw [sum_map_ite]
      cases p x with
      | false => simp
      | true =>
        rw [if_pos rfl, ← List.count_eq_one_of_mem hnodup (hall x), List.count]
        apply List.countP_congr
        intro k _
        rw [Bool.true_and, beq_iff_eq, beq_iff_eq, eq_comm]
    simp only [List.countP_cons]
    rw [List.sum_map_add, ← ih, hone]

end Join

/-! ## Distinct rows -/

namespace Table
variable {ρ κ : Type} {key : ρ → κ}

/-- The rows of a table are distinct, so a scan counts each row of a kind once. -/
theorem ncard_eq (t : Table key) (p : ρ → Bool) :
    {row | row ∈ t.rows ∧ p row}.ncard = t.rows.countP p := by
  classical
  have hset : {row | row ∈ t.rows ∧ p row} = ((t.rows.filter p).toFinset : Set ρ) := by
    ext row
    rw [Finset.mem_coe, List.mem_toFinset, List.mem_filter]
    rfl
  rw [hset, Set.ncard_coe_finset, List.toFinset_card_of_nodup (t.nodup.of_map.filter p),
    List.countP_eq_length_filter]

/-- At most one row of a kind: any two are the same row. -/
theorem countP_le_one_iff [DecidableEq κ] (t : Table key) (p : ρ → Bool) :
    t.rows.countP p ≤ 1 ↔
      ∀ row ∈ t.rows, ∀ row' ∈ t.rows, p row → p row' → key row = key row' := by
  have hfinite : {row | row ∈ t.rows ∧ p row}.Finite :=
    (List.finite_toSet t.rows).subset fun _ h => h.1
  rw [← ncard_eq, Set.ncard_le_one hfinite]
  constructor
  · intro h row hrow row' hrow' hp hp'
    exact congrArg key (h row ⟨hrow, hp⟩ row' ⟨hrow', hp'⟩)
  · rintro h row ⟨hrow, hp⟩ row' ⟨hrow', hp'⟩
    exact eq_of_key_eq hrow hrow' (h row hrow row' hrow' hp hp')

/-- The row of a key is counted if it satisfies the condition. -/
theorem countP_key [DecidableEq κ] (t : Table key) (k : κ) (p : ρ → Bool) :
    t.rows.countP (fun row => p row && key row == k) = if (t.find k).any p then 1 else 0 := by
  have hmost : t.rows.countP (fun row => p row && key row == k) ≤ 1 := by
    rw [countP_le_one_iff]
    intro row _ row' _ hp hp'
    rw [beq_iff_eq.mp (Bool.and_eq_true_iff.mp hp).2, beq_iff_eq.mp (Bool.and_eq_true_iff.mp hp').2]
  split
  · rename_i hany
    obtain ⟨row, hfind, hp⟩ := (Option.any_eq_true _ _).mp hany
    apply Nat.le_antisymm hmost
    apply List.countP_pos_iff.mpr
    exact ⟨row, find_mem hfind, Bool.and_eq_true_iff.mpr ⟨hp, beq_iff_eq.mpr (find_key hfind)⟩⟩
  · rename_i hany
    apply List.countP_eq_zero.mpr
    intro row hrow hp
    obtain ⟨hp, hkey⟩ := Bool.and_eq_true_iff.mp hp
    apply hany
    rw [← beq_iff_eq.mp hkey, find_of_mem hrow]
    exact hp

/-- Joined on the key of a table, a row of the left matches at most once. -/
theorem countP_innerJoin_key {α : Type} [DecidableEq κ] (xs : List α) (t : Table key) (k : α → κ)
    (p : α × ρ → Bool) :
    (innerJoin xs t.rows fun x row => key row == k x).countP p =
      xs.countP fun x => (t.find (k x)).any fun row => p (x, row) := by
  rw [countP_innerJoin, ← sum_map_ite]
  congr 1
  apply List.map_congr_left
  intro x _
  exact t.countP_key (k x) fun row => p (x, row)

end Table
end Store
