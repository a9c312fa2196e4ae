import Mathlib.Data.List.Induction

/-! # A bounded queue of keys

First in, first out: a key that is asked for stays where it is if it is there,
and else goes to the end, where the oldest makes room for it. -/
namespace Store
variable {κ : Type} [DecidableEq κ] {capacity : Nat} {queue : List κ} {k : κ}

def touch (capacity : Nat) (queue : List κ) (k : κ) : List κ :=
  if k ∈ queue then queue
  else (if queue.length ≥ capacity then queue.tail else queue) ++ [k]

/-- The keys that are there after some were asked for. -/
def resident (capacity : Nat) (asked : List κ) : List κ := asked.foldl (touch capacity) []

theorem touch_of_mem (h : k ∈ queue) : touch capacity queue k = queue := if_pos h

theorem touch_of_notMem (h : k ∉ queue) : touch capacity queue k =
    (if queue.length ≥ capacity then queue.tail else queue) ++ [k] := if_neg h

theorem resident_snoc (capacity : Nat) (asked : List κ) (k : κ) :
    resident capacity (asked ++ [k]) = touch capacity (resident capacity asked) k := by
  simp [resident]

theorem touch_length_le (hpos : 0 < capacity) (h : queue.length ≤ capacity) (k : κ) :
    (touch capacity queue k).length ≤ capacity := by
  by_cases hmem : k ∈ queue
  · rwa [touch_of_mem hmem]
  · rw [touch_of_notMem hmem]
    split
    · rw [List.length_append, List.length_tail, List.length_singleton]
      omega
    · rw [List.length_append, List.length_singleton]
      omega

theorem resident_length_le (hpos : 0 < capacity) (asked : List κ) :
    (resident capacity asked).length ≤ capacity := by
  induction asked using List.reverseRecOn with
  | nil => exact Nat.zero_le _
  | append_singleton asked k ih =>
    rw [resident_snoc]
    exact touch_length_le hpos ih k

end Store
