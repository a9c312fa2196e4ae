import Mathlib.Data.List.Induction

/-! # The latest element

Among the elements of a list with a property, the last of those whose rank no
other exceeds: what a register should hold that elements may reach out of
order. -/
namespace Store
variable {α : Type} (rank : α → Int) (p : α → Bool)

/-- The next latest element, once another has come. -/
def later (best : Option α) (x : α) : Option α :=
  if p x && best.all fun b => decide (rank b ≤ rank x) then some x else best

/-- The last of the elements of highest rank among those with the property. -/
def latest (xs : List α) : Option α := xs.foldl (later rank p) none

@[simp] theorem latest_nil : latest rank p [] = none := rfl

theorem latest_snoc (xs : List α) (x : α) :
    latest rank p (xs ++ [x]) = later rank p (latest rank p xs) x := by
  simp [latest]

variable {rank p}

/-- An element without the property changes nothing. -/
theorem latest_snoc_of_not {x : α} (h : p x = false) (xs : List α) :
    latest rank p (xs ++ [x]) = latest rank p xs := by
  simp [latest_snoc, later, h]

/-- An element with the property is the latest, unless a later one came before. -/
theorem latest_snoc_of (rank : α → Int) {x : α} (h : p x = true) (xs : List α) :
    ((∀ b, latest rank p xs = some b → rank b ≤ rank x) ∧ latest rank p (xs ++ [x]) = some x) ∨
      ∃ b, latest rank p xs = some b ∧ rank x < rank b ∧ latest rank p (xs ++ [x]) = some b := by
  rw [latest_snoc, later, h]
  cases latest rank p xs with
  | none => exact .inl ⟨nofun, rfl⟩
  | some b =>
    by_cases hle : rank b ≤ rank x
    · refine .inl ⟨?_, by simp [hle]⟩
      intro b' hb'
      cases hb'
      exact hle
    · exact .inr ⟨b, rfl, Int.not_le.mp hle, by simp [hle]⟩

theorem latest_eq_none {xs : List α} (h : latest rank p xs = none) : ∀ y ∈ xs, p y = false := by
  induction xs using List.reverseRecOn with
  | nil => exact nofun
  | append_singleton xs z ih =>
    cases hz : p z with
    | false =>
      rw [latest_snoc_of_not hz] at h
      intro y hy
      rcases List.mem_append.mp hy with hy | hy
      · exact ih h y hy
      · rwa [List.mem_singleton.mp hy]
    | true =>
      rcases latest_snoc_of rank hz xs with ⟨-, hlast⟩ | ⟨b, -, -, hlast⟩
      · cases h.symm.trans hlast
      · cases h.symm.trans hlast

/-- The latest element has the property, and no such element exceeds it. -/
theorem latest_spec {xs : List α} {x : α} (h : latest rank p xs = some x) :
    x ∈ xs ∧ p x = true ∧ ∀ y ∈ xs, p y = true → rank y ≤ rank x := by
  induction xs using List.reverseRecOn generalizing x with
  | nil => cases h
  | append_singleton xs z ih =>
    have hsplit : ∀ {P : α → Prop}, (∀ y ∈ xs, P y) → P z → ∀ y ∈ xs ++ [z], P y := by
      intro P hxs hz y hy
      rcases List.mem_append.mp hy with hy | hy
      · exact hxs y hy
      · exact List.mem_singleton.mp hy ▸ hz
    cases hz : p z with
    | false =>
      rw [latest_snoc_of_not hz] at h
      obtain ⟨hmem, hp, hmax⟩ := ih h
      exact ⟨List.mem_append_left _ hmem, hp, hsplit hmax fun hpz => by rw [hz] at hpz; cases hpz⟩
    | true =>
      rcases latest_snoc_of rank hz xs with ⟨hold, hlast⟩ | ⟨b, hb, hlt, hlast⟩
      · cases h.symm.trans hlast
        refine ⟨List.mem_append_right _ List.mem_cons_self, hz, hsplit ?_ fun _ => Int.le_refl _⟩
        intro y hy hpy
        cases hbest : latest rank p xs with
        | none =>
          rw [latest_eq_none hbest y hy] at hpy
          cases hpy
        | some b => exact Int.le_trans ((ih hbest).2.2 y hy hpy) (hold b hbest)
      · cases h.symm.trans hlast
        obtain ⟨hmem, hp, hmax⟩ := ih hb
        exact ⟨List.mem_append_left _ hmem, hp, hsplit hmax fun _ => Int.le_of_lt hlt⟩

/-- In a list ordered by rank the next element with the property is the latest. -/
theorem latest_snoc_of_ordered {xs : List α} {x : α} (hle : ∀ y ∈ xs, rank y ≤ rank x) :
    latest rank p (xs ++ [x]) = if p x then some x else latest rank p xs := by
  cases hx : p x with
  | false => simpa using latest_snoc_of_not hx xs
  | true =>
    rcases latest_snoc_of rank hx xs with ⟨-, hlast⟩ | ⟨b, hb, hlt, -⟩
    · simpa using hlast
    · have hmem := (latest_spec hb).1
      exact absurd (hle b hmem) (Int.not_le.mpr hlt)

end Store
