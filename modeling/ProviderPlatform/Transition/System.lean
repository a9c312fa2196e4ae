import Mathlib.Data.List.Basic
import Mathlib.Logic.Basic

/-! # Transition systems

A system whose step is a function of the input it takes, so that a run can be
replayed. What a step keeps, a run keeps; what holds after a run and did not
hold before it came about in one of its steps. -/
namespace Transition

/-- The state after an input, if the state takes it. -/
structure System (ι σ : Type) where
  step : ι → σ → Option σ

namespace System
variable {ι σ : Type}

/-- A run whose every step meets the guard, a condition on the state before the
step and the input taken. -/
inductive Run (S : System ι σ) (G : σ → ι → Prop) : σ → σ → Prop
  | refl (s : σ) : Run S G s s
  | step {s s' s'' : σ} (i : ι) : Run S G s s' → G s' i → S.step i s' = some s'' → Run S G s s''

/-- No condition on the steps. -/
def Free : σ → ι → Prop := fun _ _ => True

variable {S : System ι σ} {G : σ → ι → Prop} {s s' s'' : σ}

theorem Run.trans (h : S.Run G s s') (h' : S.Run G s' s'') : S.Run G s s'' := by
  induction h' with
  | refl => exact h
  | step i _ hg hs ih => exact .step i ih hg hs

theorem Run.single {i : ι} (hg : G s i) (hs : S.step i s = some s') : S.Run G s s' :=
  .step i (.refl s) hg hs

/-- What holds at the start and survives every guarded step holds throughout. -/
theorem Run.invariant {P : σ → Prop}
    (hstep : ∀ s i s', P s → G s i → S.step i s = some s' → P s') (h : S.Run G s s')
    (h0 : P s) : P s' := by
  induction h with
  | refl => exact h0
  | step i _ hg hs ih => exact hstep _ _ _ ih hg hs

/-- What came to hold in a run came to hold in one step of it. -/
theorem Run.turn {P : σ → Prop} (h : S.Run G s s') (h0 : ¬ P s) (h1 : P s') :
    ∃ u i v, S.Run G s u ∧ ¬ P u ∧ G u i ∧ S.step i u = some v ∧ P v ∧ S.Run G v s' := by
  induction h with
  | refl => exact absurd h1 h0
  | step i hrun hg hs ih =>
    rename_i u v
    by_cases hu : P u
    · obtain ⟨a, j, b, ha, hna, hga, hab, hb, hrest⟩ := ih hu
      exact ⟨a, j, b, ha, hna, hga, hab, hb, .step i hrest hg hs⟩
    · exact ⟨u, i, v, hrun, hu, hg, hs, h1, .refl v⟩

/-! ## Replaying a run -/

variable (S) in
/-- Take the inputs in order, as long as the state takes them. -/
def replay : List ι → σ → Option σ
  | [], s => some s
  | i :: inputs, s => (S.step i s).bind (replay inputs)

theorem replay_run {inputs : List ι} (hG : ∀ i ∈ inputs, ∀ s, G s i) : ∀ {s s' : σ},
    S.replay inputs s = some s' → S.Run G s s' := by
  induction inputs with
  | nil =>
    intro s s' h
    cases h
    exact .refl s
  | cons i inputs ih =>
    intro s s' h
    obtain ⟨hi, hrest⟩ := List.forall_mem_cons.mp hG
    obtain ⟨u, hs, hr⟩ := Option.bind_eq_some_iff.mp h
    exact (Run.single (hi s) hs).trans (ih hrest hr)

/-- A replay that ends in a state with a decidable property gives a run that
reaches such a state. -/
theorem exists_run_of_replay (inputs : List ι) (hG : ∀ i ∈ inputs, ∀ s, G s i) (p : σ → Bool)
    (h : (S.replay inputs s).map p = some true) : ∃ s', S.Run G s s' ∧ p s' = true := by
  obtain ⟨s', hr, hp⟩ := Option.map_eq_some_iff.mp h
  exact ⟨s', replay_run hG hr, hp⟩

end System
end Transition
