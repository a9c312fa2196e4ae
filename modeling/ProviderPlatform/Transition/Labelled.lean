import Mathlib.Data.List.Basic

/-! # Labelled specifications

What a component does, said by the events it shows: a specification relates the
state before an event to the states after it. An implementation refines it if
the events of each of its runs are a trace of the specification. -/
namespace Transition

/-- Which states an event may lead to. -/
structure Labelled (ε τ : Type) where
  step : τ → ε → τ → Prop

namespace Labelled
variable {ε τ : Type} (A : Labelled ε τ)

/-- The events, in order, that lead from one state to another. -/
inductive Traces (a : τ) : List ε → τ → Prop
  | nil : Traces a [] a
  | snoc {es : List ε} {b c : τ} (e : ε) : Traces a es b → A.step b e c → Traces a (es ++ [e]) c

variable {A} {a b c : τ} {es es' : List ε}

theorem Traces.single {e : ε} (h : A.step a e b) : A.Traces a [e] b := .snoc e .nil h

theorem Traces.append (h : A.Traces a es b) (h' : A.Traces b es' c) : A.Traces a (es ++ es') c := by
  induction h' with
  | nil => rwa [List.append_nil]
  | snoc e _ hs ih =>
    rw [← List.append_assoc]
    exact .snoc e ih hs

/-- What every event keeps, of the events so far and the state they led to. -/
theorem Traces.invariant {P : List ε → τ → Prop} (h0 : P [] a)
    (hstep : ∀ es b e c, P es b → A.step b e c → P (es ++ [e]) c) (h : A.Traces a es b) :
    P es b := by
  induction h with
  | nil => exact h0
  | snoc e _ hs ih => exact hstep _ _ _ _ ih hs

end Labelled
end Transition
