import ProviderPlatform.Async.Observer
import ProviderPlatform.Transition.Labelled

/-! # Refinement of a specification

The synchronous operations of a machine, each with the events it shows, refine a
specification over an abstraction of the state. An operation that is only safe in
some states may be one that no task runs after its first await: what holds of the
pools of a run then holds whenever it runs. -/
namespace Async
open Transition

variable {I : Interface} {σ L D ε τ α : Type}

/-! ## Operations that open a task -/

namespace Task

/-- Only the very first operation of the task may be such. -/
def Opens (p : I.Op → Prop) : Task I α → Prop
  | .sync _ k => ∀ a, (k a).Uses (fun o => ¬p o) fun _ => True
  | .done _ => True
  | .await _ k => ∀ r, (k r).Uses (fun o => ¬p o) fun _ => True

variable {p : I.Op → Prop} {t : Task I α}

theorem Uses.opens {okReq : I.Req → Prop} (h : t.Uses (fun o => ¬p o) okReq) : t.Opens p := by
  have hany := h.mono (fun _ ho => ho) fun _ _ => trivial
  cases t with
  | done r => trivial
  | sync o k => exact hany.2
  | await q k => exact hany.2

/-- Such an operation runs on the state in which the task is resumed. -/
theorem Opens.first (H : Host I σ) (h : t.Opens p) {s : σ} {q : σ × I.Op}
    (hq : q ∈ t.opsRun H s) (hp : p q.2) : q.1 = s := by
  cases t with
  | done r => cases hq
  | await r k => cases hq
  | sync o k =>
    rcases List.mem_cons.mp hq with rfl | hlater
    · rfl
    · exact absurd hp ((h _).opsRun H _ hlater)

theorem Opens.advance (H : Host I σ) (h : t.Opens p) (s : σ) : (t.advance H s).1.Opens p := by
  cases t with
  | done r => trivial
  | await q k => exact h
  | sync o k => exact ((h _).advance H).opens

end Task

section Pools
variable {M : Machine I σ L D} {G : Pool I σ L → Choice I L D → Prop} {p : I.Op → Prop}
  {c₀ c c' : Pool I σ L}

/-- Every task of the pool runs such operations first, if at all. -/
def AllOpen (p : I.Op → Prop) (c : Pool I σ L) : Prop := ∀ q ∈ c.tasks, q.2.Opens p

theorem AllOpen.step (hprog : ∀ l, (M.program l).Opens p) {ch : Choice I L D}
    (h : AllOpen p c) (hs : M.step ch c = some c') : AllOpen p c' := by
  have hset {s : σ} {i : Nat} {l : L} {t : Task I Unit} (ht : t.Opens p) :
      AllOpen p ⟨s, c.tasks.set i (l, t)⟩ := by
    intro q hq
    rcases List.mem_or_eq_of_mem_set hq with hold | rfl
    · exact h q hold
    · exact ht
  rcases M.step_cases hs with ⟨l, -, -, rfl⟩ | ⟨i, l, t, -, ht, rfl⟩ | ⟨i, l, q, k, -, ht, rfl⟩ |
    ⟨i, l, q, k, e, -, ht, rfl⟩ | ⟨d, -, rfl⟩ | ⟨-, rfl⟩
  · refine List.forall_mem_append.mpr ⟨h, List.forall_mem_singleton.mpr (hprog l)⟩
  · exact hset ((h _ (List.mem_of_getElem? ht)).advance M.host _)
  · exact hset (h _ (List.mem_of_getElem? ht) _).opens
  · exact hset (h _ (List.mem_of_getElem? ht) _).opens
  · exact h
  · exact List.forall_mem_singleton.mpr (hprog _)

theorem Machine.Run.allOpen (hprog : ∀ l, (M.program l).Opens p) (h0 : AllOpen p c₀)
    (h : M.Run G c₀ c) : AllOpen p c :=
  h.invariant (fun _ _ _ hc _ hs => hc.step hprog hs) h0

end Pools

/-! ## Refinement -/

/-- Keeps the events that the operations show, and the crashes. -/
def Observer.events (shows : σ → I.Op → List ε) (crashed : ε) : Observer I σ L (List ε) where
  onOp _ s o es := es ++ shows s o
  onServe _ _ _ es := es
  onCrash es := es ++ [crashed]

/-- Each operation is a trace of the specification under the abstraction, from
every state with `Inv`, and, if it is one of `p`, with `Safe`; nothing else is
seen, but for the crashes. -/
structure Machine.Refines (M : Machine I σ L D) (A : Labelled ε τ) (abs : σ → τ)
    (shows : σ → I.Op → List ε) (crashed : ε) (Inv : σ → Prop) (p : I.Op → Prop)
    (Safe : σ → Prop) : Prop where
  op : ∀ s o, Inv s → (p o → Safe s) →
    Inv (M.host.runOp o s).2 ∧ A.Traces (abs s) (shows s o) (abs (M.host.runOp o s).2)
  serve : ∀ s q, Inv s → Inv (M.host.serve q s).2 ∧ abs (M.host.serve q s).2 = abs s
  drift : ∀ s d, Inv s → Inv (M.drift d s) ∧ abs (M.drift d s) = abs s
  crash : ∀ s, Inv s → Inv (M.reboot s) ∧ A.step (abs s) crashed (abs (M.reboot s))
  opens : ∀ l, (M.program l).Opens p

section Refines
variable {M : Machine I σ L D} {A : Labelled ε τ} {abs : σ → τ} {shows : σ → I.Op → List ε}
  {crashed : ε} {Inv Safe : σ → Prop} {p : I.Op → Prop} {G : Pool I σ L → Choice I L D → Prop}
  {c₀ c : Pool I σ L} {es : List ε}

/-- The operations of a task that is resumed are a trace. -/
theorem Machine.Refines.advance (h : M.Refines A abs shows crashed Inv p Safe) {l : L} {a : τ}
    {t : Task I Unit} : ∀ {s : σ} {es : List ε}, Inv s → A.Traces a es (abs s) →
    (∀ q ∈ t.opsRun M.host s, p q.2 → Safe q.1) →
    Inv (t.advance M.host s).2 ∧
      A.Traces a (t.advance (M.host.observe (Observer.events shows crashed) l) (s, es)).2.2
        (abs (t.advance M.host s).2) := by
  induction t with
  | done r => exact fun hi htrace _ => ⟨hi, htrace⟩
  | await q k => exact fun hi htrace _ => ⟨hi, htrace⟩
  | sync o k ih =>
    intro s es hi htrace hsafe
    obtain ⟨hfirst, hrest⟩ := List.forall_mem_cons.mp hsafe
    obtain ⟨hi', hshown⟩ := h.op s o hi hfirst
    exact ih _ hi' (htrace.append hshown) hrest

/-- **Refinement of runs.** The events of every run are a trace of the
specification, to the abstraction of the state that is reached. -/
theorem Machine.Observed.refines (h : M.Refines A abs shows crashed Inv p Safe)
    (hsafe : ∀ c, M.Run G c₀ c → Safe c.state) (hopen : AllOpen p c₀) (hinv : Inv c₀.state)
    (hr : M.Observed (Observer.events shows crashed) G c₀ [] c es) :
    Inv c.state ∧ A.Traces (abs c₀.state) es (abs c.state) := by
  induction hr with
  | refl => exact ⟨hinv, .nil⟩
  | @step c c' es ch hr hg hs ih =>
    obtain ⟨hi, htrace⟩ := ih
    rcases M.step_cases hs with ⟨l, rfl, -, rfl⟩ | ⟨i, l, t, rfl, ht, rfl⟩ |
      ⟨i, l, q, k, rfl, ht, rfl⟩ | ⟨i, l, q, k, e, rfl, ht, rfl⟩ | ⟨d, rfl, rfl⟩ | ⟨rfl, rfl⟩
    · exact ⟨hi, htrace⟩
    · have hopened := hr.run.allOpen h.opens hopen _ (List.mem_of_getElem? ht)
      simp only [Observer.after, ht]
      refine h.advance hi htrace fun q hq hp => ?_
      rw [hopened.first M.host hq hp]
      exact hsafe c hr.run
    · obtain ⟨hi', habs⟩ := h.serve c.state q hi
      simp only [Observer.after, ht]
      exact ⟨hi', habs ▸ htrace⟩
    · exact ⟨hi, htrace⟩
    · obtain ⟨hi', habs⟩ := h.drift c.state d hi
      exact ⟨hi', habs ▸ htrace⟩
    · obtain ⟨hi', hcrashed⟩ := h.crash c.state hi
      exact ⟨hi', .snoc _ htrace hcrashed⟩

end Refines
end Async
