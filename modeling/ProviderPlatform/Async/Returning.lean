import ProviderPlatform.Async.Ownership

/-! # What a task returns

A task that hands back all it was given, and whose result has a property: these
tasks compose by their results alone. -/
namespace Async
namespace Task
variable {I : Interface} {σ R α β : Type} [AddCommMonoid R] {H : Host I σ} {K : Discipline I σ R}
  {own : R}

variable (H K own) in
/-- The task keeps the invariant and what it owns, and its result satisfies `Q`. -/
abbrev Returning (t : Task I α) (Q : α → Prop) : Prop :=
  Triple H K own t fun r o => o = own ∧ ∀ a, r = .ok a → Q a

namespace Returning
variable {t : Task I α} {Q : α → Prop}

theorem done {r : Except I.Err α} (h : ∀ a, r = .ok a → Q a) : Returning H K own (.done r) Q :=
  Triple.done ⟨rfl, h⟩

theorem pure {a : α} (h : Q a) : Returning H K own (Pure.pure a) Q := by
  refine .done fun a' ha' => ?_
  cases ha'
  exact h

theorem fail (e : I.Err) : Returning H K own (Task.fail e : Task I α) Q := .done fun _ => nofun

theorem imp {Q' : α → Prop} (ht : Returning H K own t Q) (h : ∀ a, Q a → Q' a) :
    Returning H K own t Q' :=
  ht.mono fun _ _ hr => ⟨hr.1, fun a ha => h a (hr.2 a ha)⟩

theorem op {o : I.Op} {Q : I.Out o → Prop} (h : ∀ s r, K.inv s (own + r) → K.mayRun s o →
    Q (H.runOp o s).1 ∧ K.inv (H.runOp o s).2 (own + r)) : Returning H K own (Task.op o) Q := by
  refine Triple.op fun s r hi hm => ?_
  obtain ⟨hQ, hi'⟩ := h s r hi hm
  refine ⟨own, ⟨rfl, fun a ha => ?_⟩, hi'⟩
  cases ha
  exact hQ

theorem call {q : I.Req} {Q : I.Ans q → Prop} (h : ∀ s r, K.inv s (own + r) → K.mayServe s q →
    (∀ a, (H.serve q s).1 = .ok a → Q a) ∧ K.inv (H.serve q s).2 (own + r)) :
    Returning H K own (Task.call q) Q := by
  refine Triple.call (fun s r hi hm => ?_) fun s r hi _ e => ⟨own, ⟨rfl, nofun⟩, hi⟩
  obtain ⟨hQ, hi'⟩ := h s r hi hm
  exact ⟨own, ⟨rfl, hQ⟩, hi'⟩

/-- Sequencing with any task, which goes on with all that was owned. -/
theorem then_triple {k : α → Task I β} {C : Except I.Err β → R → Prop}
    (ht : Returning H K own t Q) (hk : ∀ a, Q a → Triple H K own (k a) C)
    (herr : ∀ e, C (.error e) own) : Triple H K own (t >>= k) C := by
  refine Triple.bind ht (fun a o h => ?_) fun e o h => ?_
  · obtain ⟨rfl, ha⟩ := h
    exact hk a (ha a rfl)
  · rw [h.1]
    exact herr e

theorem bind {k : α → Task I β} {Q' : β → Prop} (ht : Returning H K own t Q)
    (hk : ∀ a, Q a → Returning H K own (k a) Q') : Returning H K own (t >>= k) Q' :=
  ht.then_triple hk fun _ => ⟨rfl, nofun⟩

theorem recover {h : I.Err → Task I α} (ht : Returning H K own t Q)
    (hh : ∀ e, Returning H K own (h e) Q) : Returning H K own (t.recover h) Q := by
  refine Triple.recover ht (fun _ _ hr => hr) fun e o hr => ?_
  rw [hr.1]
  exact hh e

theorem forEach {f : β → Task I Unit} {xs : List β}
    (h : ∀ x ∈ xs, Returning H K own (f x) fun _ => True) :
    Returning H K own (Task.forEach f xs) fun _ => True := by
  induction xs with
  | nil => exact .pure trivial
  | cons x xs ih =>
    obtain ⟨hx, hxs⟩ := List.forall_mem_cons.mp h
    exact hx.bind fun _ _ => ih hxs

theorem collect {f : β → Task I α} {xs : List β} (h : ∀ x ∈ xs, Returning H K own (f x) Q) :
    Returning H K own (Task.collect f xs) fun ys => ∀ y ∈ ys, Q y := by
  induction xs with
  | nil => exact .pure fun y hy => absurd hy List.not_mem_nil
  | cons x xs ih =>
    obtain ⟨hx, hxs⟩ := List.forall_mem_cons.mp h
    refine hx.bind fun y hy => (ih hxs).bind fun ys hys => ?_
    exact .pure (List.forall_mem_cons.mpr ⟨hy, hys⟩)

end Returning
end Task
end Async
