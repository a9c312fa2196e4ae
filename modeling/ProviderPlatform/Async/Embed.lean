import ProviderPlatform.Async.Trace

/-! # Tasks over a larger interface

A task runs unchanged in a process that offers more operations and requests
than it uses: an `Embedding` names its operations and requests among those of
the larger interface, and `embed` carries what the task may do and return. -/
namespace Async

/-- The operations and requests of one interface among those of another. -/
structure Embedding (I J : Interface) where
  op : I.Op → J.Op
  out : ∀ o, J.Out (op o) → I.Out o
  req : I.Req → J.Req
  answer : ∀ q, Except J.Err (J.Ans (req q)) → Except I.Err (I.Ans q)
  raise : I.Err → J.Err

namespace Task
variable {I J : Interface} {α β : Type} (e : Embedding I J)

def embed : Task I α → Task J α
  | .done (.ok a) => .done (.ok a)
  | .done (.error err) => .done (.error (e.raise err))
  | .sync o k => .sync (e.op o) fun a => (k (e.out o a)).embed
  | .await q k => .await (e.req q) fun r => (k (e.answer q r)).embed

theorem embed_bind (t : Task I α) (f : α → Task I β) :
    (t >>= f).embed e = t.embed e >>= fun a => (f a).embed e := by
  induction t with
  | done r => cases r <;> rfl
  | sync o k ih => exact congrArg (sync (e.op o)) (funext fun a => ih _)
  | await q k ih => exact congrArg (await (e.req q)) (funext fun r => ih _)

theorem Yields.embed {Q : α → Prop} {t : Task I α} (h : t.Yields Q) : (t.embed e).Yields Q := by
  induction t with
  | done r =>
    cases r with
    | ok a =>
      intro a' ha'
      cases ha'
      exact h a rfl
    | error err =>
      intro a' ha'
      cases ha'
  | sync o k ih => exact fun a => ih _ (h _)
  | await q k ih => exact fun r => ih _ (h _)

/-- What an embedded task may do is what the task may do. -/
theorem Uses.embed {okOp : I.Op → Prop} {okReq : I.Req → Prop} {okOp' : J.Op → Prop}
    {okReq' : J.Req → Prop} (ho : ∀ o, okOp o → okOp' (e.op o))
    (hq : ∀ q, okReq q → okReq' (e.req q)) {t : Task I α} (h : t.Uses okOp okReq) :
    (t.embed e).Uses okOp' okReq' := by
  induction t with
  | done r => cases r <;> trivial
  | sync o k ih => exact ⟨ho o h.1, fun a => ih _ (h.2 _)⟩
  | await q k ih => exact ⟨hq q h.1, fun r => ih _ (h.2 _)⟩

end Task

/-! ## On a host of the larger interface -/

/-- A host of the larger interface that does with one part of its state what a
host of the smaller one does. -/
structure Embedding.Hosts {I J : Interface} {σ τ : Type} (e : Embedding I J) (H : Host I σ)
    (H' : Host J τ) (view : τ → σ) (lower : J.Err → I.Err) : Prop where
  out : ∀ o s, e.out o (H'.runOp (e.op o) s).1 = (H.runOp o (view s)).1
  op : ∀ o s, view (H'.runOp (e.op o) s).2 = (H.runOp o (view s)).2
  answer : ∀ q s, e.answer q (H'.serve (e.req q) s).1 = (H.serve q (view s)).1
  serve : ∀ q s, view (H'.serve (e.req q) s).2 = (H.serve q (view s)).2
  reject : ∀ q err, e.answer q (.error err) = .error (lower err)
  pass : ∀ n s, view (H'.pass n s) = H.pass n (view s)

/-- A condition on the steps of the larger host and what it is on the smaller. -/
structure Embedding.Guides {I J : Interface} {σ τ : Type} (e : Embedding I J) (view : τ → σ)
    (lower : J.Err → I.Err) (g' : Step J τ → Prop) (g : Step I σ → Prop) : Prop where
  ran : ∀ s o, g' (.ran s (e.op o)) → g (.ran (view s) o)
  served : ∀ s q, g' (.served s (e.req q)) → g (.served (view s) q)
  rejected : ∀ s q err, g' (.rejected s (e.req q) err) → g (.rejected (view s) q (lower err))
  stopped : ∀ s q, g' (.stopped s (e.req q)) → g (.stopped (view s) q)

/-- The fate of a request of the smaller interface. -/
def Beat.lower {E F : Type} (f : E → F) (b : Beat E) : Beat F where
  elapsed := b.elapsed
  fate :=
    match b.fate with
    | .serve => .serve
    | .reject e => .reject (f e)
    | .stop => .stop

theorem Beat.headD_lower {E F : Type} (f : E → F) (bs : List (Beat E)) :
    (bs.map (lower f)).headD .calm = (bs.headD .calm).lower f := by
  cases bs with
  | nil => rfl
  | cons b bs => rfl

namespace Task
variable {I J : Interface} {σ τ α : Type} {e : Embedding I J} {H : Host I σ} {H' : Host J τ}
variable {view : τ → σ} {lower : J.Err → I.Err} {g : Step I σ → Prop} {g' : Step J τ → Prop}
variable {P A : σ → Prop} {B : α → σ → Prop}

/-- A task takes the same steps in both processes and ends the same way. -/
theorem embed_follows (hhost : e.Hosts H H' view lower) (hguide : e.Guides view lower g' g)
    (t : Task I α) : ∀ bs s, (∀ st ∈ (t.embed e).trace H' bs s, g' st) →
      (∀ st ∈ t.trace H (bs.map (Beat.lower lower)) (view s), g st) ∧
      (Ended B A (t.eval H (bs.map (Beat.lower lower)) (view s)).1
          (t.eval H (bs.map (Beat.lower lower)) (view s)).2.2 →
        Ended (fun a s => B a (view s)) (fun s => A (view s)) ((t.embed e).eval H' bs s).1
          ((t.embed e).eval H' bs s).2.2) := by
  induction t with
  | done r =>
    intro bs s _
    constructor
    · intro st hst
      cases hst
    · cases r with
      | ok a => exact id
      | error err => exact id
  | sync o k ih =>
    intro bs s hg
    obtain ⟨hran, hrest⟩ := List.forall_mem_cons.mp hg
    obtain ⟨hsteps, hend⟩ := ih _ bs _ hrest
    simp only [trace, eval, ← hhost.out, ← hhost.op]
    exact ⟨List.forall_mem_cons.mpr ⟨hguide.ran s o hran, hsteps⟩, hend⟩
  | await q k ih =>
    intro bs s hg
    have hpass := hhost.pass (bs.headD .calm).elapsed s
    simp only [embed, trace, eval, Beat.headD_lower, ← List.map_tail] at hg ⊢
    simp only [Beat.lower, ← hpass] at hg ⊢
    revert hg
    cases (bs.headD .calm).fate with
    | serve =>
      intro hg
      obtain ⟨hserved, hrest⟩ := List.forall_mem_cons.mp hg
      obtain ⟨hsteps, hend⟩ := ih _ bs.tail _ hrest
      simp only [← hhost.answer, ← hhost.serve]
      exact ⟨List.forall_mem_cons.mpr ⟨hguide.served _ q hserved, hsteps⟩, hend⟩
    | reject err =>
      intro hg
      obtain ⟨hrejected, hrest⟩ := List.forall_mem_cons.mp hg
      obtain ⟨hsteps, hend⟩ := ih _ bs.tail _ hrest
      simp only [← hhost.reject q err]
      exact ⟨List.forall_mem_cons.mpr ⟨hguide.rejected _ q err hrejected, hsteps⟩, hend⟩
    | stop =>
      intro hg
      refine ⟨?_, id⟩
      intro st hst
      cases List.mem_singleton.mp hst
      exact hguide.stopped _ q (hg _ List.mem_cons_self)

/-- What holds of a task on its own host holds of it in the larger process. -/
theorem Guided.embed (hhost : e.Hosts H H' view lower) (hguide : e.Guides view lower g' g)
    {t : Task I α} (ht : Guided H g P t B A) :
    Guided H' g' (fun s => P (view s)) (t.embed e) (fun a s => B a (view s))
      fun s => A (view s) := by
  intro bs s hg hp
  obtain ⟨hsteps, hend⟩ := embed_follows (B := B) (A := A) hhost hguide t bs s hg
  exact hend (ht _ _ hsteps hp)

end Task
end Async
