import Mathlib.Data.List.Basic

/-! # Asynchronous tasks

A task is what an `async` function still has to do. Synchronous operations
on the process memory run without a break; an awaited request suspends the
task, is served at some later moment, and resumes it with an answer or with
an error. Nothing here fixes what the operations and requests are. -/
namespace Async

/-- The vocabulary of a program: synchronous operations with their results,
awaited requests with their answers, and the errors a promise rejects with. -/
structure Interface where
  Op : Type
  Out : Op → Type
  Req : Type
  Ans : Req → Type
  Err : Type

/-- A suspended or running task. `done` is a settled promise. -/
inductive Task (I : Interface) (α : Type) : Type
  | done (r : Except I.Err α)
  | sync (o : I.Op) (k : I.Out o → Task I α)
  | await (q : I.Req) (k : Except I.Err (I.Ans q) → Task I α)

namespace Task
variable {I : Interface} {α β γ : Type}

/-- Continue with the outcome of a task, fulfilled or rejected. -/
def settle : Task I α → (Except I.Err α → Task I β) → Task I β
  | .done r, f => f r
  | .sync o k, f => .sync o fun a => (k a).settle f
  | .await q k, f => .await q fun a => (k a).settle f

/-- Continue with a value; an error passes through. -/
def andThen (f : α → Task I β) : Except I.Err α → Task I β
  | .ok a => f a
  | .error e => .done (.error e)

instance : Monad (Task I) where
  pure a := .done (.ok a)
  bind t f := t.settle (andThen f)

/-- Run one synchronous operation. -/
def op (o : I.Op) : Task I (I.Out o) := .sync o fun a => .done (.ok a)

/-- Await one request. -/
def call (q : I.Req) : Task I (I.Ans q) := .await q .done

/-- Reject. -/
def fail (e : I.Err) : Task I α := .done (.error e)

/-- `try … catch`: handle a rejection, keep a value. -/
def recover (t : Task I α) (h : I.Err → Task I α) : Task I α :=
  t.settle fun
    | .ok a => .done (.ok a)
    | .error e => h e

/-- `try … finally` whose final part is one synchronous operation. -/
def ensure (t : Task I α) (o : I.Op) : Task I α :=
  t.settle fun r => .sync o fun _ => .done r

/-- `for … of` with an awaited body. -/
def forEach (f : β → Task I Unit) : List β → Task I Unit
  | [] => pure ()
  | x :: xs => do f x; forEach f xs

/-- An awaited body run on every element in order, collecting the results. -/
def collect (f : β → Task I γ) : List β → Task I (List γ)
  | [] => pure []
  | x :: xs => do
    let y ← f x
    let ys ← collect f xs
    pure (y :: ys)

@[simp] theorem settle_done (r : Except I.Err α) (f : Except I.Err α → Task I β) :
    (done r).settle f = f r := rfl
@[simp] theorem settle_sync (o : I.Op) (k : I.Out o → Task I α) (f : Except I.Err α → Task I β) :
    (sync o k).settle f = sync o fun a => (k a).settle f := rfl
@[simp] theorem settle_await (q : I.Req) (k : Except I.Err (I.Ans q) → Task I α)
    (f : Except I.Err α → Task I β) :
    (await q k).settle f = await q fun a => (k a).settle f := rfl

theorem bind_eq_settle (t : Task I α) (f : α → Task I β) : (t >>= f) = t.settle (andThen f) := rfl
theorem pure_eq_done (a : α) : (pure a : Task I α) = .done (.ok a) := rfl

theorem collect_map (f : β → Task I γ) (g : α → β) (xs : List α) :
    collect f (xs.map g) = collect (fun x => f (g x)) xs := by
  induction xs with
  | nil => rfl
  | cons x xs ih => rw [List.map_cons, collect, collect, ih]

@[simp] theorem andThen_ok (f : α → Task I β) (a : α) : andThen f (.ok a) = f a := rfl
@[simp] theorem andThen_error (f : α → Task I β) (e : I.Err) :
    andThen f (.error e) = .done (.error e) := rfl

theorem settle_settle (t : Task I α) (f : Except I.Err α → Task I β)
    (g : Except I.Err β → Task I γ) :
    (t.settle f).settle g = t.settle fun r => (f r).settle g := by
  induction t with
  | done r => rfl
  | sync o k ih => exact congrArg (sync o) (funext ih)
  | await q k ih => exact congrArg (await q) (funext ih)

theorem bind_assoc (t : Task I α) (f : α → Task I β) (g : β → Task I γ) :
    (t >>= f) >>= g = t >>= fun a => f a >>= g := by
  refine (settle_settle _ _ _).trans (congrArg t.settle (funext fun r => ?_))
  cases r <;> rfl

/-! ## What a task may do

`Uses okOp okReq t`: on every path of `t`, whatever the operations return
and however the requests are answered, only the named operations and
requests occur. -/

/-- Every operation and request on every path satisfies the predicate. -/
def Uses (okOp : I.Op → Prop) (okReq : I.Req → Prop) : Task I α → Prop
  | .done _ => True
  | .sync o k => okOp o ∧ ∀ a, (k a).Uses okOp okReq
  | .await q k => okReq q ∧ ∀ r, (k r).Uses okOp okReq

variable {okOp : I.Op → Prop} {okReq : I.Req → Prop}

theorem Uses.settle {t : Task I α} {f : Except I.Err α → Task I β}
    (ht : t.Uses okOp okReq) (hf : ∀ r, (f r).Uses okOp okReq) :
    (t.settle f).Uses okOp okReq := by
  induction t with
  | done r => exact hf r
  | sync o k ih => exact ⟨ht.1, fun a => ih a (ht.2 a)⟩
  | await q k ih => exact ⟨ht.1, fun r => ih r (ht.2 r)⟩

theorem Uses.pure (a : α) : (Pure.pure a : Task I α).Uses okOp okReq := trivial

theorem Uses.fail (e : I.Err) : (Task.fail e : Task I α).Uses okOp okReq := trivial

theorem Uses.op {o : I.Op} (h : okOp o) : (Task.op o).Uses okOp okReq :=
  ⟨h, fun _ => trivial⟩

theorem Uses.call {q : I.Req} (h : okReq q) : (Task.call q).Uses okOp okReq :=
  ⟨h, fun _ => trivial⟩

theorem Uses.bind {t : Task I α} {f : α → Task I β}
    (ht : t.Uses okOp okReq) (hf : ∀ a, (f a).Uses okOp okReq) :
    (t >>= f).Uses okOp okReq :=
  ht.settle fun
    | .ok a => hf a
    | .error _ => trivial

theorem Uses.recover {t : Task I α} {h : I.Err → Task I α}
    (ht : t.Uses okOp okReq) (hh : ∀ e, (h e).Uses okOp okReq) :
    (t.recover h).Uses okOp okReq :=
  ht.settle fun
    | .ok _ => trivial
    | .error e => hh e

theorem Uses.ensure {t : Task I α} {o : I.Op} (ht : t.Uses okOp okReq) (ho : okOp o) :
    (t.ensure o).Uses okOp okReq :=
  ht.settle fun _ => ⟨ho, fun _ => trivial⟩

theorem Uses.forEach {f : β → Task I Unit} :
    ∀ {xs : List β}, (∀ x ∈ xs, (f x).Uses okOp okReq) → (forEach f xs).Uses okOp okReq
  | [], _ => trivial
  | x :: xs, h => by
    apply Uses.bind (h x (by simp))
    intro _
    exact Uses.forEach fun y hy => h y (by simp [hy])

theorem Uses.collect {f : β → Task I γ} :
    ∀ {xs : List β}, (∀ x ∈ xs, (f x).Uses okOp okReq) → (collect f xs).Uses okOp okReq
  | [], _ => trivial
  | x :: xs, h => by
    apply Uses.bind (h x (by simp))
    intro y
    exact Uses.bind (Uses.collect fun z hz => h z (by simp [hz])) fun _ => trivial

theorem uses_any (t : Task I α) : t.Uses (fun _ => True) (fun _ => True) := by
  induction t with
  | done r => trivial
  | sync o k ih => exact ⟨trivial, ih⟩
  | await q k ih => exact ⟨trivial, ih⟩

theorem Uses.mono {okOp' : I.Op → Prop} {okReq' : I.Req → Prop} {t : Task I α}
    (ht : t.Uses okOp okReq) (ho : ∀ o, okOp o → okOp' o) (hq : ∀ q, okReq q → okReq' q) :
    t.Uses okOp' okReq' := by
  induction t with
  | done r => trivial
  | sync o k ih => exact ⟨ho o ht.1, fun a => ih a (ht.2 a)⟩
  | await q k ih => exact ⟨hq q ht.1, fun r => ih r (ht.2 r)⟩

/-! ## What a task may return -/

/-- Every value that a path of `t` ends with satisfies `Q`. -/
def Yields (Q : α → Prop) : Task I α → Prop
  | .done r => ∀ a, r = .ok a → Q a
  | .sync _ k => ∀ a, (k a).Yields Q
  | .await _ k => ∀ r, (k r).Yields Q

section Yields
variable {P : α → Prop} {Q : β → Prop} {S : γ → Prop}

theorem yields_any (t : Task I α) : t.Yields fun _ => True := by
  induction t with
  | done r => exact fun _ _ => trivial
  | sync o k ih => exact ih
  | await q k ih => exact ih

theorem Yields.mono {P' : α → Prop} {t : Task I α} (ht : t.Yields P) (h : ∀ a, P a → P' a) :
    t.Yields P' := by
  induction t with
  | done r => exact fun a ha => h a (ht a ha)
  | sync o k ih => exact fun a => ih a (ht a)
  | await q k ih => exact fun r => ih r (ht r)

theorem Yields.pure {a : α} (h : P a) : (Pure.pure a : Task I α).Yields P := by
  intro a' ha'
  cases ha'
  exact h

theorem Yields.fail (e : I.Err) : (Task.fail e : Task I α).Yields P := fun _ h => nomatch h

theorem Yields.settle {t : Task I α} {f : Except I.Err α → Task I β} (ht : t.Yields P)
    (hok : ∀ a, P a → (f (.ok a)).Yields Q) (herr : ∀ e, (f (.error e)).Yields Q) :
    (t.settle f).Yields Q := by
  induction t with
  | done r =>
    cases r with
    | ok a => exact hok a (ht a rfl)
    | error e => exact herr e
  | sync o k ih => exact fun a => ih a (ht a)
  | await q k ih => exact fun r => ih r (ht r)

theorem Yields.bind {t : Task I α} {f : α → Task I β} (ht : t.Yields P)
    (hf : ∀ a, P a → (f a).Yields Q) : (t >>= f).Yields Q :=
  ht.settle hf Yields.fail

theorem Yields.recover {t : Task I α} {h : I.Err → Task I α} (ht : t.Yields P)
    (hh : ∀ e, (h e).Yields P) : (t.recover h).Yields P :=
  ht.settle (fun _ ha => Yields.pure ha) hh

theorem Yields.collect {f : β → Task I γ} {xs : List β} (h : ∀ x ∈ xs, (f x).Yields S) :
    (Task.collect f xs).Yields fun ys => ∀ y ∈ ys, S y := by
  induction xs with
  | nil => exact Yields.pure fun y hy => by simp at hy
  | cons x xs ih =>
    obtain ⟨hx, hxs⟩ := List.forall_mem_cons.mp h
    refine hx.bind fun y hy => ?_
    exact (ih hxs).bind fun ys hys => Yields.pure (List.forall_mem_cons.mpr ⟨hy, hys⟩)

/-- Sequencing, when the value matters for what comes next. -/
theorem Uses.bind_yields {t : Task I α} {f : α → Task I β} (ht : t.Uses okOp okReq)
    (hy : t.Yields P) (hf : ∀ a, P a → (f a).Uses okOp okReq) : (t >>= f).Uses okOp okReq := by
  induction t with
  | done r =>
    cases r with
    | ok a => exact hf a (hy a rfl)
    | error e => trivial
  | sync o k ih => exact ⟨ht.1, fun a => ih a (ht.2 a) (hy a)⟩
  | await q k ih => exact ⟨ht.1, fun r => ih r (ht.2 r) (hy r)⟩

end Yields

end Task
end Async
