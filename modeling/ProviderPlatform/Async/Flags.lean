import ProviderPlatform.Async.Trace

/-! # A flag for the marked steps

Every step that has the mark raises a flag, which stays up. `Flags` relates the
outcome of a task, the flag and the state: with the flag down it speaks of the
schedules under which no step has the mark, with the flag up of the others, so
one triple gives both directions of an equivalence. -/
namespace Async
namespace Task
variable {I : Interface} {σ α β γ : Type} (H : Host I σ)

/-- Under every schedule of beats `ok` allows, from a flag and a state with `P`,
the task comes to its end, and the outcome, the flag and the state satisfy `Q`. -/
def Flags (ok : Beat I.Err → Prop) (mark : Step I σ → Prop) (P : Prop → σ → Prop) (t : Task I α)
    (Q : Except I.Err α → Prop → σ → Prop) : Prop :=
  ∀ bs s d, (∀ b ∈ bs, ok b) → P d s → ∃ r, (t.eval H bs s).1 = some r ∧
    Q r (d ∨ ∃ st ∈ t.trace H bs s, mark st) (t.eval H bs s).2.2

/-- The task ends with a value and `B`, or with an error and `E`. -/
def Ends {ε : Type} (B : α → Prop → σ → Prop) (E : Prop → σ → Prop) :
    Except ε α → Prop → σ → Prop
  | .ok a => B a
  | .error _ => E

variable {H} {ok : Beat I.Err → Prop} {mark : Step I σ → Prop} {P E : Prop → σ → Prop}
  {Q : Except I.Err α → Prop → σ → Prop} {R : Except I.Err β → Prop → σ → Prop}
  {B : α → Prop → σ → Prop} {C : β → Prop → σ → Prop}

theorem flag_nil (d : Prop) : (d ∨ ∃ st ∈ ([] : List (Step I σ)), mark st) = d := by simp

theorem flag_cons (d : Prop) (st : Step I σ) (sts : List (Step I σ)) :
    (d ∨ ∃ x ∈ st :: sts, mark x) = ((d ∨ mark st) ∨ ∃ x ∈ sts, mark x) := by
  simp [or_assoc]

theorem flag_append (d : Prop) (sts sts' : List (Step I σ)) :
    (d ∨ ∃ x ∈ sts ++ sts', mark x) = ((d ∨ ∃ x ∈ sts, mark x) ∨ ∃ x ∈ sts', mark x) := by
  rw [or_assoc]
  congr 1
  simp only [List.mem_append, or_and_right, exists_or]

theorem Flags.mono {t : Task I α} {P' : Prop → σ → Prop} {Q' : Except I.Err α → Prop → σ → Prop}
    (h : Flags H ok mark P t Q) (hP : ∀ d s, P' d s → P d s)
    (hQ : ∀ r d s, Q r d s → Q' r d s) : Flags H ok mark P' t Q' := by
  intro bs s d hb hp
  obtain ⟨r, hr, hq⟩ := h bs s d hb (hP d s hp)
  exact ⟨r, hr, hQ r _ _ hq⟩

/-- What the start state says of no state can be assumed. -/
theorem Flags.of_imp {t : Task I α} {p : Prop} (hp : ∀ d s, P d s → p)
    (h : p → Flags H ok mark P t Q) : Flags H ok mark P t Q :=
  fun bs s d hb hs => h (hp d s hs) bs s d hb hs

theorem Flags.done {r : Except I.Err α} (h : ∀ d s, P d s → Q r d s) :
    Flags H ok mark P (.done r) Q := by
  intro bs s d _ hp
  refine ⟨r, rfl, ?_⟩
  rw [show (Task.done r : Task I α).trace H bs s = [] from rfl, flag_nil]
  exact h d s hp

theorem Flags.pure {a : α} (h : ∀ d s, P d s → Q (.ok a) d s) :
    Flags H ok mark P (Pure.pure a) Q := Flags.done h

theorem Flags.fail {e : I.Err} (h : ∀ d s, P d s → Q (.error e) d s) :
    Flags H ok mark P (Task.fail e) Q := Flags.done h

theorem Flags.settle {t : Task I α} {k : Except I.Err α → Task I β} (ht : Flags H ok mark P t Q)
    (hk : ∀ r, Flags H ok mark (Q r) (k r) R) : Flags H ok mark P (t.settle k) R := by
  intro bs s d hb hp
  obtain ⟨r, hr, hq⟩ := ht bs s d hb hp
  have hsuf := eval_suffix H t bs s
  rw [eval_settle, trace_settle, flag_append]
  revert hr hq hsuf
  rcases t.eval H bs s with ⟨_ | r', bs', s'⟩
  · exact fun hr => nomatch hr
  · intro hr hq hsuf
    cases hr
    exact hk r bs' s' _ (fun b hm => hb b (hsuf.subset hm)) hq

theorem Flags.bind {t : Task I α} {k : α → Task I β} (ht : Flags H ok mark P t (Ends B E))
    (hk : ∀ a, Flags H ok mark (B a) (k a) (Ends C E)) :
    Flags H ok mark P (t >>= k) (Ends C E) := by
  refine ht.settle fun r => ?_
  cases r with
  | ok a => exact hk a
  | error e => exact .done fun _ _ h => h

/-- Sequencing, when the value matters for what comes next. -/
theorem Flags.bind_yields {t : Task I α} {k : α → Task I β} {V : α → Prop}
    (ht : Flags H ok mark P t (Ends B E)) (hy : t.Yields V)
    (hk : ∀ a, V a → Flags H ok mark (B a) (k a) (Ends C E)) :
    Flags H ok mark P (t >>= k) (Ends C E) := by
  have hvalue : Flags H ok mark P t (Ends (fun a d s => V a ∧ B a d s) E) := by
    intro bs s d hb hp
    obtain ⟨r, hr, hq⟩ := ht bs s d hb hp
    refine ⟨r, hr, ?_⟩
    cases r with
    | ok a => exact ⟨eval_yields H hy hr, hq⟩
    | error e => exact hq
  exact hvalue.bind fun a bs s d hb hp => hk a hp.1 bs s d hb hp.2

theorem Flags.recover {t : Task I α} {h : I.Err → Task I α} (ht : Flags H ok mark P t (Ends B E))
    (hh : ∀ e, Flags H ok mark E (h e) Q) (hok : ∀ a d s, B a d s → Q (.ok a) d s) :
    Flags H ok mark P (t.recover h) Q := by
  refine ht.settle fun r => ?_
  cases r with
  | ok a => exact .done fun d s hb => hok a d s hb
  | error e => exact hh e

theorem Flags.op {o : I.Op} {Q : Except I.Err (I.Out o) → Prop → σ → Prop}
    (h : ∀ d s, P d s → Q (.ok (H.runOp o s).1) (d ∨ mark (.ran s o)) (H.runOp o s).2) :
    Flags H ok mark P (Task.op o) Q := by
  intro bs s d _ hp
  refine ⟨.ok (H.runOp o s).1, rfl, ?_⟩
  rw [show (Task.op o : Task I (I.Out o)).trace H bs s = [.ran s o] from rfl, flag_cons, flag_nil]
  exact h d s hp

theorem Flags.ensure {t : Task I α} {o : I.Op} (ht : Flags H ok mark P t Q)
    (h : ∀ r d s, Q r d s → Q r (d ∨ mark (.ran s o)) (H.runOp o s).2) :
    Flags H ok mark P (t.ensure o) Q := by
  refine ht.settle fun r bs s d hb hq => ⟨r, rfl, ?_⟩
  rw [show (Task.sync o fun _ => .done r : Task I α).trace H bs s = [.ran s o] from rfl, flag_cons,
    flag_nil]
  exact h r d s hq

theorem Flags.call {q : I.Req} {Q : Except I.Err (I.Ans q) → Prop → σ → Prop}
    (hlives : ∀ b, ok b → b.Lives) (hpass : ∀ n d s, P d s → P d (H.pass n s))
    (hserve : ∀ d s, P d s → Q (H.serve q s).1 (d ∨ mark (.served s q)) (H.serve q s).2)
    (hreject : ∀ b e d s, ok b → b.fate = .reject e → P d s →
      Q (.error e) (d ∨ mark (.rejected s q e)) s) : Flags H ok mark P (Task.call q) Q := by
  intro bs s d hb hp
  have hhead : (bs.headD .calm).fate = .serve ∨ ok (bs.headD .calm) := by
    cases bs with
    | nil => exact .inl rfl
    | cons b bs => exact .inr (hb b List.mem_cons_self)
  have hp' := hpass (bs.headD .calm).elapsed d s hp
  simp only [Task.call, trace, eval]
  cases hfate : (bs.headD .calm).fate with
  | serve =>
    refine ⟨_, rfl, ?_⟩
    rw [flag_cons]
    simpa [trace] using hserve d _ hp'
  | reject e =>
    refine ⟨_, rfl, ?_⟩
    rw [flag_cons]
    obtain hserve | hok := hhead
    · rw [hserve] at hfate
      cases hfate
    · simpa [trace] using hreject _ e d _ hok hfate hp'
  | stop =>
    obtain hserve | hok := hhead
    · rw [hserve] at hfate
      cases hfate
    · exact absurd hfate (hlives _ hok)

/-- A task made of operations and requests that keep `P` keeps it. -/
theorem Flags.of_uses {okOp : I.Op → Prop} {okReq : I.Req → Prop} (hlives : ∀ b, ok b → b.Lives)
    (ho : ∀ o d s, okOp o → P d s → P (d ∨ mark (.ran s o)) (H.runOp o s).2)
    (hq : ∀ q d s, okReq q → P d s → P (d ∨ mark (.served s q)) (H.serve q s).2 ∧
      ∀ e, P (d ∨ mark (.rejected s q e)) s)
    (hpass : ∀ n d s, P d s → P d (H.pass n s)) {t : Task I α} (ht : t.Uses okOp okReq) :
    Flags H ok mark P t fun _ => P := by
  induction t with
  | done r => exact .done fun _ _ hp => hp
  | sync o k ih =>
    have hop : Flags H ok mark P (Task.op o) fun _ => P := .op fun d s hp => ho o d s ht.1 hp
    refine Flags.settle (k := fun | .ok a => k a | .error e => .done (.error e)) hop fun r => ?_
    cases r with
    | ok a => exact ih a (ht.2 a)
    | error e => exact .done fun _ _ hp => hp
  | await q k ih =>
    have hcall : Flags H ok mark P (Task.call q) fun _ => P :=
      .call hlives hpass (fun d s hp => (hq q d s ht.1 hp).1) fun _ e d s _ _ hp =>
        (hq q d s ht.1 hp).2 e
    exact hcall.settle fun r => ih r (ht.2 r)

/-- A loop under an invariant that knows what is left to do. -/
theorem Flags.forEach {f : β → Task I Unit} {J : List β → Prop → σ → Prop} :
    ∀ {xs : List β}, (∀ x rest, Flags H ok mark (J (x :: rest)) (f x) (Ends (fun _ => J rest) E)) →
      Flags H ok mark (J xs) (Task.forEach f xs) (Ends (fun _ => J []) E)
  | [], _ => .pure fun _ _ h => h
  | x :: xs, h => (h x xs).bind fun _ => Flags.forEach h

/-- The same for a loop that collects results; the invariant knows those so far. -/
theorem Flags.collect {f : β → Task I γ} {J : List γ → List β → Prop → σ → Prop}
    (h : ∀ ys x rest, Flags H ok mark (J ys (x :: rest)) (f x)
      (Ends (fun y => J (ys ++ [y]) rest) E)) : ∀ {xs : List β} {ys : List γ},
    Flags H ok mark (J ys xs) (Task.collect f xs) (Ends (fun zs => J (ys ++ zs) []) E)
  | [], ys => .pure fun d s hj => by
    show J (ys ++ []) [] d s
    rwa [List.append_nil]
  | x :: xs, ys => by
    refine (h ys x xs).bind fun y => ?_
    have hrest : Flags H ok mark (J (ys ++ [y]) xs) (Task.collect f xs)
        (Ends (fun zs => J (ys ++ [y] ++ zs) []) E) := Flags.collect h
    refine hrest.bind fun zs => .pure fun d s hj => ?_
    show J (ys ++ y :: zs) [] d s
    rwa [List.append_cons]

end Task
end Async
