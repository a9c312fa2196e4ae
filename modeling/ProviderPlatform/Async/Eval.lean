import ProviderPlatform.Async.Pool

/-! # One task on its own

`eval` runs a single task to its end, with no other task in between. A
schedule says what happens at each await: some time passes, then the request
is served, or rejects, or the process stops there. Past the end of the
schedule every request is served at once. `Settles` states what every schedule
of a kind leads to. -/
namespace Async

/-- What becomes of one awaited request. -/
inductive Fate (E : Type)
  | serve
  | reject (e : E)
  | stop

/-- One await of a schedule: the time that passes first, and the fate. -/
structure Beat (E : Type) where
  elapsed : Nat
  fate : Fate E

/-- No time passes and the request is served. -/
def Beat.calm {E : Type} : Beat E := ⟨0, .serve⟩

/-- The request is served, after any time. -/
def Beat.Serves {E : Type} (b : Beat E) : Prop := b.fate = .serve

/-- The process does not stop here. -/
def Beat.Lives {E : Type} (b : Beat E) : Prop := b.fate ≠ .stop

theorem Beat.calm_serves {E : Type} : (calm : Beat E).Serves := rfl
theorem Beat.Serves.lives {E : Type} {b : Beat E} (h : b.Serves) : b.Lives := by
  rw [Beat.Lives, h]; nofun
theorem Beat.calm_lives {E : Type} : (calm : Beat E).Lives := calm_serves.lives

/-- The first beat of a schedule, or the calm one past its end. -/
theorem Beat.head_serves {E : Type} {bs : List (Beat E)} (h : ∀ b ∈ bs, Beat.Serves b) :
    (bs.headD .calm).Serves := by
  cases bs with
  | nil => exact calm_serves
  | cons b bs => exact h b List.mem_cons_self

theorem Beat.head_lives {E : Type} {bs : List (Beat E)} (h : ∀ b ∈ bs, Beat.Lives b) :
    (bs.headD .calm).Lives := by
  cases bs with
  | nil => exact calm_lives
  | cons b bs => exact h b List.mem_cons_self

namespace Task
variable {I : Interface} {σ α β : Type} (H : Host I σ)

/-- The outcome of a task under a schedule (`none` when the process stopped),
the rest of the schedule, and the state. -/
def eval : Task I α → List (Beat I.Err) → σ → Option (Except I.Err α) × List (Beat I.Err) × σ
  | .done r, bs, s => (some r, bs, s)
  | .sync o k, bs, s => (k (H.runOp o s).1).eval bs (H.runOp o s).2
  | .await q k, bs, s =>
    let s' := H.pass (bs.headD .calm).elapsed s
    match (bs.headD .calm).fate with
    | .serve => (k (H.serve q s').1).eval bs.tail (H.serve q s').2
    | .reject e => (k (.error e)).eval bs.tail s'
    | .stop => (none, bs.tail, s')

theorem eval_settle (t : Task I α) (k : Except I.Err α → Task I β) :
    ∀ bs s, (t.settle k).eval H bs s =
      match t.eval H bs s with
      | (some r, bs', s') => (k r).eval H bs' s'
      | (none, bs', s') => (none, bs', s') := by
  induction t with
  | done r => intro bs s; rfl
  | sync o k' ih => intro bs s; exact ih _ _ _
  | await q k' ih =>
    intro bs s
    simp only [settle_await, eval]
    split
    · exact ih _ _ _
    · exact ih _ _ _
    · rfl

/-- A request that is served. -/
theorem eval_call {q : I.Req} {bs : List (Beat I.Err)} {s : σ}
    (hb : (bs.headD .calm).fate = .serve) :
    (call q).eval H bs s = (some (H.serve q (H.pass (bs.headD .calm).elapsed s)).1, bs.tail,
      (H.serve q (H.pass (bs.headD .calm).elapsed s)).2) := by
  simp only [call, eval, hb]

theorem eval_bind_ok {t : Task I α} {k : α → Task I β} {bs bs' : List (Beat I.Err)} {s s' : σ}
    {a : α} (h : t.eval H bs s = (some (.ok a), bs', s')) :
    (t >>= k).eval H bs s = (k a).eval H bs' s' := by
  rw [bind_eq_settle, eval_settle, h]
  rfl

theorem eval_bind_error {t : Task I α} {k : α → Task I β} {bs bs' : List (Beat I.Err)}
    {s s' : σ} {e : I.Err} (h : t.eval H bs s = (some (.error e), bs', s')) :
    (t >>= k).eval H bs s = (some (.error e), bs', s') := by
  rw [bind_eq_settle, eval_settle, h]
  rfl

/-- A sequence returns a value if its first part does and then the second. -/
theorem eval_bind_eq_ok {t : Task I α} {k : α → Task I β} {bs : List (Beat I.Err)} {s : σ}
    {b : β} :
    ((t >>= k).eval H bs s).1 = some (.ok b) ↔
      ∃ a bs' s', t.eval H bs s = (some (.ok a), bs', s') ∧
        ((k a).eval H bs' s').1 = some (.ok b) := by
  rw [bind_eq_settle, eval_settle]
  rcases t.eval H bs s with ⟨_ | e | a, bs', s'⟩
  · constructor
    · intro h
      cases h
    · rintro ⟨a, bs', s', h, -⟩
      cases h
  · constructor
    · intro h
      cases h
    · rintro ⟨a, bs', s', h, -⟩
      cases h
  · constructor
    · exact fun h => ⟨a, bs', s', rfl, h⟩
    · rintro ⟨a, bs', s', h, hk⟩
      cases h
      exact hk

/-- A value that a task returns is one that it yields. -/
theorem eval_yields {t : Task I α} {Q : α → Prop} (ht : t.Yields Q) : ∀ {bs s a},
    (t.eval H bs s).1 = some (.ok a) → Q a := by
  induction t with
  | done r => exact fun h => ht _ (Option.some.inj h)
  | sync o k ih => exact fun h => ih _ (ht _) h
  | await q k ih =>
    intro bs s a h
    simp only [eval] at h
    split at h
    · exact ih _ (ht _) h
    · exact ih _ (ht _) h
    · cases h

/-- A schedule is used from its front. -/
theorem eval_suffix (t : Task I α) : ∀ bs s, (t.eval H bs s).2.1 <:+ bs := by
  induction t with
  | done r => intro bs s; exact List.suffix_refl bs
  | sync o k ih => intro bs s; exact ih _ _ _
  | await q k ih =>
    intro bs s
    simp only [eval]
    have htail : bs.tail <:+ bs := List.tail_suffix bs
    split
    · exact (ih _ _ _).trans htail
    · exact (ih _ _ _).trans htail
    · exact htail

/-- A value that is found by evaluation. -/
theorem exists_value_of_eval (t : Task I α) (bs : List (Beat I.Err)) (s : σ) (p : α → Bool)
    (h : ((t.eval H bs s).1.bind (·.toOption)).map p = some true) :
    ∃ a, (t.eval H bs s).1 = some (.ok a) ∧ p a = true := by
  obtain ⟨a, ha, hp⟩ := Option.map_eq_some_iff.mp h
  obtain ⟨r, hr, hra⟩ := Option.bind_eq_some_iff.mp ha
  cases r with
  | error e => cases hra
  | ok a' =>
    cases hra
    exact ⟨a, hr, hp⟩

/-- How a task ended: with a value and a state in `B`, or else (with an error,
or stopped) in a state in `A`. -/
def Ended (B : α → σ → Prop) (A : σ → Prop) : Option (Except I.Err α) → σ → Prop
  | some (.ok a), s => B a s
  | some (.error _), s => A s
  | none, s => A s

/-- Under every schedule of beats `ok` allows, from a state with `P`, the task
ends with `B`, or else with `A`. -/
def Settles (ok : Beat I.Err → Prop) (P : σ → Prop) (t : Task I α) (B : α → σ → Prop)
    (A : σ → Prop) : Prop :=
  ∀ bs s, (∀ b ∈ bs, ok b) → P s → Ended B A (t.eval H bs s).1 (t.eval H bs s).2.2

variable {H} {ok : Beat I.Err → Prop} {P A : σ → Prop} {B : α → σ → Prop} {C : β → σ → Prop}

theorem Ended.of_ok {s : σ} {r : Option (Except I.Err α)} {a : α} (h : Ended B A r s)
    (hr : r = some (.ok a)) : B a s := by
  subst hr
  exact h

theorem Ended.of_error {s : σ} {r : Option (Except I.Err α)} {e : I.Err} (h : Ended B A r s)
    (hr : r = some (.error e)) : A s := by
  subst hr
  exact h

/-- Where nothing else can happen the task returned. -/
theorem Ended.exists_ok {s : σ} {r : Option (Except I.Err α)} (h : Ended B (fun _ => False) r s) :
    ∃ a, r = some (.ok a) ∧ B a s := by
  rcases r with _ | e | a
  · exact h.elim
  · exact h.elim
  · exact ⟨a, rfl, h⟩

theorem Ended.mono {B' : α → σ → Prop} {A' : σ → Prop} {r : Option (Except I.Err α)} {s : σ}
    (h : Ended B A r s) (hB : ∀ a, B a s → B' a s) (hA : A s → A' s) : Ended B' A' r s := by
  rcases r with _ | e | a
  · exact hA h
  · exact hA h
  · exact hB a h

theorem Settles.mono {t : Task I α} {P' A' : σ → Prop} {B' : α → σ → Prop}
    (h : Settles H ok P t B A) (hP : ∀ s, P' s → P s) (hB : ∀ a s, B a s → B' a s)
    (hA : ∀ s, A s → A' s) : Settles H ok P' t B' A' :=
  fun bs s hb hp => (h bs s hb (hP s hp)).mono (fun a => hB a _) (hA _)

/-- The start state can be named. -/
theorem Settles.of_state {t : Task I α} (h : ∀ s, P s → Settles H ok (· = s) t B A) :
    Settles H ok P t B A :=
  fun bs s hb hp => h s hp bs s hb rfl

theorem Settles.pure {a : α} (h : ∀ s, P s → B a s) : Settles H ok P (Pure.pure a) B A :=
  fun _ s _ hp => h s hp

theorem Settles.fail {e : I.Err} (h : ∀ s, P s → A s) : Settles H ok P (Task.fail e) B A :=
  fun _ s _ hp => h s hp

theorem Settles.done {r : Except I.Err α} (hok : ∀ a s, r = .ok a → P s → B a s)
    (herr : ∀ e s, r = .error e → P s → A s) : Settles H ok P (.done r) B A := by
  cases r with
  | ok a => exact .pure fun s => hok a s rfl
  | error e => exact .fail fun s => herr e s rfl

theorem Settles.bind {t : Task I α} {k : α → Task I β} (ht : Settles H ok P t B A)
    (hk : ∀ a, Settles H ok (B a) (k a) C A) : Settles H ok P (t >>= k) C A := by
  intro bs s hb hp
  have h := ht bs s hb hp
  have hsuf := eval_suffix H t bs s
  rw [bind_eq_settle, eval_settle]
  revert h hsuf
  rcases t.eval H bs s with ⟨_ | e | a, bs', s'⟩
  · exact fun h _ => h
  · exact fun h _ => h
  · exact fun h hsuf => hk a bs' s' (fun b hm => hb b (hsuf.subset hm)) h

/-- An error is handled, a stop is not. -/
theorem Settles.recover {t : Task I α} {h : I.Err → Task I α} {A' : σ → Prop}
    (ht : Settles H ok P t B A') (hh : ∀ e, Settles H ok A' (h e) B A)
    (hstop : ∀ s, A' s → A s) : Settles H ok P (t.recover h) B A := by
  intro bs s hb hp
  have hend := ht bs s hb hp
  have hsuf := eval_suffix H t bs s
  rw [Task.recover, eval_settle]
  revert hend hsuf
  rcases t.eval H bs s with ⟨_ | e | a, bs', s'⟩
  · exact fun h _ => hstop s' h
  · exact fun h hsuf => hh e bs' s' (fun b hm => hb b (hsuf.subset hm)) h
  · exact fun h _ => h

theorem Settles.op {o : I.Op} {B : I.Out o → σ → Prop}
    (h : ∀ s, P s → B (H.runOp o s).1 (H.runOp o s).2) : Settles H ok P (Task.op o) B A :=
  fun _ s _ hp => h s hp

theorem Settles.call {q : I.Req} {B : I.Ans q → σ → Prop} (hpass : ∀ n s, P s → P (H.pass n s))
    (hserve : ∀ s, P s → Ended B A (some (H.serve q s).1) (H.serve q s).2)
    (hfault : ∀ b, ok b → b.fate ≠ .serve → ∀ s, P s → A s) :
    Settles H ok P (Task.call q) B A := by
  intro bs s hb hp
  cases bs with
  | nil => exact hserve _ (hpass _ _ hp)
  | cons b bs =>
    have hok : ok b := hb b List.mem_cons_self
    simp only [Task.call, eval, List.headD_cons]
    split
    · exact hserve _ (hpass _ _ hp)
    · rename_i e hfate
      exact hfault b hok (by rw [hfate]; nofun) _ (hpass _ _ hp)
    · rename_i hfate
      exact hfault b hok (by rw [hfate]; nofun) _ (hpass _ _ hp)

/-- A task made of operations and requests that keep `P` keeps it to its end,
under any schedule. -/
theorem Settles.of_uses {okOp : I.Op → Prop} {okReq : I.Req → Prop}
    (ho : ∀ o s, okOp o → P s → P (H.runOp o s).2)
    (hq : ∀ q s, okReq q → P s → P (H.serve q s).2) (hpass : ∀ n s, P s → P (H.pass n s))
    {t : Task I α} (ht : t.Uses okOp okReq) : Settles H ok P t (fun _ s => P s) P := by
  induction t with
  | done r => exact .done (fun _ _ _ hp => hp) fun _ _ _ hp => hp
  | sync o k ih => exact fun bs s hb hp => ih _ (ht.2 _) bs _ hb (ho o s ht.1 hp)
  | await q k ih =>
    intro bs s hb hp
    have htail : ∀ b ∈ bs.tail, ok b := fun b hm => hb b (List.mem_of_mem_tail hm)
    simp only [eval]
    split
    · exact ih _ (ht.2 _) _ _ htail (hq q _ ht.1 (hpass _ _ hp))
    · exact ih _ (ht.2 _) _ _ htail (hpass _ _ hp)
    · exact hpass _ _ hp

/-! ## Values under an invariant -/

variable (H ok P) in
/-- From a state with `P` the task keeps `P`, and a value it returns satisfies
`Q`. -/
def Gives (t : Task I α) (Q : α → Prop) : Prop := Settles H ok P t (fun a s => P s ∧ Q a) P

section Gives
variable {Q : α → Prop} {Q' : β → Prop}

theorem Gives.value {t : Task I α} {bs : List (Beat I.Err)} {s : σ} {a : α}
    (h : Gives H (fun _ => True) P t Q) (hp : P s) (ha : (t.eval H bs s).1 = some (.ok a)) : Q a :=
  ((h bs s (fun _ _ => trivial) hp).of_ok ha).2

theorem Gives.keeps {t : Task I α} {bs : List (Beat I.Err)} {s : σ}
    (h : Gives H (fun _ => True) P t Q) (hp : P s) : P (t.eval H bs s).2.2 := by
  have hend := h bs s (fun _ _ => trivial) hp
  revert hend
  rcases (t.eval H bs s).1 with _ | e | a
  · exact id
  · exact id
  · exact And.left

/-- The start state can be named. -/
theorem Gives.of_state {t : Task I α} (h : ∀ s, P s → Gives H ok P t Q) : Gives H ok P t Q :=
  fun bs s hb hp => h s hp bs s hb hp

theorem Gives.done {r : Except I.Err α} (h : ∀ a, r = .ok a → Q a) : Gives H ok P (.done r) Q :=
  Settles.done (fun a _ ha hp => ⟨hp, h a ha⟩) fun _ _ _ hp => hp

theorem Gives.pure {a : α} (h : Q a) : Gives H ok P (Pure.pure a) Q :=
  Settles.pure fun _ hp => ⟨hp, h⟩

theorem Gives.fail (e : I.Err) : Gives H ok P (Task.fail e) Q := Settles.fail fun _ hp => hp

theorem Gives.bind {t : Task I α} {k : α → Task I β} (ht : Gives H ok P t Q)
    (hk : ∀ a, Q a → Gives H ok P (k a) Q') : Gives H ok P (t >>= k) Q' :=
  Settles.bind ht fun a bs s hb hp => hk a hp.2 bs s hb hp.1

theorem Gives.recover {t : Task I α} {h : I.Err → Task I α} (ht : Gives H ok P t Q)
    (hh : ∀ e, Gives H ok P (h e) Q) : Gives H ok P (t.recover h) Q :=
  Settles.recover ht hh fun _ hp => hp

theorem Gives.call {q : I.Req} {Q : I.Ans q → Prop} (hpass : ∀ n s, P s → P (H.pass n s))
    (h : ∀ s, P s → P (H.serve q s).2 ∧ ∀ a, (H.serve q s).1 = .ok a → Q a) :
    Gives H ok P (Task.call q) Q := by
  refine Settles.call hpass (fun s hp => ?_) fun _ _ _ _ hp => hp
  obtain ⟨hkeep, hval⟩ := h s hp
  revert hkeep hval
  rcases H.serve q s with ⟨e | a, s'⟩
  · exact fun hkeep _ => hkeep
  · exact fun hkeep hval => ⟨hkeep, hval a rfl⟩

theorem Gives.of_uses {okOp : I.Op → Prop} {okReq : I.Req → Prop}
    (ho : ∀ o s, okOp o → P s → P (H.runOp o s).2)
    (hq : ∀ q s, okReq q → P s → P (H.serve q s).2) (hpass : ∀ n s, P s → P (H.pass n s))
    {t : Task I α} (ht : t.Uses okOp okReq) : Gives H ok P t fun _ => True :=
  (Settles.of_uses ho hq hpass ht).mono (fun _ hp => hp) (fun _ _ hp => ⟨hp, trivial⟩)
    fun _ hp => hp

end Gives

end Task
end Async
