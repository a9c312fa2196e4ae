import ProviderPlatform.Async.Eval

/-! # The steps of one task

`eval` gives the end of a task under a schedule; `trace` gives the steps it
makes on the way, each with the state it is made in. `Guided` is `Settles` for
the schedules whose every step meets a condition. -/
namespace Async

/-- One step of a task: an operation, or an awaited request and its fate. -/
inductive Step (I : Interface) (σ : Type)
  | ran (s : σ) (o : I.Op)
  | served (s : σ) (q : I.Req)
  | rejected (s : σ) (q : I.Req) (e : I.Err)
  | stopped (s : σ) (q : I.Req)

/-- An operation, or a request that is served. -/
def Step.Answered {I : Interface} {σ : Type} : Step I σ → Prop
  | .ran _ _ | .served _ _ => True
  | _ => False

namespace Task
variable {I : Interface} {σ α β γ : Type} (H : Host I σ)

/-- The steps of a task under a schedule. -/
def trace : Task I α → List (Beat I.Err) → σ → List (Step I σ)
  | .done _, _, _ => []
  | .sync o k, bs, s => .ran s o :: (k (H.runOp o s).1).trace bs (H.runOp o s).2
  | .await q k, bs, s =>
    let s' := H.pass (bs.headD .calm).elapsed s
    match (bs.headD .calm).fate with
    | .serve => .served s' q :: (k (H.serve q s').1).trace bs.tail (H.serve q s').2
    | .reject e => .rejected s' q e :: (k (.error e)).trace bs.tail s'
    | .stop => [.stopped s' q]

theorem trace_settle (t : Task I α) (k : Except I.Err α → Task I β) :
    ∀ bs s, (t.settle k).trace H bs s = t.trace H bs s ++
      match t.eval H bs s with
      | (some r, bs', s') => (k r).trace H bs' s'
      | (none, _, _) => [] := by
  induction t with
  | done r => intro bs s; rfl
  | sync o k' ih => intro bs s; exact congrArg _ (ih _ _ _)
  | await q k' ih =>
    intro bs s
    simp only [settle_await, trace, eval]
    cases (bs.headD .calm).fate with
    | serve => exact congrArg _ (ih _ _ _)
    | reject e => exact congrArg _ (ih _ _ _)
    | stop => rfl

theorem trace_bind_ok {t : Task I α} {k : α → Task I β} {bs bs' : List (Beat I.Err)} {s s' : σ}
    {a : α} (h : t.eval H bs s = (some (.ok a), bs', s')) :
    (t >>= k).trace H bs s = t.trace H bs s ++ (k a).trace H bs' s' := by
  rw [bind_eq_settle, trace_settle, h]
  rfl

/-- Where every request is served, every step is an operation or a service. -/
theorem trace_serves (t : Task I α) : ∀ bs s, (∀ b ∈ bs, Beat.Serves b) →
    ∀ st ∈ t.trace H bs s, (∃ s o, st = .ran s o) ∨ ∃ s q, st = .served s q := by
  induction t with
  | done r =>
    intro bs s _ st hst
    cases hst
  | sync o k ih =>
    intro bs s hb st hst
    rcases List.mem_cons.mp hst with rfl | hst
    · exact .inl ⟨s, o, rfl⟩
    · exact ih _ bs _ hb st hst
  | await q k ih =>
    intro bs s hb st hst
    have hserve : (bs.headD .calm).fate = .serve := Beat.head_serves hb
    simp only [trace, hserve] at hst
    rcases List.mem_cons.mp hst with rfl | hst
    · exact .inr ⟨_, q, rfl⟩
    · exact ih _ _ _ (fun b hm => hb b (List.mem_of_mem_tail hm)) st hst

/-- A schedule without a stop stops nowhere. -/
theorem trace_lives (t : Task I α) : ∀ bs s, (∀ b ∈ bs, Beat.Lives b) →
    ∀ st ∈ t.trace H bs s, ∀ s' q, st ≠ .stopped s' q := by
  induction t with
  | done r => exact fun _ _ _ _ hst => nomatch hst
  | sync o k ih =>
    intro bs s hb st hst
    rcases List.mem_cons.mp hst with rfl | hst
    · exact fun _ _ => nofun
    · exact ih _ bs _ hb st hst
  | await q k ih =>
    intro bs s hb st hst
    have htail : ∀ b ∈ bs.tail, Beat.Lives b := fun b hm => hb b (List.mem_of_mem_tail hm)
    have hlives : (bs.headD .calm).Lives := Beat.head_lives hb
    simp only [trace] at hst
    split at hst
    · rcases List.mem_cons.mp hst with rfl | hst
      · exact fun _ _ => nofun
      · exact ih _ _ _ htail st hst
    · rcases List.mem_cons.mp hst with rfl | hst
      · exact fun _ _ => nofun
      · exact ih _ _ _ htail st hst
    · rename_i hstop
      exact absurd hstop hlives

/-! ## Under a condition on the steps -/

/-- Under every schedule whose steps all meet the condition, from a state with
`P`, the task ends with `B`, or else with `A`. -/
def Guided (g : Step I σ → Prop) (P : σ → Prop) (t : Task I α) (B : α → σ → Prop)
    (A : σ → Prop) : Prop :=
  ∀ bs s, (∀ st ∈ t.trace H bs s, g st) → P s →
    Ended B A (t.eval H bs s).1 (t.eval H bs s).2.2

variable {H} {g : Step I σ → Prop} {P A : σ → Prop} {B : α → σ → Prop} {C : β → σ → Prop}

theorem Settles.guided {t : Task I α} (h : Settles H (fun _ => True) P t B A) :
    Guided H g P t B A :=
  fun bs s _ hp => h bs s (fun _ _ => trivial) hp

theorem Guided.mono {t : Task I α} {P' A' : σ → Prop} {B' : α → σ → Prop}
    (h : Guided H g P t B A) (hP : ∀ s, P' s → P s) (hB : ∀ a s, B a s → B' a s)
    (hA : ∀ s, A s → A' s) : Guided H g P' t B' A' :=
  fun bs s hg hp => (h bs s hg (hP s hp)).mono (fun a => hB a _) (hA _)

/-- What holds at every end holds of the state there. -/
theorem Guided.keeps {t : Task I α} (h : Guided H g P t (fun _ => A) A) {bs : List (Beat I.Err)}
    {s : σ} (hg : ∀ st ∈ t.trace H bs s, g st) (hp : P s) : A (t.eval H bs s).2.2 := by
  have hend := h bs s hg hp
  revert hend
  rcases (t.eval H bs s).1 with _ | e | a
  · exact id
  · exact id
  · exact id

/-- A stronger condition on the steps. -/
theorem Guided.of_guard {t : Task I α} {g' : Step I σ → Prop} (hguard : ∀ st, g' st → g st)
    (h : Guided H g P t B A) : Guided H g' P t B A :=
  fun bs s hg hp => h bs s (fun st hst => hguard st (hg st hst)) hp

/-- The start state can be named. -/
theorem Guided.of_state {t : Task I α} (h : ∀ s, P s → Guided H g (· = s) t B A) :
    Guided H g P t B A :=
  fun bs s hg hp => h s hp bs s hg rfl

theorem Guided.done {r : Except I.Err α} (hok : ∀ a s, r = .ok a → P s → B a s)
    (herr : ∀ e s, r = .error e → P s → A s) : Guided H g P (.done r) B A :=
  Settles.guided (Settles.done hok herr)

theorem Guided.pure {a : α} (h : ∀ s, P s → B a s) : Guided H g P (Pure.pure a) B A :=
  Settles.guided (Settles.pure h)

theorem Guided.fail {e : I.Err} (h : ∀ s, P s → A s) : Guided H g P (Task.fail e) B A :=
  Settles.guided (Settles.fail h)

theorem Guided.settle {t : Task I α} {k : Except I.Err α → Task I β} {A' : σ → Prop}
    (ht : Guided H g P t B A') (hok : ∀ a, Guided H g (B a) (k (.ok a)) C A)
    (herr : ∀ e, Guided H g A' (k (.error e)) C A) (hstop : ∀ s, A' s → A s) :
    Guided H g P (t.settle k) C A := by
  intro bs s hg hp
  rw [trace_settle] at hg
  have hend := ht bs s (fun st hst => hg st (List.mem_append_left _ hst)) hp
  rw [eval_settle]
  revert hg hend
  rcases t.eval H bs s with ⟨_ | e | a, bs', s'⟩
  · exact fun _ hend => hstop s' hend
  · exact fun hg hend => herr e bs' s' (fun st hst => hg st (List.mem_append_right _ hst)) hend
  · exact fun hg hend => hok a bs' s' (fun st hst => hg st (List.mem_append_right _ hst)) hend

theorem Guided.bind {t : Task I α} {k : α → Task I β} (ht : Guided H g P t B A)
    (hk : ∀ a, Guided H g (B a) (k a) C A) : Guided H g P (t >>= k) C A :=
  ht.settle hk (fun _ => .fail fun _ h => h) fun _ h => h

/-- Sequencing, when the value matters for what comes next. -/
theorem Guided.bind_yields {t : Task I α} {k : α → Task I β} {Q : α → Prop}
    (ht : Guided H g P t B A) (hy : t.Yields Q) (hk : ∀ a, Q a → Guided H g (B a) (k a) C A) :
    Guided H g P (t >>= k) C A := by
  have hvalue : Guided H g P t (fun a s => B a s ∧ Q a) A := by
    intro bs s hg hp
    have hend := ht bs s hg hp
    cases hr : (t.eval H bs s).1 with
    | none => rwa [hr] at hend
    | some r =>
      rw [hr] at hend
      cases r with
      | error e => exact hend
      | ok a => exact ⟨hend, eval_yields H hy hr⟩
  exact hvalue.bind fun a bs s hg hp => hk a hp.2 bs s hg hp.1

/-- An error is handled, a stop is not. -/
theorem Guided.recover {t : Task I α} {h : I.Err → Task I α} {E : σ → Prop}
    (ht : Guided H g P t B E) (hh : ∀ e, Guided H g E (h e) B A)
    (hstop : ∀ s, E s → A s) : Guided H g P (t.recover h) B A :=
  ht.settle (fun _ => .pure fun _ hs => hs) hh hstop

/-- The final part is run whatever the outcome. -/
theorem Guided.ensure {t : Task I α} {o : I.Op} {C : α → σ → Prop} {E : σ → Prop}
    (ht : Guided H g P t B E) (hok : ∀ a s, B a s → C a (H.runOp o s).2)
    (herr : ∀ s, E s → A (H.runOp o s).2) (hstop : ∀ s, E s → A s) :
    Guided H g P (t.ensure o) C A :=
  ht.settle (fun a _ s _ hB => hok a s hB) (fun _ _ s _ hE => herr s hE) hstop

theorem Guided.op {o : I.Op} {B : I.Out o → σ → Prop}
    (h : ∀ s, P s → g (.ran s o) → B (H.runOp o s).1 (H.runOp o s).2) :
    Guided H g P (Task.op o) B A :=
  fun _ s hg hp => h s hp (hg _ List.mem_cons_self)

theorem Guided.call {q : I.Req} {B : I.Ans q → σ → Prop} (hpass : ∀ n s, P s → P (H.pass n s))
    (hserve : ∀ s, P s → g (.served s q) → Ended B A (some (H.serve q s).1) (H.serve q s).2)
    (hreject : ∀ s e, P s → g (.rejected s q e) → A s)
    (hstop : ∀ s, P s → g (.stopped s q) → A s) : Guided H g P (Task.call q) B A := by
  intro bs s hg hp
  simp only [Task.call, trace, eval] at hg ⊢
  split
  · rename_i hfate
    rw [hfate] at hg
    exact hserve _ (hpass _ _ hp) (hg _ List.mem_cons_self)
  · rename_i e hfate
    rw [hfate] at hg
    exact hreject _ e (hpass _ _ hp) (hg _ List.mem_cons_self)
  · rename_i hfate
    rw [hfate] at hg
    exact hstop _ (hpass _ _ hp) (hg _ List.mem_cons_self)

/-- A request that is answered with a value. -/
theorem Guided.answered {q : I.Req} {B : I.Ans q → σ → Prop} (hpass : ∀ n s, P s → P (H.pass n s))
    (h : ∀ s, P s → ∃ a, (H.serve q s).1 = .ok a ∧ B a (H.serve q s).2) :
    Guided H Step.Answered P (Task.call q) B fun _ => False := by
  apply Guided.call hpass
  · intro s hp _
    obtain ⟨a, ha, hB⟩ := h s hp
    rw [ha]
    exact hB
  · exact fun _ _ _ hg => hg
  · exact fun _ _ hg => hg

/-- A task whose steps keep `P` where they meet the condition keeps it. -/
theorem Guided.of_steps {okOp : I.Op → Prop} {okReq : I.Req → Prop}
    (ho : ∀ o s, okOp o → P s → g (.ran s o) → P (H.runOp o s).2)
    (hq : ∀ q s, okReq q → P s → g (.served s q) → P (H.serve q s).2)
    (hpass : ∀ n s, P s → P (H.pass n s)) {t : Task I α} (ht : t.Uses okOp okReq) :
    Guided H g P t (fun _ s => P s) P := by
  induction t with
  | done r => exact .done (fun _ _ _ hp => hp) fun _ _ _ hp => hp
  | sync o k ih =>
    intro bs s hg hp
    have hmeets := List.forall_mem_cons.mp hg
    exact ih _ (ht.2 _) bs _ hmeets.2 (ho o s ht.1 hp hmeets.1)
  | await q k ih =>
    intro bs s hg hp
    simp only [trace, eval] at hg ⊢
    split
    · rename_i hfate
      rw [hfate] at hg
      have hmeets := List.forall_mem_cons.mp hg
      exact ih _ (ht.2 _) _ _ hmeets.2 (hq q _ ht.1 (hpass _ _ hp) hmeets.1)
    · rename_i e hfate
      rw [hfate] at hg
      exact ih _ (ht.2 _) _ _ (List.forall_mem_cons.mp hg).2 (hpass _ _ hp)
    · exact hpass _ _ hp

/-- A task whose operations and requests keep `P` keeps it, under the condition. -/
theorem Guided.of_uses {okOp : I.Op → Prop} {okReq : I.Req → Prop}
    (ho : ∀ o s, okOp o → P s → g (.ran s o) → P (H.runOp o s).2)
    (hq : ∀ q s, okReq q → P s → P (H.serve q s).2) (hpass : ∀ n s, P s → P (H.pass n s))
    {t : Task I α} (ht : t.Uses okOp okReq) : Guided H g P t (fun _ s => P s) P :=
  .of_steps ho (fun q s hok hp _ => hq q s hok hp) hpass ht

/-- A loop under an invariant that knows what is left to do. -/
theorem Guided.forEach {f : β → Task I Unit} {J : List β → σ → Prop} :
    ∀ {xs : List β}, (∀ x rest, Guided H g (J (x :: rest)) (f x) (fun _ => J rest) A) →
      Guided H g (J xs) (Task.forEach f xs) (fun _ => J []) A
  | [], _ => .pure fun _ h => h
  | x :: xs, h => (h x xs).bind fun _ => Guided.forEach h

/-- The same for a loop that collects results. -/
theorem Guided.collect {f : β → Task I γ} {J : List β → σ → Prop} :
    ∀ {xs : List β}, (∀ x rest, Guided H g (J (x :: rest)) (f x) (fun _ => J rest) A) →
      Guided H g (J xs) (Task.collect f xs) (fun _ => J []) A
  | [], _ => .pure fun _ h => h
  | x :: xs, h => (h x xs).bind fun _ => (Guided.collect h).bind fun _ => .pure fun _ hs => hs

/-- A loop whose body keeps `P`. -/
theorem Guided.forEach_keeps {f : β → Task I Unit} (h : ∀ x, Guided H g P (f x) (fun _ => P) A)
    (xs : List β) : Guided H g P (Task.forEach f xs) (fun _ => P) A := by
  induction xs with
  | nil => exact .pure fun _ hs => hs
  | cons x xs ih => exact (h x).bind fun _ => ih

/-- What two conditions say of the end of a task holds together. -/
theorem Guided.and {t : Task I α} {P' A' : σ → Prop} {B' : α → σ → Prop}
    (h : Guided H g P t B A) (h' : Guided H g P' t B' A') :
    Guided H g (fun s => P s ∧ P' s) t (fun a s => B a s ∧ B' a s) fun s => A s ∧ A' s := by
  intro bs s hg hp
  have hend := h bs s hg hp.1
  have hend' := h' bs s hg hp.2
  revert hend hend'
  rcases (t.eval H bs s).1 with _ | e | a
  · exact fun hA hA' => ⟨hA, hA'⟩
  · exact fun hA hA' => ⟨hA, hA'⟩
  · exact fun hB hB' => ⟨hB, hB'⟩

/-! ## What one service leaves -/

/-- What a served request establishes, and no step undoes, holds at the end. -/
theorem eval_of_served {okOp : I.Op → Prop} {okReq : I.Req → Prop} {K : σ → Prop}
    {E : I.Req → Prop} (ho : ∀ o s, okOp o → (P s → P (H.runOp o s).2) ∧ (K s → K (H.runOp o s).2))
    (hq : ∀ q s, okReq q → (P s → P (H.serve q s).2) ∧ (K s → K (H.serve q s).2))
    (hpass : ∀ n s, (P s → P (H.pass n s)) ∧ (K s → K (H.pass n s)))
    (hE : ∀ q s, okReq q → E q → K s → P (H.serve q s).2) {t : Task I α}
    (ht : t.Uses okOp okReq) : ∀ {bs s}, K s → (∃ s' q, E q ∧ .served s' q ∈ t.trace H bs s) →
      P (t.eval H bs s).2.2 := by
  have hkeeps {t : Task I α} (ht : t.Uses okOp okReq) (bs : List (Beat I.Err)) {s : σ}
      (hp : P s) : P (t.eval H bs s).2.2 := by
    have hsettles : Settles H (fun _ => True) P t (fun _ s => P s) P :=
      .of_uses (fun o s hok => (ho o s hok).1) (fun q s hok => (hq q s hok).1)
        (fun n s => (hpass n s).1) ht
    have hend := hsettles bs s (fun _ _ => trivial) hp
    revert hend
    rcases (t.eval H bs s).1 with _ | e | a <;> exact id
  induction t with
  | done r =>
    rintro bs s - ⟨_, _, -, hmem⟩
    cases hmem
  | sync o k ih =>
    rintro bs s hK ⟨s', q, hq', hmem⟩
    rcases List.mem_cons.mp hmem with heq | hmem
    · cases heq
    · exact ih _ (ht.2 _) ((ho o s ht.1).2 hK) ⟨s', q, hq', hmem⟩
  | await q k ih =>
    rintro bs s hK ⟨s', q', hq', hmem⟩
    have hK' := (hpass (bs.headD .calm).elapsed s).2 hK
    simp only [trace, eval] at hmem ⊢
    revert hmem
    cases (bs.headD .calm).fate with
    | serve =>
      intro hmem
      rcases List.mem_cons.mp hmem with heq | hmem
      · cases heq
        exact hkeeps (ht.2 _) _ (hE q _ ht.1 hq' hK')
      · exact ih _ (ht.2 _) ((hq q _ ht.1).2 hK') ⟨s', q', hq', hmem⟩
    | reject e =>
      intro hmem
      rcases List.mem_cons.mp hmem with heq | hmem
      · cases heq
      · exact ih _ (ht.2 _) hK' ⟨s', q', hq', hmem⟩
    | stop =>
      intro hmem
      cases List.mem_singleton.mp hmem

/-! ## What a task may reject with -/

/-- The task rejects only with errors in `E`, if each of its requests rejects
only as `R` says. -/
def Throws (R : I.Req → I.Err → Prop) (E : I.Err → Prop) : Task I α → Prop
  | .done r => ∀ e, r = .error e → E e
  | .sync _ k => ∀ a, (k a).Throws R E
  | .await q k => (∀ a, (k (.ok a)).Throws R E) ∧ ∀ e, R q e → (k (.error e)).Throws R E

variable (H) in
/-- A request that rejects here does so as `R` says. -/
def RejectsAs (R : I.Req → I.Err → Prop) : Step I σ → Prop
  | .served s q => ∀ e, (H.serve q s).1 = .error e → R q e
  | .rejected _ q e => R q e
  | _ => True

/-- Without a stop a task comes to its end. -/
theorem exists_stopped {t : Task I α} : ∀ bs s, (t.eval H bs s).1 = none →
    ∃ s' q, Step.stopped s' q ∈ t.trace H bs s := by
  induction t with
  | done r => exact fun bs s h => nomatch h
  | sync o k ih =>
    intro bs s h
    obtain ⟨s', q, hmem⟩ := ih _ bs _ h
    exact ⟨s', q, .tail _ hmem⟩
  | await q k ih =>
    intro bs s h
    simp only [trace, eval] at h ⊢
    revert h
    cases (bs.headD .calm).fate with
    | serve =>
      intro h
      obtain ⟨s', q', hmem⟩ := ih _ _ _ h
      exact ⟨s', q', .tail _ hmem⟩
    | reject e =>
      intro h
      obtain ⟨s', q', hmem⟩ := ih _ _ _ h
      exact ⟨s', q', .tail _ hmem⟩
    | stop => exact fun _ => ⟨_, q, List.mem_cons_self⟩

section Throws
variable {R : I.Req → I.Err → Prop} {E : I.Err → Prop}

theorem Throws.pure (a : α) : (Pure.pure a : Task I α).Throws R E := nofun

theorem Throws.op (o : I.Op) : (Task.op o).Throws R E := fun _ => nofun

theorem Throws.call {q : I.Req} (h : ∀ e, R q e → E e) : (Task.call q).Throws R E := by
  refine ⟨fun _ => nofun, ?_⟩
  rintro e he e' he'
  cases he'
  exact h e he

theorem Throws.settle {t : Task I α} {k : Except I.Err α → Task I β} (ht : t.Throws R E)
    (hok : ∀ a, (k (.ok a)).Throws R E) (herr : ∀ e, E e → (k (.error e)).Throws R E) :
    (t.settle k).Throws R E := by
  induction t with
  | done r =>
    cases r with
    | ok a => exact hok a
    | error e => exact herr e (ht e rfl)
  | sync o k' ih => exact fun a => ih a (ht a)
  | await q k' ih => exact ⟨fun a => ih _ (ht.1 a), fun e he => ih _ (ht.2 e he)⟩

theorem Throws.bind {t : Task I α} {k : α → Task I β} (ht : t.Throws R E)
    (hk : ∀ a, (k a).Throws R E) : (t >>= k).Throws R E := by
  apply ht.settle hk
  intro e he e' he'
  cases he'
  exact he

/-- A handler that never rejects leaves nothing to throw. -/
theorem Throws.recover {t : Task I α} {h : I.Err → Task I α} (hh : ∀ e, (h e).Throws R E) :
    (t.recover h).Throws R E := by
  induction t with
  | done r =>
    cases r with
    | ok a => exact Throws.pure a
    | error e => exact hh e
  | sync o k ih => exact fun a => ih a
  | await q k ih => exact ⟨fun a => ih _, fun e _ => ih _⟩

theorem Throws.forEach {f : β → Task I Unit} {xs : List β} (h : ∀ x ∈ xs, (f x).Throws R E) :
    (Task.forEach f xs).Throws R E := by
  induction xs with
  | nil => exact Throws.pure ()
  | cons x xs ih =>
    obtain ⟨hx, hxs⟩ := List.forall_mem_cons.mp h
    exact hx.bind fun _ => ih hxs

theorem Throws.collect {f : β → Task I γ} {xs : List β} (h : ∀ x ∈ xs, (f x).Throws R E) :
    (Task.collect f xs).Throws R E := by
  induction xs with
  | nil => exact Throws.pure []
  | cons x xs ih =>
    obtain ⟨hx, hxs⟩ := List.forall_mem_cons.mp h
    exact hx.bind fun y => (ih hxs).bind fun ys => Throws.pure (y :: ys)

/-- Where the requests reject as `R` says, the task rejects with errors in `E`. -/
theorem Throws.eval {t : Task I α} (ht : t.Throws R E) : ∀ bs s,
    (∀ st ∈ t.trace H bs s, RejectsAs H R st) → ∀ e, (t.eval H bs s).1 = some (.error e) → E e := by
  induction t with
  | done r =>
    intro bs s _ e he
    exact ht e (Option.some.inj he)
  | sync o k ih => exact fun bs s hg => ih _ (ht _) bs _ fun st hst => hg st (.tail _ hst)
  | await q k ih =>
    intro bs s hg
    simp only [trace, Task.eval] at hg ⊢
    split
    · rename_i hfate
      rw [hfate] at hg
      obtain ⟨hfirst, hrest⟩ := List.forall_mem_cons.mp hg
      apply ih _ _ _ _ hrest
      cases hans : (H.serve q (H.pass (bs.headD .calm).elapsed s)).1 with
      | ok a => exact ht.1 a
      | error e => exact ht.2 e (hfirst e hans)
    · rename_i e hfate
      rw [hfate] at hg
      obtain ⟨hfirst, hrest⟩ := List.forall_mem_cons.mp hg
      exact ih _ (ht.2 e hfirst) _ _ hrest
    · intro e he
      cases he

/-- As `Guided.settle` for a task that is not stopped, knowing what it can
reject with. -/
theorem Guided.settle_throws {t : Task I α} {k : Except I.Err α → Task I β} {A' : σ → Prop}
    (hlives : ∀ s q, ¬ g (.stopped s q)) (hrejects : ∀ st, g st → RejectsAs H R st)
    (ht : Guided H g P t B A') (hE : t.Throws R E) (hok : ∀ a, Guided H g (B a) (k (.ok a)) C A)
    (herr : ∀ e, E e → Guided H g A' (k (.error e)) C A) : Guided H g P (t.settle k) C A := by
  intro bs s hg hp
  rw [trace_settle] at hg
  have hfirst := fun st hst => hg st (List.mem_append_left _ hst)
  have hend := ht bs s hfirst hp
  have hthrow := hE.eval bs s fun st hst => hrejects st (hfirst st hst)
  have hstop : (t.eval H bs s).1 ≠ none := by
    intro hnone
    obtain ⟨s', q, hmem⟩ := exists_stopped bs s hnone
    exact hlives s' q (hfirst _ hmem)
  rw [eval_settle]
  revert hg hend hthrow hstop
  rcases t.eval H bs s with ⟨_ | e | a, bs', s'⟩
  · exact fun _ _ _ hstop => absurd rfl hstop
  · exact fun hg hend hthrow _ =>
      herr e (hthrow e rfl) bs' s' (fun st hst => hg st (List.mem_append_right _ hst)) hend
  · exact fun hg hend _ _ => hok a bs' s' (fun st hst => hg st (List.mem_append_right _ hst)) hend

theorem throws_any (t : Task I α) : t.Throws R fun _ => True := by
  induction t with
  | done r => exact fun _ _ => trivial
  | sync o k ih => exact ih
  | await q k ih => exact ⟨fun a => ih _, fun e _ => ih _⟩

/-- An error is handled, and there is no stop. -/
theorem Guided.recover_lives {t : Task I α} {h : I.Err → Task I α} {E : σ → Prop}
    (hlives : ∀ s q, ¬ g (.stopped s q)) (ht : Guided H g P t B E)
    (hh : ∀ e, Guided H g E (h e) B A) : Guided H g P (t.recover h) B A := by
  apply Guided.settle_throws (R := fun _ _ => True) hlives ?_ ht (throws_any t)
  · exact fun _ => .pure fun _ hs => hs
  · exact fun e _ => hh e
  · intro st _
    cases st with
    | ran s o => trivial
    | stopped s q => trivial
    | served s q => exact fun _ _ => trivial
    | rejected s q e => trivial

end Throws

/-! ## What a returning task saw -/

variable (H) in
/-- Where every request is served and the task returns, from a state and what
was seen so far with `P`: what is then seen, as `f` shows each step, and the
value and the state meet `B`. -/
def Sees (f : Step I σ → Option γ) (P : List γ → σ → Prop) (t : Task I α)
    (B : α → List γ → σ → Prop) : Prop :=
  ∀ bs s seen a, (∀ b ∈ bs, Beat.Serves b) → P seen s → (t.eval H bs s).1 = some (.ok a) →
    B a (seen ++ (t.trace H bs s).filterMap f) (t.eval H bs s).2.2

section Sees
variable {f : Step I σ → Option γ} {P : List γ → σ → Prop} {B : α → List γ → σ → Prop}
  {C : β → List γ → σ → Prop}

theorem Sees.mono {t : Task I α} {P' : List γ → σ → Prop} {B' : α → List γ → σ → Prop}
    (h : Sees H f P t B) (hP : ∀ seen s, P' seen s → P seen s)
    (hB : ∀ a seen s, B a seen s → B' a seen s) : Sees H f P' t B' :=
  fun bs s seen a hb hp hret => hB a _ _ (h bs s seen a hb (hP seen s hp) hret)

/-- A value that only the start state fixes can be named. -/
theorem Sees.of_exists {ι : Type} {t : Task I α} {Q : ι → Prop} {P : ι → List γ → σ → Prop}
    (h : ∀ i, Q i → Sees H f (P i) t B) :
    Sees H f (fun seen s => ∃ i, Q i ∧ P i seen s) t B := by
  intro bs s seen a hb hp hret
  obtain ⟨i, hi, hp⟩ := hp
  exact h i hi bs s seen a hb hp hret

theorem Sees.pure {a : α} (h : ∀ seen s, P seen s → B a seen s) : Sees H f P (Pure.pure a) B := by
  intro bs s seen a' hb hp hret
  cases hret
  show B a (seen ++ []) s
  rw [List.append_nil]
  exact h seen s hp

theorem Sees.fail (e : I.Err) : Sees H f P (Task.fail e) B :=
  fun _ _ _ _ _ _ hret => nomatch hret

theorem Sees.done {r : Except I.Err α} (h : ∀ a, r = .ok a → ∀ seen s, P seen s → B a seen s) :
    Sees H f P (.done r) B := by
  cases r with
  | ok a => exact .pure (h a rfl)
  | error e => exact .fail e

theorem Sees.op {o : I.Op} {B : I.Out o → List γ → σ → Prop}
    (h : ∀ seen s, P seen s → B (H.runOp o s).1 (seen ++ (f (.ran s o)).toList) (H.runOp o s).2) :
    Sees H f P (Task.op o) B := by
  intro bs s seen a hb hp hret
  cases hret
  have hseen : [Step.ran s o].filterMap f = (f (.ran s o)).toList := by
    cases hf : f (.ran s o) <;> simp [hf]
  simpa [Task.op, trace, eval, hseen] using h seen s hp

theorem Sees.call {q : I.Req} {B : I.Ans q → List γ → σ → Prop}
    (hpass : ∀ n seen s, P seen s → P seen (H.pass n s))
    (h : ∀ seen s a, P seen s → (H.serve q s).1 = .ok a →
      B a (seen ++ (f (.served s q)).toList) (H.serve q s).2) : Sees H f P (Task.call q) B := by
  intro bs s seen a hb hp hret
  have hfate : (bs.headD .calm).fate = .serve := Beat.head_serves hb
  have hseen (s' : σ) : [Step.served s' q].filterMap f = (f (.served s' q)).toList := by
    cases hf : f (.served s' q) <;> simp [hf]
  simp only [Task.call, trace, eval, hfate] at hret ⊢
  rw [hseen]
  exact h seen _ a (hpass _ _ _ hp) (Option.some.inj hret)

theorem Sees.settle {t : Task I α} {k : Except I.Err α → Task I β} (ht : Sees H f P t B)
    (hok : ∀ a, Sees H f (B a) (k (.ok a)) C)
    (herr : ∀ e, Sees H f (fun _ _ => True) (k (.error e)) fun _ _ _ => False) :
    Sees H f P (t.settle k) C := by
  intro bs s seen b hb hp hret
  have hsuf := eval_suffix H t bs s
  have hsaw := ht bs s seen
  rw [eval_settle] at hret ⊢
  rw [trace_settle]
  revert hret hsuf hsaw
  rcases t.eval H bs s with ⟨_ | e | a, bs', s'⟩
  · exact fun hret _ _ => nomatch hret
  · intro hret hsuf _
    exact (herr e bs' s' [] b (fun b hm => hb b (hsuf.subset hm)) trivial hret).elim
  · intro hret hsuf hsaw
    have hnext := hok a bs' s' _ b (fun b hm => hb b (hsuf.subset hm)) (hsaw a hb hp rfl) hret
    simpa using hnext

theorem Sees.bind {t : Task I α} {k : α → Task I β} (ht : Sees H f P t B)
    (hk : ∀ a, Sees H f (B a) (k a) C) : Sees H f P (t >>= k) C :=
  ht.settle hk fun e => .fail e

/-- Sequencing, when something is known of the value. -/
theorem Sees.bind_of {t : Task I α} {k : α → Task I β} {Q : α → Prop}
    (ht : Sees H f P t fun a seen s => Q a ∧ B a seen s)
    (hk : ∀ a, Q a → Sees H f (B a) (k a) C) : Sees H f P (t >>= k) C :=
  ht.bind fun a bs s seen b hb hp hret => hk a hp.1 bs s seen b hb hp.2 hret

/-- A handler that does not return. -/
theorem Sees.recover {t : Task I α} {h : I.Err → Task I α} (ht : Sees H f P t B)
    (hh : ∀ e, Sees H f (fun _ _ => True) (h e) fun _ _ _ => False) :
    Sees H f P (t.recover h) B :=
  ht.settle (fun _ => .pure fun _ _ hp => hp) hh

/-- What is known of the value besides. -/
theorem Sees.and_value {t : Task I α} {Q : α → Prop} (h : Sees H f P t B)
    (hq : Gives H (fun _ => True) (fun _ => True) t Q) :
    Sees H f P t fun a seen s => B a seen s ∧ Q a :=
  fun bs s seen a hb hp hret => ⟨h bs s seen a hb hp hret, hq.value trivial hret⟩

/-- A task made of operations and requests that keep `P` keeps it. -/
theorem Sees.of_uses {okOp : I.Op → Prop} {okReq : I.Req → Prop}
    (ho : ∀ o seen s, okOp o → P seen s → P (seen ++ (f (.ran s o)).toList) (H.runOp o s).2)
    (hq : ∀ q seen s, okReq q → P seen s → P (seen ++ (f (.served s q)).toList) (H.serve q s).2)
    (hpass : ∀ n seen s, P seen s → P seen (H.pass n s)) {t : Task I α} (ht : t.Uses okOp okReq) :
    Sees H f P t fun _ => P := by
  have hcons (st : Step I σ) (sts : List (Step I σ)) :
      (st :: sts).filterMap f = (f st).toList ++ sts.filterMap f := by
    cases hf : f st <;> simp [hf]
  induction t with
  | done r => exact .done fun _ _ _ _ hp => hp
  | sync o k ih =>
    intro bs s seen a hb hp hret
    have hnext := ih _ (ht.2 _) bs _ _ a hb (ho o seen s ht.1 hp) hret
    rwa [trace, hcons, ← List.append_assoc]
  | await q k ih =>
    intro bs s seen a hb hp hret
    have hfate : (bs.headD .calm).fate = .serve := Beat.head_serves hb
    have htail : ∀ b ∈ bs.tail, Beat.Serves b := fun b hm => hb b (List.mem_of_mem_tail hm)
    simp only [trace, eval, hfate] at hret ⊢
    have hnext := ih _ (ht.2 _) _ _ _ a htail (hq q seen _ ht.1 (hpass _ _ _ hp)) hret
    rwa [hcons, ← List.append_assoc]

end Sees

/-! ## Runs of one task -/

/-- The task is run to its end any number of times, one after the other, under
schedules whose steps meet the condition; time may pass in between. -/
inductive Rounds (H : Host I σ) (g : Step I σ → Prop) (t : Task I α) : σ → σ → Prop
  | refl (s : σ) : Rounds H g t s s
  | round {s s' : σ} (n : Nat) (bs : List (Beat I.Err)) : Rounds H g t s s' →
      (∀ b ∈ bs, Beat.Lives b) → (∀ st ∈ t.trace H bs (H.pass n s'), g st) →
      Rounds H g t s (t.eval H bs (H.pass n s')).2.2

/-- What a round keeps holds throughout. -/
theorem Rounds.invariant {t : Task I α} {s s' : σ} (h : Rounds H g t s s')
    (hround : Guided H g P t (fun _ => P) P) (hpass : ∀ n s, P s → P (H.pass n s))
    (hs : P s) : P s' := by
  induction h with
  | refl => exact hs
  | round n bs _ _ hg ih =>
    have hend := hround bs _ hg (hpass n _ ih)
    revert hend
    rcases (t.eval H bs _).1 with _ | e | a
    · exact id
    · exact id
    · exact id

end Task
end Async
