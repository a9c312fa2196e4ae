import ProviderPlatform.Async.Task

/-! # A pool of interleaved tasks

One process runs any number of tasks. Between two awaited requests a task
runs without a break (`advance`); at every await the other tasks, the
outside world and the clock may move. A request is served, or it rejects and
leaves the state alone; a crash forgets every task and the process memory
and starts the boot task again. The step is a function of the choice the
scheduler makes, so a run can be replayed. -/
namespace Async

/-- What the operations and requests do to the state, and how time passes. -/
structure Host (I : Interface) (σ : Type) where
  runOp : (o : I.Op) → σ → I.Out o × σ
  serve : (q : I.Req) → σ → Except I.Err (I.Ans q) × σ
  pass : Nat → σ → σ

namespace Task
variable {I : Interface} {σ α β : Type} (H : Host I σ)

/-- Run the synchronous part of a task, up to its next await or its end. -/
def advance : Task I α → σ → Task I α × σ
  | .done r, s => (.done r, s)
  | .sync o k, s => (k (H.runOp o s).1).advance (H.runOp o s).2
  | .await q k, s => (.await q k, s)

/-- The operations `advance` runs, each with the state it runs in. -/
def opsRun : Task I α → σ → List (σ × I.Op)
  | .done _, _ => []
  | .sync o k, s => (s, o) :: (k (H.runOp o s).1).opsRun (H.runOp o s).2
  | .await _ _, _ => []

/-- A state property that every operation run keeps survives the whole
synchronous part. -/
theorem advance_keeps {P : σ → Prop} {g : σ → I.Op → Prop}
    (hop : ∀ s o, P s → g s o → P (H.runOp o s).2) (t : Task I α) :
    ∀ s, P s → (∀ p ∈ t.opsRun H s, g p.1 p.2) → P (t.advance H s).2 := by
  induction t with
  | done r => intro s hs _; exact hs
  | sync o k ih =>
    intro s hs hg
    simp only [opsRun, List.mem_cons, forall_eq_or_imp] at hg
    exact ih _ _ (hop s o hs hg.1) hg.2
  | await q k => intro s hs _; exact hs

/-- The operations `advance` runs see only states with a property that
operations keep. -/
theorem opsRun_keeps {P : σ → Prop} (hop : ∀ s o, P s → P (H.runOp o s).2) (t : Task I α) :
    ∀ s, P s → ∀ p ∈ t.opsRun H s, P p.1 := by
  induction t with
  | done r => simp [opsRun]
  | sync o k ih =>
    intro s hs
    simp only [opsRun, List.mem_cons, forall_eq_or_imp]
    exact ⟨hs, ih _ _ (hop s o hs)⟩
  | await q k => simp [opsRun]

/-- A task that ends runs its final part at once; one that awaits still has it to run. -/
theorem advance_ensure (o : I.Op) (t : Task I α) : ∀ s,
    (∃ r, (t.advance H s).1 = .done r ∧
      (t.ensure o).advance H s = (.done r, (H.runOp o (t.advance H s).2).2)) ∨
    (t.ensure o).advance H s = ((t.advance H s).1.ensure o, (t.advance H s).2) := by
  induction t with
  | done r => exact fun s => .inl ⟨r, rfl, rfl⟩
  | sync o' k ih => exact fun s => ih _ _
  | await q k => exact fun s => .inr rfl

theorem Uses.advance {okOp : I.Op → Prop} {okReq : I.Req → Prop} {t : Task I α} :
    ∀ {s}, t.Uses okOp okReq → (t.advance H s).1.Uses okOp okReq := by
  induction t with
  | done r => exact id
  | sync o k ih => exact fun h => ih _ (h.2 _)
  | await q k => exact id

theorem Uses.opsRun {okOp : I.Op → Prop} {okReq : I.Req → Prop} {t : Task I α} :
    ∀ {s}, t.Uses okOp okReq → ∀ p ∈ t.opsRun H s, okOp p.2 := by
  induction t with
  | done r => simp [Task.opsRun]
  | sync o k ih =>
    intro s h p hp
    rcases List.mem_cons.mp hp with rfl | hp
    · exact h.1
    · exact ih _ (h.2 _) p hp
  | await q k => simp [Task.opsRun]

end Task

/-- A process: its host, the tasks it can start, the boot task, what moves
outside it (`drift`), and what a crash leaves of the state. -/
structure Machine (I : Interface) (σ L D : Type) where
  host : Host I σ
  program : L → Task I Unit
  startable : σ → L → Bool
  boot : L
  drift : D → σ → σ
  reboot : σ → σ

/-- The state and the live tasks, each with the label it was started under. -/
structure Pool (I : Interface) (σ L : Type) where
  state : σ
  tasks : List (L × Task I Unit)

/-- One move of the scheduler. -/
inductive Choice (I : Interface) (L D : Type)
  | start (l : L)
  | resume (i : Nat)
  | serve (i : Nat)
  | reject (i : Nat) (e : I.Err)
  | drift (d : D)
  | crash

/-- The label and the request of the task a choice serves. -/
def Choice.served {I : Interface} {σ L D : Type} : Choice I L D → Pool I σ L → Option (L × I.Req)
  | .serve i, c =>
    match c.tasks[i]? with
    | some (l, .await q _) => some (l, q)
    | _ => none
  | _, _ => none

/-- The label and the request of the task a choice rejects. -/
def Choice.rejected {I : Interface} {σ L D : Type} : Choice I L D → Pool I σ L → Option (L × I.Req)
  | .reject i _, c =>
    match c.tasks[i]? with
    | some (l, .await q _) => some (l, q)
    | _ => none
  | _, _ => none

/-- The operations a choice runs, each with the state it runs in. -/
def Choice.ops {I : Interface} {σ L D : Type} (H : Host I σ) :
    Choice I L D → Pool I σ L → List (σ × I.Op)
  | .resume i, c =>
    match c.tasks[i]? with
    | some (_, t) => t.opsRun H c.state
    | none => []
  | _, _ => []

/-- The same for the operations of a choice. -/
theorem Choice.ops_keep {I : Interface} {σ L D : Type} {H : Host I σ} {P : σ → Prop}
    (hop : ∀ s o, P s → P (H.runOp o s).2) {c : Pool I σ L} (h : P c.state) (ch : Choice I L D) :
    ∀ p ∈ ch.ops H c, P p.1 := by
  cases ch with
  | resume i =>
    simp only [Choice.ops]
    split
    · exact Task.opsRun_keeps H hop _ _ h
    · simp
  | _ => simp [Choice.ops]

namespace Machine
variable {I : Interface} {σ L D : Type} (M : Machine I σ L D)

/-- The pool of a process that just started on the state `s`. -/
def init (s : σ) : Pool I σ L := ⟨s, [(M.boot, M.program M.boot)]⟩

/-- One step, if the choice applies. -/
def step : Choice I L D → Pool I σ L → Option (Pool I σ L)
  | .start l, c =>
    if M.startable c.state l then some ⟨c.state, c.tasks ++ [(l, M.program l)]⟩ else none
  | .resume i, c =>
    match c.tasks[i]? with
    | some (l, t) =>
      some ⟨(t.advance M.host c.state).2, c.tasks.set i (l, (t.advance M.host c.state).1)⟩
    | none => none
  | .serve i, c =>
    match c.tasks[i]? with
    | some (l, .await q k) =>
      some ⟨(M.host.serve q c.state).2, c.tasks.set i (l, k (M.host.serve q c.state).1)⟩
    | _ => none
  | .reject i e, c =>
    match c.tasks[i]? with
    | some (l, .await _ k) => some ⟨c.state, c.tasks.set i (l, k (.error e))⟩
    | _ => none
  | .drift d, c => some ⟨M.drift d c.state, c.tasks⟩
  | .crash, c => some (M.init (M.reboot c.state))

/-- What a step does to the state, by kind of choice. -/
theorem step_cases {ch : Choice I L D} {c c' : Pool I σ L} (h : M.step ch c = some c') :
    (∃ l, ch = .start l ∧ M.startable c.state l = true ∧
      c' = ⟨c.state, c.tasks ++ [(l, M.program l)]⟩) ∨
    (∃ i l t, ch = .resume i ∧ c.tasks[i]? = some (l, t) ∧
      c' = ⟨(t.advance M.host c.state).2, c.tasks.set i (l, (t.advance M.host c.state).1)⟩) ∨
    (∃ i l q k, ch = .serve i ∧ c.tasks[i]? = some (l, .await q k) ∧
      c' = ⟨(M.host.serve q c.state).2, c.tasks.set i (l, k (M.host.serve q c.state).1)⟩) ∨
    (∃ i l q k e, ch = .reject i e ∧ c.tasks[i]? = some (l, .await q k) ∧
      c' = ⟨c.state, c.tasks.set i (l, k (.error e))⟩) ∨
    (∃ d, ch = .drift d ∧ c' = ⟨M.drift d c.state, c.tasks⟩) ∨
    (ch = .crash ∧ c' = M.init (M.reboot c.state)) := by
  cases ch with
  | start l =>
    simp only [step] at h
    split at h
    · rename_i hs
      exact .inl ⟨l, rfl, hs, (Option.some.inj h).symm⟩
    · cases h
  | resume i =>
    simp only [step] at h
    split at h
    · rename_i l t ht
      exact .inr (.inl ⟨i, l, t, rfl, ht, (Option.some.inj h).symm⟩)
    · cases h
  | serve i =>
    simp only [step] at h
    split at h
    · rename_i l q k ht
      exact .inr (.inr (.inl ⟨i, l, q, k, rfl, ht, (Option.some.inj h).symm⟩))
    · cases h
  | reject i e =>
    simp only [step] at h
    split at h
    · rename_i l q k ht
      exact .inr (.inr (.inr (.inl ⟨i, l, q, k, e, rfl, ht, (Option.some.inj h).symm⟩)))
    · cases h
  | drift d => exact .inr (.inr (.inr (.inr (.inl ⟨d, rfl, (Option.some.inj h).symm⟩))))
  | crash => exact .inr (.inr (.inr (.inr (.inr ⟨rfl, (Option.some.inj h).symm⟩))))

/-- A run whose every step meets the guard, a condition on the pool before
the step and the choice made. -/
inductive Run (G : Pool I σ L → Choice I L D → Prop) : Pool I σ L → Pool I σ L → Prop
  | refl (c : Pool I σ L) : Run G c c
  | step {c c' c'' : Pool I σ L} (ch : Choice I L D) :
      Run G c c' → G c' ch → M.step ch c' = some c'' → Run G c c''

/-- No condition on the steps. -/
def Free : Pool I σ L → Choice I L D → Prop := fun _ _ => True

variable {M} {G : Pool I σ L → Choice I L D → Prop}

theorem Run.mono {G' : Pool I σ L → Choice I L D → Prop} (hG : ∀ c ch, G c ch → G' c ch)
    {c c' : Pool I σ L} (h : M.Run G c c') : M.Run G' c c' := by
  induction h with
  | refl => exact .refl _
  | step ch _ hg hs ih => exact .step ch ih (hG _ _ hg) hs

theorem Run.trans {c c' c'' : Pool I σ L} (h : M.Run G c c') (h' : M.Run G c' c'') :
    M.Run G c c'' := by
  induction h' with
  | refl => exact h
  | step ch _ hg hs ih => exact .step ch ih hg hs

/-- A machine that may start more has every run of one that may start less. -/
theorem Run.of_startable {f : σ → L → Bool} (hf : ∀ s l, M.startable s l = true → f s l = true)
    {c c' : Pool I σ L} (h : M.Run G c c') : { M with startable := f }.Run G c c' := by
  induction h with
  | refl => exact .refl _
  | @step c' _ ch _ hg hs ih =>
    refine .step ch ih hg ?_
    cases ch with
    | start l =>
      simp only [Machine.step] at hs ⊢
      split at hs
      · rename_i hl
        rw [if_pos (hf c'.state l hl)]
        exact hs
      · cases hs
    | _ => exact hs

/-- What holds at the start and survives every guarded step holds throughout. -/
theorem Run.invariant {P : Pool I σ L → Prop}
    (hstep : ∀ c ch c', P c → G c ch → M.step ch c = some c' → P c')
    {c c' : Pool I σ L} (h : M.Run G c c') (h0 : P c) : P c' := by
  induction h with
  | refl => exact h0
  | step ch _ hg hs ih => exact hstep _ _ _ ih hg hs

/-- What holds throughout can be added to the guard. -/
theorem Run.strengthen {P : Pool I σ L → Prop}
    (hstep : ∀ c ch c', P c → G c ch → M.step ch c = some c' → P c')
    {c c' : Pool I σ L} (h : M.Run G c c') (h0 : P c) :
    M.Run (fun c ch => G c ch ∧ P c) c c' := by
  induction h with
  | refl => exact .refl _
  | step ch hr hg hs ih => exact .step ch ih ⟨hg, hr.invariant hstep h0⟩ hs

/-- **State invariants of a run.** A property of the state holds throughout a
run when every operation the guard lets run, every served request, every
drift and the crash keep it: the programs of the tasks do not matter. -/
theorem Run.state_invariant {P : σ → Prop} {g : σ → I.Op → Prop}
    (hG : ∀ c ch, G c ch → ∀ p ∈ ch.ops M.host c, g p.1 p.2)
    (hop : ∀ s o, P s → g s o → P (M.host.runOp o s).2)
    (hserve : ∀ s q, P s → P (M.host.serve q s).2)
    (hdrift : ∀ s d, P s → P (M.drift d s)) (hcrash : ∀ s, P s → P (M.reboot s))
    {c c' : Pool I σ L} (h : M.Run G c c') (h0 : P c.state) : P c'.state := by
  refine h.invariant (P := fun c => P c.state) ?_ h0
  intro c ch c' hc hg hs
  rcases M.step_cases hs with ⟨l, rfl, -, rfl⟩ | ⟨i, l, t, rfl, ht, rfl⟩ |
    ⟨i, l, q, k, rfl, ht, rfl⟩ | ⟨i, l, q, k, e, rfl, ht, rfl⟩ | ⟨d, rfl, rfl⟩ | ⟨rfl, rfl⟩
  · exact hc
  · apply Task.advance_keeps M.host hop t _ hc
    have hops := hG _ _ hg
    simpa only [Choice.ops, ht] using hops
  · exact hserve _ _ hc
  · exact hc
  · exact hdrift _ _ hc
  · exact hcrash _ hc

/-! ## What the live tasks may still do -/

/-- Every live task does only what its label allows. -/
def AllUse (okOp : L → I.Op → Prop) (okReq : L → I.Req → Prop) (c : Pool I σ L) : Prop :=
  ∀ p ∈ c.tasks, p.2.Uses (okOp p.1) (okReq p.1)

section Uses
variable {okOp : L → I.Op → Prop} {okReq : L → I.Req → Prop}

theorem AllUse.set {c : Pool I σ L} {s : σ} {i : Nat} {l : L} {t : Task I Unit}
    (h : AllUse okOp okReq c) (ht : t.Uses (okOp l) (okReq l)) :
    AllUse okOp okReq ⟨s, c.tasks.set i (l, t)⟩ := by
  intro p hp
  rcases List.mem_or_eq_of_mem_set hp with hp | rfl
  · exact h p hp
  · exact ht

theorem AllUse.at {c : Pool I σ L} {i : Nat} {l : L} {t : Task I Unit}
    (h : AllUse okOp okReq c) (ht : c.tasks[i]? = some (l, t)) : t.Uses (okOp l) (okReq l) :=
  h (l, t) (List.mem_of_getElem? ht)

variable (M) in
/-- The programs bound what the tasks of a run do. -/
theorem AllUse.step (hprog : ∀ l, (M.program l).Uses (okOp l) (okReq l)) {c c' : Pool I σ L}
    {ch : Choice I L D} (h : AllUse okOp okReq c) (hs : M.step ch c = some c') :
    AllUse okOp okReq c' := by
  rcases M.step_cases hs with ⟨l, rfl, -, rfl⟩ | ⟨i, l, t, rfl, ht, rfl⟩ |
    ⟨i, l, q, k, rfl, ht, rfl⟩ | ⟨i, l, q, k, e, rfl, ht, rfl⟩ | ⟨d, rfl, rfl⟩ | ⟨rfl, rfl⟩
  · intro p hp
    rcases List.mem_append.mp hp with hp | hp
    · exact h p hp
    · rw [List.mem_singleton.mp hp]
      exact hprog l
  · exact h.set ((h.at ht).advance M.host)
  · exact h.set ((h.at ht).2 _)
  · exact h.set ((h.at ht).2 _)
  · exact h
  · intro p hp
    rw [List.mem_singleton.mp hp]
    exact hprog _

theorem Run.allUse (hprog : ∀ l, (M.program l).Uses (okOp l) (okReq l)) {c c' : Pool I σ L}
    (h : M.Run G c c') (h0 : AllUse okOp okReq c) : AllUse okOp okReq c' :=
  h.invariant (fun _ _ _ hc _ hs => AllUse.step M hprog hc hs) h0

theorem AllUse.init (hprog : ∀ l, (M.program l).Uses (okOp l) (okReq l)) (s : σ) :
    AllUse okOp okReq (M.init s) := by
  intro p hp
  rw [List.mem_singleton.mp hp]
  exact hprog _

/-- A served request is one its label allows. -/
theorem AllUse.served {c : Pool I σ L} {ch : Choice I L D} {l : L} {q : I.Req}
    (h : AllUse okOp okReq c) (hs : ch.served c = some (l, q)) : okReq l q := by
  cases ch with
  | serve i =>
    simp only [Choice.served] at hs
    split at hs
    · rename_i l' q' k ht
      cases hs
      exact (h.at ht).1
    · cases hs
  | _ => cases hs

end Uses

/-! ## Replaying a run -/

instance (c : Pool I σ L) (ch : Choice I L D) : Decidable (Free c ch) := .isTrue trivial

section Replay
variable [∀ c ch, Decidable (G c ch)]

variable (M G) in
/-- Make the choices in order, as long as they apply and meet the guard. -/
def replay : List (Choice I L D) → Pool I σ L → Option (Pool I σ L)
  | [], c => some c
  | ch :: chs, c => if G c ch then (M.step ch c).bind (replay chs) else none

theorem replay_run {chs : List (Choice I L D)} : ∀ {c c' : Pool I σ L},
    M.replay G chs c = some c' → M.Run G c c' := by
  induction chs with
  | nil =>
    intro c c' h
    cases Option.some.inj h
    exact .refl c
  | cons ch chs ih =>
    intro c c' h
    rw [replay] at h
    split at h
    · rename_i hg
      obtain ⟨c₁, hs, hr⟩ := Option.bind_eq_some_iff.mp h
      exact (Run.step ch (.refl c) hg hs).trans (ih hr)
    · cases h

/-- A replay that ends in a state with a decidable property gives a run that
reaches such a state. -/
theorem exists_run_of_replay (chs : List (Choice I L D)) {c : Pool I σ L} (p : σ → Bool)
    (h : (M.replay G chs c).map (fun c' => p c'.state) = some true) :
    ∃ c', M.Run G c c' ∧ p c'.state = true := by
  obtain ⟨c', hr, hp⟩ := Option.map_eq_some_iff.mp h
  exact ⟨c', replay_run hr, hp⟩

/-- The same for a property of one more step. -/
theorem exists_step_of_replay (chs : List (Choice I L D)) (ch : Choice I L D) {c : Pool I σ L}
    (p : σ → σ → Bool)
    (h : ((M.replay G chs c).bind fun c₁ => (M.step ch c₁).map fun c₂ => p c₁.state c₂.state) =
      some true) :
    ∃ c₁ c₂, M.Run G c c₁ ∧ M.step ch c₁ = some c₂ ∧ p c₁.state c₂.state = true := by
  obtain ⟨c₁, hr, h⟩ := Option.bind_eq_some_iff.mp h
  obtain ⟨c₂, hs, hp⟩ := Option.map_eq_some_iff.mp h
  exact ⟨c₁, c₂, replay_run hr, hs, hp⟩

end Replay

end Machine
end Async
