import ProviderPlatform.Async.Ownership

/-! # Observed runs

An observer keeps a value beside the state of a run: it sees which label runs
which operation and has which request served, and that the process crashed. It
changes nothing of what a run can do, and invariants may speak of what it keeps. -/
namespace Async

/-- What is kept of the operations, the served requests and the crashes. -/
structure Observer (I : Interface) (σ L μ : Type) where
  onOp : L → σ → I.Op → μ → μ
  onServe : L → σ → I.Req → μ → μ
  onCrash : μ → μ

variable {I : Interface} {σ L D μ R : Type}

/-- The host as the tasks of one label see it, with what is kept. -/
def Host.observe (H : Host I σ) (O : Observer I σ L μ) (l : L) : Host I (σ × μ) where
  runOp o p := ((H.runOp o p.1).1, (H.runOp o p.1).2, O.onOp l p.1 o p.2)
  serve q p := ((H.serve q p.1).1, (H.serve q p.1).2, O.onServe l p.1 q p.2)
  pass n p := (H.pass n p.1, p.2)

section Advance
variable {α : Type} (H : Host I σ) (O : Observer I σ L μ) (l : L)

theorem advance_observe (t : Task I α) : ∀ s m,
    (t.advance (H.observe O l) (s, m)).1 = (t.advance H s).1 ∧
      (t.advance (H.observe O l) (s, m)).2.1 = (t.advance H s).2 := by
  induction t with
  | done r => exact fun s m => ⟨rfl, rfl⟩
  | sync o k ih => exact fun s m => ih _ _ _
  | await q k => exact fun s m => ⟨rfl, rfl⟩

theorem opsRun_observe (t : Task I α) : ∀ s m,
    (t.opsRun (H.observe O l) (s, m)).map (fun p => (p.1.1, p.2)) = t.opsRun H s := by
  induction t with
  | done r => exact fun s m => rfl
  | sync o k ih => exact fun s m => congrArg _ (ih _ _ _)
  | await q k => exact fun s m => rfl

end Advance

/-- What is kept after a choice. -/
def Observer.after (O : Observer I σ L μ) (H : Host I σ) (c : Pool I σ L) :
    Choice I L D → μ → μ
  | .resume i, m =>
    match c.tasks[i]? with
    | some (l, t) => (t.advance (H.observe O l) (c.state, m)).2.2
    | none => m
  | .serve i, m =>
    match c.tasks[i]? with
    | some (l, .await q _) => O.onServe l c.state q m
    | _ => m
  | .crash, m => O.onCrash m
  | _, m => m

namespace Machine
variable (M : Machine I σ L D) (O : Observer I σ L μ) (G : Pool I σ L → Choice I L D → Prop)

/-- A run with what the observer keeps of it. -/
inductive Observed (c₀ : Pool I σ L) (m₀ : μ) : Pool I σ L → μ → Prop
  | refl : Observed c₀ m₀ c₀ m₀
  | step {c c' : Pool I σ L} {m : μ} (ch : Choice I L D) :
      Observed c₀ m₀ c m → G c ch → M.step ch c = some c' →
      Observed c₀ m₀ c' (O.after M.host c ch m)

variable {M O G} {c₀ c : Pool I σ L} {m₀ m : μ}

/-- An observed run is a run. -/
theorem Observed.run (h : M.Observed O G c₀ m₀ c m) : M.Run G c₀ c := by
  induction h with
  | refl => exact .refl _
  | step ch _ hg hs ih => exact .step ch ih hg hs

/-- Every run can be observed. -/
theorem Run.observed (O : Observer I σ L μ) (m₀ : μ) (h : M.Run G c₀ c) :
    ∃ m, M.Observed O G c₀ m₀ c m := by
  induction h with
  | refl => exact ⟨m₀, .refl⟩
  | step ch _ hg hs ih =>
    obtain ⟨m, hm⟩ := ih
    exact ⟨_, .step ch hm hg hs⟩

theorem Observed.mono {G' : Pool I σ L → Choice I L D → Prop} (hG : ∀ c ch, G c ch → G' c ch)
    (h : M.Observed O G c₀ m₀ c m) : M.Observed O G' c₀ m₀ c m := by
  induction h with
  | refl => exact .refl
  | step ch _ hg hs ih => exact .step ch ih (hG _ _ hg) hs

theorem Observed.trans {c' : Pool I σ L} {m' : μ} (h : M.Observed O G c₀ m₀ c m)
    (h' : M.Observed O G c m c' m') : M.Observed O G c₀ m₀ c' m' := by
  induction h' with
  | refl => exact h
  | step ch _ hg hs ih => exact .step ch ih hg hs

/-- What no operation and no request takes back is kept until a crash. -/
theorem Observed.keeps {P : μ → Prop} (hop : ∀ l s o m, P m → P (O.onOp l s o m))
    (hserve : ∀ l s q m, P m → P (O.onServe l s q m)) (hG : ∀ c, ¬ G c .crash) (h0 : P m₀)
    (h : M.Observed O G c₀ m₀ c m) : P m := by
  induction h with
  | refl => exact h0
  | @step c c' m ch _ hg _ ih =>
    cases ch with
    | resume i =>
      simp only [Observer.after]
      split
      · exact Task.advance_keeps _ (P := fun p : σ × μ => P p.2) (g := fun _ _ => True)
          (fun p o hp _ => hop _ p.1 o p.2 hp) _ _ ih fun _ _ => trivial
      · exact ih
    | serve i =>
      simp only [Observer.after]
      split
      · exact hserve _ _ _ _ ih
      · exact ih
    | crash => exact absurd hg (hG c)
    | start l => exact ih
    | reject i e => exact ih
    | drift d => exact ih

/-- What every operation, request, drift and crash keeps of the state and of what
is kept beside it holds throughout: the programs of the tasks do not matter. -/
theorem Observed.state_invariant {P : σ × μ → Prop}
    (hop : ∀ l s o m, P (s, m) → P ((M.host.runOp o s).2, O.onOp l s o m))
    (hserve : ∀ l s q m, P (s, m) → P ((M.host.serve q s).2, O.onServe l s q m))
    (hdrift : ∀ d s m, P (s, m) → P (M.drift d s, m))
    (hcrash : ∀ s m, P (s, m) → P (M.reboot s, O.onCrash m)) (h0 : P (c₀.state, m₀))
    (h : M.Observed O G c₀ m₀ c m) : P (c.state, m) := by
  induction h with
  | refl => exact h0
  | @step c c' m ch _ hg hs ih =>
    rcases M.step_cases hs with ⟨l, rfl, -, rfl⟩ | ⟨i, l, t, rfl, ht, rfl⟩ |
      ⟨i, l, q, k, rfl, ht, rfl⟩ | ⟨i, l, q, k, e, rfl, ht, rfl⟩ | ⟨d, rfl, rfl⟩ | ⟨rfl, rfl⟩
    · exact ih
    · have hadvanced := Task.advance_keeps (M.host.observe O l) (P := P) (g := fun _ _ => True)
        (fun p o hp _ => hop l p.1 o p.2 hp) t (c.state, m) ih fun _ _ => trivial
      obtain ⟨-, hstate⟩ := advance_observe M.host O l t c.state m
      simp only [Observer.after, ht]
      rw [← hstate]
      exact hadvanced
    · simp only [Observer.after, ht]
      exact hserve l _ q m ih
    · exact ih
    · exact hdrift d _ m ih
    · exact hcrash _ m ih

/-- What holds throughout can be added to the guard. -/
theorem Observed.strengthen {P : Pool I σ L → Prop}
    (hstep : ∀ c ch c', P c → G c ch → M.step ch c = some c' → P c') (h0 : P c₀)
    (h : M.Observed O G c₀ m₀ c m) : M.Observed O (fun c ch => G c ch ∧ P c) c₀ m₀ c m := by
  induction h with
  | refl => exact .refl
  | step ch hr hg hs ih => exact .step ch ih ⟨hg, hr.run.invariant hstep h0⟩ hs

/-! ## Ownership in observed runs -/

variable [AddCommMonoid R]

/-- As `Respects`, for disciplines that also speak of what is kept. -/
structure RespectsObserved (M : Machine I σ L D) (K : L → Discipline I (σ × μ) R)
    (O : Observer I σ L μ) (G : Pool I σ L → Choice I L D → Prop) : Prop where
  run : ∀ c m i l t, G c (.resume i) → c.tasks[i]? = some (l, t) →
    ∀ p ∈ t.opsRun (M.host.observe O l) (c.state, m), (K l).mayRun p.1 p.2
  serve : ∀ c m i l q k, G c (.serve i) → c.tasks[i]? = some (l, .await q k) →
    (K l).mayServe (c.state, m) q
  reject : ∀ c m i e l q k, G c (.reject i e) → c.tasks[i]? = some (l, .await q k) →
    (K l).mayReject (c.state, m) q

/-- **Soundness of ownership in observed runs.** -/
theorem Observed.shares {K : L → Discipline I (σ × μ) R} {inv : σ × μ → R → Prop}
    {post : L → Except I.Err Unit → R → Prop} {r₀ : R} (hinv : ∀ l, (K l).inv = inv)
    (hboot : Task.Triple (M.host.observe O M.boot) (K M.boot) r₀ (M.program M.boot) (post M.boot))
    (hprog : ∀ s l, M.startable s l = true →
      Task.Triple (M.host.observe O l) (K l) 0 (M.program l) (post l))
    (hG : M.RespectsObserved K O G)
    (hdrift : ∀ c m d r, G c (.drift d) → inv (c.state, m) r → inv (M.drift d c.state, m) r)
    (hcrash : ∀ c m r, G c .crash → inv (c.state, m) r → inv (M.reboot c.state, O.onCrash m) r₀)
    (h0 : Shares (M.host.observe O) K inv post (c₀.state, m₀) c₀.tasks)
    (h : M.Observed O G c₀ m₀ c m) :
    Shares (M.host.observe O) K inv post (c.state, m) c.tasks := by
  induction h with
  | refl => exact h0
  | @step c c' m ch hr hg hs ih =>
    rcases M.step_cases hs with ⟨l, rfl, hstart, rfl⟩ | ⟨i, l, t, rfl, ht, rfl⟩ |
      ⟨i, l, q, k, rfl, ht, rfl⟩ | ⟨i, l, q, k, e, rfl, ht, rfl⟩ | ⟨d, rfl, rfl⟩ | ⟨rfl, rfl⟩
    · exact ih.start (hprog _ _ hstart)
    · have hkept := ih.resume hinv ht (hG.run _ _ _ _ _ hg ht)
      obtain ⟨htask, hstate⟩ := advance_observe M.host O l t c.state m
      simp only [Observer.after, ht]
      rw [htask] at hkept
      rw [← hstate]
      exact hkept
    · have hkept := ih.serve hinv ht (hG.serve _ _ _ _ _ _ hg ht)
      simp only [Observer.after, ht]
      exact hkept
    · exact ih.reject hinv ht (hG.reject _ _ _ e _ _ _ hg ht) e
    · exact ih.state fun r => hdrift _ _ _ r hg
    · obtain ⟨r, hr⟩ := ih.holds
      exact shares_single hboot (hcrash _ _ _ hg hr)

/-! ## Replaying an observed run -/

section Replay
variable [∀ c ch, Decidable (G c ch)]

variable (M O G) in
/-- Make the choices in order and keep what the observer keeps. -/
def watch : List (Choice I L D) → Pool I σ L → μ → Option (Pool I σ L × μ)
  | [], c, m => some (c, m)
  | ch :: chs, c, m =>
    if G c ch then (M.step ch c).bind fun c' => watch chs c' (O.after M.host c ch m) else none

omit [AddCommMonoid R] in
theorem watch_observed {chs : List (Choice I L D)} : ∀ {c c' : Pool I σ L} {m m' : μ},
    M.Observed O G c₀ m₀ c m → M.watch O G chs c m = some (c', m') →
      M.Observed O G c₀ m₀ c' m' := by
  induction chs with
  | nil =>
    intro c c' m m' h hw
    cases hw
    exact h
  | cons ch chs ih =>
    intro c c' m m' h hw
    rw [watch] at hw
    split at hw
    · rename_i hg
      obtain ⟨c₁, hs, hrest⟩ := Option.bind_eq_some_iff.mp hw
      exact ih (.step ch h hg hs) hrest
    · cases hw

omit [AddCommMonoid R] in
/-- A replay that ends with a decidable property gives an observed run to it. -/
theorem exists_observed (chs : List (Choice I L D)) (p : σ → μ → Bool)
    (h : (M.watch O G chs c₀ m₀).map (fun r => p r.1.state r.2) = some true) :
    ∃ c m, M.Observed O G c₀ m₀ c m ∧ p c.state m = true := by
  obtain ⟨⟨c, m⟩, hw, hp⟩ := Option.map_eq_some_iff.mp h
  exact ⟨c, m, watch_observed .refl hw, hp⟩

end Replay

end Machine
end Async
