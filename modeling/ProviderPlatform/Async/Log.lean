import ProviderPlatform.Async.Observer
import ProviderPlatform.Async.Trace

/-! # The log of a task among others

`trace` lists the steps of a task that runs alone. Among other tasks the state
may be any at each step; `Reaches` says which logs a task can have then, and
`Logged` is a triple over logs. A pool records the log of every task, and each
is one its program can have. -/
namespace Async

namespace Task
variable {I : Interface} {σ α β : Type} (H : Host I σ)

/-- The task `t` has made the steps of the log and is `t'` now. -/
inductive Reaches (t : Task I α) : List (Step I σ) → Task I α → Prop
  | refl : Reaches t [] t
  | ran {log : List (Step I σ)} {o : I.Op} {k : I.Out o → Task I α} (s : σ) :
      Reaches t log (.sync o k) → Reaches t (log ++ [.ran s o]) (k (H.runOp o s).1)
  | served {log : List (Step I σ)} {q : I.Req} {k : Except I.Err (I.Ans q) → Task I α} (s : σ) :
      Reaches t log (.await q k) → Reaches t (log ++ [.served s q]) (k (H.serve q s).1)
  | rejected {log : List (Step I σ)} {q : I.Req} {k : Except I.Err (I.Ans q) → Task I α} (s : σ)
      (e : I.Err) :
      Reaches t log (.await q k) → Reaches t (log ++ [.rejected s q e]) (k (.error e))

variable {H} in
/-- What a task does, the rest of it does. -/
theorem Uses.reaches {okOp : I.Op → Prop} {okReq : I.Req → Prop} {t t' : Task I α}
    {log : List (Step I σ)} (ht : t.Uses okOp okReq) (h : t.Reaches H log t') :
    t'.Uses okOp okReq := by
  induction h with
  | refl => exact ht
  | ran s _ ih => exact ih.2 _
  | served s _ ih => exact ih.2 _
  | rejected s e _ ih => exact ih.2 _

variable (A : List (Step I σ) → Prop) (S : List (Step I σ) → Step I σ → Prop)

/-- From a log on, as long as the log meets `A`, each step is as `S` asks of
the log before it, and the task ends as `B` says. -/
def Along : Task I α → (Except I.Err α → List (Step I σ) → Prop) → List (Step I σ) → Prop
  | .done r, B, log => B r log
  | .sync o k, B, log => ∀ s, A (log ++ [.ran s o]) →
      S log (.ran s o) ∧ (k (H.runOp o s).1).Along B (log ++ [.ran s o])
  | .await q k, B, log =>
      (∀ s, A (log ++ [.served s q]) →
        S log (.served s q) ∧ (k (H.serve q s).1).Along B (log ++ [.served s q])) ∧
      ∀ s e, A (log ++ [.rejected s q e]) →
        S log (.rejected s q e) ∧ (k (.error e)).Along B (log ++ [.rejected s q e])

theorem Along.mono {t : Task I α} {B C : Except I.Err α → List (Step I σ) → Prop}
    (hB : ∀ r log, B r log → C r log) : ∀ {log}, t.Along H A S B log → t.Along H A S C log := by
  induction t with
  | done r => exact hB _ _
  | sync o k ih =>
    intro log h s hA
    obtain ⟨hstep, hrest⟩ := h s hA
    exact ⟨hstep, ih _ hrest⟩
  | await q k ih =>
    rintro log ⟨hserve, hreject⟩
    constructor
    · intro s hA
      obtain ⟨hstep, hrest⟩ := hserve s hA
      exact ⟨hstep, ih _ hrest⟩
    · intro s e hA
      obtain ⟨hstep, hrest⟩ := hreject s e hA
      exact ⟨hstep, ih _ hrest⟩

theorem Along.settle {t : Task I α} {k : Except I.Err α → Task I β}
    {C : Except I.Err β → List (Step I σ) → Prop} :
    ∀ {log}, t.Along H A S (fun r log' => (k r).Along H A S C log') log →
      (t.settle k).Along H A S C log := by
  induction t with
  | done r => exact id
  | sync o k' ih =>
    intro log h s hA
    obtain ⟨hstep, hrest⟩ := h s hA
    exact ⟨hstep, ih _ hrest⟩
  | await q k' ih =>
    rintro log ⟨hserve, hreject⟩
    constructor
    · intro s hA
      obtain ⟨hstep, hrest⟩ := hserve s hA
      exact ⟨hstep, ih _ hrest⟩
    · intro s e hA
      obtain ⟨hstep, hrest⟩ := hreject s e hA
      exact ⟨hstep, ih _ hrest⟩

/-- From a log with `P` the steps are as `S` asks and the task ends with `B`. -/
def Logged (P : List (Step I σ) → Prop) (t : Task I α)
    (B : Except I.Err α → List (Step I σ) → Prop) : Prop :=
  ∀ log, P log → t.Along H A S B log

variable {H A S}
variable {P : List (Step I σ) → Prop} {B : Except I.Err α → List (Step I σ) → Prop}
  {C : Except I.Err β → List (Step I σ) → Prop}

theorem Logged.mono {t : Task I α} {P' : List (Step I σ) → Prop}
    {B' : Except I.Err α → List (Step I σ) → Prop} (h : Logged H A S P t B)
    (hP : ∀ log, P' log → P log) (hB : ∀ r log, B r log → B' r log) : Logged H A S P' t B' :=
  fun log hlog => (h log (hP log hlog)).mono H A S hB

theorem Logged.done {r : Except I.Err α} (h : ∀ log, P log → B r log) :
    Logged H A S P (.done r) B := h

theorem Logged.pure {a : α} (h : ∀ log, P log → B (.ok a) log) :
    Logged H A S P (Pure.pure a) B := h

theorem Logged.settle {t : Task I α} {k : Except I.Err α → Task I β} (ht : Logged H A S P t B)
    (hk : ∀ r, Logged H A S (B r) (k r) C) : Logged H A S P (t.settle k) C := by
  intro log hlog
  apply Along.settle
  exact (ht log hlog).mono H A S fun r log' => hk r log'

theorem Logged.bind {t : Task I α} {k : α → Task I β} (ht : Logged H A S P t B)
    (hk : ∀ a, Logged H A S (B (.ok a)) (k a) C)
    (herr : ∀ e log, B (.error e) log → C (.error e) log) : Logged H A S P (t >>= k) C := by
  apply ht.settle
  intro r
  cases r with
  | ok a => exact hk a
  | error e => exact .done (herr e)

theorem Logged.recover {t : Task I α} {h : I.Err → Task I α}
    {B' : Except I.Err α → List (Step I σ) → Prop} (ht : Logged H A S P t B)
    (hok : ∀ a log, B (.ok a) log → B' (.ok a) log)
    (hh : ∀ e, Logged H A S (B (.error e)) (h e) B') : Logged H A S P (t.recover h) B' := by
  apply ht.settle
  intro r
  cases r with
  | ok a => exact .done (hok a)
  | error e => exact hh e

theorem Logged.op {o : I.Op} {B : Except I.Err (I.Out o) → List (Step I σ) → Prop}
    (h : ∀ log s, P log → A (log ++ [.ran s o]) →
      S log (.ran s o) ∧ B (.ok (H.runOp o s).1) (log ++ [.ran s o])) :
    Logged H A S P (Task.op o) B :=
  fun log hlog s hA => h log s hlog hA

theorem Logged.call {q : I.Req} {B : Except I.Err (I.Ans q) → List (Step I σ) → Prop}
    (hserve : ∀ log s, P log → A (log ++ [.served s q]) →
      S log (.served s q) ∧ B (H.serve q s).1 (log ++ [.served s q]))
    (hreject : ∀ log s e, P log → A (log ++ [.rejected s q e]) →
      S log (.rejected s q e) ∧ B (.error e) (log ++ [.rejected s q e])) :
    Logged H A S P (Task.call q) B := by
  intro log hlog
  constructor
  · exact fun s hA => hserve log s hlog hA
  · exact fun s e hA => hreject log s e hlog hA

/-- What a longer log keeps, and steps that are as asked after it. -/
theorem Logged.of_uses {okOp : I.Op → Prop} {okReq : I.Req → Prop}
    (hP : ∀ log st, P log → P (log ++ [st])) (ho : ∀ log s o, okOp o → P log → S log (.ran s o))
    (hserve : ∀ log s q, okReq q → P log → S log (.served s q))
    (hreject : ∀ log s q e, okReq q → P log → S log (.rejected s q e)) {t : Task I α}
    (ht : t.Uses okOp okReq) : Logged H A S P t fun _ => P := by
  induction t with
  | done r => exact fun log hlog => hlog
  | sync o k ih =>
    intro log hlog s _
    exact ⟨ho log s o ht.1 hlog, ih _ (ht.2 _) _ (hP log _ hlog)⟩
  | await q k ih =>
    intro log hlog
    constructor
    · intro s _
      exact ⟨hserve log s q ht.1 hlog, ih _ (ht.2 _) _ (hP log _ hlog)⟩
    · intro s e _
      exact ⟨hreject log s q e ht.1 hlog, ih _ (ht.2 _) _ (hP log _ hlog)⟩

/-- Steps that are as asked, and keep what holds of the log. -/
theorem Logged.of_steps {okOp : I.Op → Prop} {okReq : I.Req → Prop}
    (hop : ∀ log s o, okOp o → P log → S log (.ran s o) ∧ P (log ++ [.ran s o]))
    (hserve : ∀ log s q, okReq q → P log → S log (.served s q) ∧ P (log ++ [.served s q]))
    (hreject : ∀ log s q e, okReq q → P log →
      S log (.rejected s q e) ∧ P (log ++ [.rejected s q e]))
    {t : Task I α} (ht : t.Uses okOp okReq) : Logged H A S P t fun _ => P := by
  induction t with
  | done r => exact fun log hlog => hlog
  | sync o k ih =>
    intro log hlog s _
    obtain ⟨hstep, hnext⟩ := hop log s o ht.1 hlog
    exact ⟨hstep, ih _ (ht.2 _) _ hnext⟩
  | await q k ih =>
    intro log hlog
    constructor
    · intro s _
      obtain ⟨hstep, hnext⟩ := hserve log s q ht.1 hlog
      exact ⟨hstep, ih _ (ht.2 _) _ hnext⟩
    · intro s e _
      obtain ⟨hstep, hnext⟩ := hreject log s q e ht.1 hlog
      exact ⟨hstep, ih _ (ht.2 _) _ hnext⟩

/-- What a longer log keeps is kept. -/
theorem Logged.frame {F : List (Step I σ) → Prop} (hF : ∀ log st, F log → F (log ++ [st]))
    {t : Task I α} (ht : Logged H A S P t B) :
    Logged H A S (fun log => F log ∧ P log) t fun r log => F log ∧ B r log := by
  rintro log ⟨hlog, hp⟩
  have halong := ht log hp
  clear ht hp
  induction t generalizing log with
  | done r => exact ⟨hlog, halong⟩
  | sync o k ih =>
    intro s hA
    obtain ⟨hstep, hrest⟩ := halong s hA
    exact ⟨hstep, ih _ _ (hF log _ hlog) hrest⟩
  | await q k ih =>
    constructor
    · intro s hA
      obtain ⟨hstep, hrest⟩ := halong.1 s hA
      exact ⟨hstep, ih _ _ (hF log _ hlog) hrest⟩
    · intro s e hA
      obtain ⟨hstep, hrest⟩ := halong.2 s e hA
      exact ⟨hstep, ih _ _ (hF log _ hlog) hrest⟩

theorem Logged.forEach {f : β → Task I Unit} {xs : List β}
    (h : ∀ x ∈ xs, Logged H A S P (f x) fun _ => P) :
    Logged H A S P (Task.forEach f xs) fun _ => P := by
  induction xs with
  | nil => exact .pure fun _ hlog => hlog
  | cons x xs ih =>
    obtain ⟨hx, hxs⟩ := List.forall_mem_cons.mp h
    exact hx.bind (fun _ => ih hxs) fun _ _ hlog => hlog

/-! ## Soundness -/

/-- Every step of the log is as `S` asks of what came before it. -/
def Meets (S : List (Step I σ) → Step I σ → Prop) (log : List (Step I σ)) : Prop :=
  ∀ before st after, log = before ++ st :: after → S before st

theorem meets_snoc {log : List (Step I σ)} {st : Step I σ} (h : Meets S log) (hst : S log st) :
    Meets S (log ++ [st]) := by
  intro before st' after heq
  rcases List.eq_nil_or_concat after with rfl | ⟨after, last, rfl⟩
  · obtain ⟨rfl, hone⟩ := List.append_inj' heq rfl
    cases hone
    exact hst
  · rw [List.concat_eq_append, ← List.cons_append, ← List.append_assoc] at heq
    obtain ⟨hlog, -⟩ := List.append_inj' heq rfl
    exact h before st' after hlog

/-- **A triple speaks for every log.** -/
theorem Logged.meets (hinit : ∀ log st, A (log ++ [st]) → A log) {t t' : Task I α}
    {log : List (Step I σ)} (ht : Logged H A S (· = []) t B) (h : Reaches H t log t') (hA : A log) :
    Meets S log ∧ t'.Along H A S B log := by
  induction h with
  | refl =>
    constructor
    · intro before st after heq
      cases before <;> cases heq
    · exact ht [] rfl
  | ran s _ ih =>
    obtain ⟨hmeets, halong⟩ := ih (hinit _ _ hA)
    obtain ⟨hstep, hrest⟩ := halong s hA
    exact ⟨meets_snoc hmeets hstep, hrest⟩
  | served s _ ih =>
    obtain ⟨hmeets, halong⟩ := ih (hinit _ _ hA)
    obtain ⟨hstep, hrest⟩ := halong.1 s hA
    exact ⟨meets_snoc hmeets hstep, hrest⟩
  | rejected s e _ ih =>
    obtain ⟨hmeets, halong⟩ := ih (hinit _ _ hA)
    obtain ⟨hstep, hrest⟩ := halong.2 s e hA
    exact ⟨meets_snoc hmeets hstep, hrest⟩

end Task

/-! ## The logs of a pool -/

section Pool
variable {I : Interface} {σ L D : Type}

/-- The logs of the live tasks after a choice. -/
def Choice.log (H : Host I σ) (c : Pool I σ L) :
    Choice I L D → List (List (Step I σ)) → List (List (Step I σ))
  | .start _, logs => logs ++ [[]]
  | .resume i, logs =>
    match c.tasks[i]? with
    | some (_, t) => logs.modify i (· ++ (t.opsRun H c.state).map fun p => .ran p.1 p.2)
    | none => logs
  | .serve i, logs =>
    match c.tasks[i]? with
    | some (_, .await q _) => logs.modify i (· ++ [.served c.state q])
    | _ => logs
  | .reject i e, logs =>
    match c.tasks[i]? with
    | some (_, .await q _) => logs.modify i (· ++ [.rejected c.state q e])
    | _ => logs
  | .drift _, logs => logs
  | .crash, _ => [[]]

namespace Machine
variable (M : Machine I σ L D) (G : Pool I σ L → Choice I L D → Prop)

/-- A run of a process from its start, with the log of each task. -/
inductive Recorded (s : σ) : Pool I σ L → List (List (Step I σ)) → Prop
  | init : Recorded s (M.init s) [[]]
  | step {c c' : Pool I σ L} {logs : List (List (Step I σ))} (ch : Choice I L D) :
      Recorded s c logs → G c ch → M.step ch c = some c' → Recorded s c' (ch.log M.host c logs)

variable {M G}

/-- Every task has a log, and it is one its program can have. -/
def LogsReach (M : Machine I σ L D) (c : Pool I σ L) (logs : List (List (Step I σ))) : Prop :=
  logs.length = c.tasks.length ∧ ∀ (i : Nat) l t log, c.tasks[i]? = some (l, t) →
    logs[i]? = some log → Task.Reaches M.host (M.program l) log t

theorem reaches_opsRun {H : Host I σ} {t₀ : Task I Unit} (t : Task I Unit) : ∀ {log s},
    Task.Reaches H t₀ log t →
      Task.Reaches H t₀ (log ++ (t.opsRun H s).map fun p => .ran p.1 p.2) (t.advance H s).1 := by
  induction t with
  | done r =>
    intro log s h
    simpa [Task.opsRun, Task.advance] using h
  | sync o k ih =>
    intro log s h
    have hrest := ih _ (s := (H.runOp o s).2) (h.ran s)
    rw [List.append_assoc] at hrest
    exact hrest
  | await q k =>
    intro log s h
    simpa [Task.opsRun, Task.advance] using h

theorem LogsReach.modify {c : Pool I σ L} {logs : List (List (Step I σ))} {i : Nat} {l : L}
    {t t' : Task I Unit} {s' : σ} {steps : List (Step I σ)} (h : LogsReach M c logs)
    (ht : c.tasks[i]? = some (l, t))
    (hsteps : ∀ log, Task.Reaches M.host (M.program l) log t →
      Task.Reaches M.host (M.program l) (log ++ steps) t') :
    LogsReach M ⟨s', c.tasks.set i (l, t')⟩ (logs.modify i (· ++ steps)) := by
  obtain ⟨hlen, hall⟩ := h
  constructor
  · simp [hlen]
  · intro j l' t'' log hj hlog
    simp only [List.getElem?_set, List.getElem?_modify] at hj hlog
    by_cases hij : i = j
    · subst hij
      rw [if_pos rfl] at hj
      split at hj
      · cases hj
        obtain ⟨log₀, hlog₀, rfl⟩ := Option.map_eq_some_iff.mp hlog
        simp only [if_true] at *
        exact hsteps log₀ (hall i _ t log₀ ht hlog₀)
      · cases hj
    · rw [if_neg hij] at hj
      obtain ⟨log₀, hlog₀, rfl⟩ := Option.map_eq_some_iff.mp hlog
      simp only [hij, if_false]
      exact hall j l' t'' log₀ hj hlog₀

/-- A task that was just started. -/
theorem logsReach_single {j : Nat} {l l' : L} {t : Task I Unit} {log : List (Step I σ)}
    (hj : [(l, M.program l)][j]? = some (l', t)) (hlog : [[]][j]? = some log) :
    Task.Reaches M.host (M.program l') log t := by
  cases j with
  | zero =>
    cases hj
    cases hlog
    exact .refl
  | succ j => cases hj

theorem logsReach_step {c c' : Pool I σ L} {logs : List (List (Step I σ))} {ch : Choice I L D}
    (h : LogsReach M c logs) (hs : M.step ch c = some c') :
    LogsReach M c' (ch.log M.host c logs) := by
  rcases M.step_cases hs with ⟨l, rfl, -, rfl⟩ | ⟨i, l, t, rfl, ht, rfl⟩ |
    ⟨i, l, q, k, rfl, ht, rfl⟩ | ⟨i, l, q, k, e, rfl, ht, rfl⟩ | ⟨d, rfl, rfl⟩ | ⟨rfl, rfl⟩
  · obtain ⟨hlen, hall⟩ := h
    constructor
    · simp [Choice.log, hlen]
    · intro j l' t' log hj hlog
      simp only [Choice.log] at hlog
      by_cases hin : j < c.tasks.length
      · rw [List.getElem?_append_left hin] at hj
        rw [List.getElem?_append_left (hlen ▸ hin)] at hlog
        exact hall j l' t' log hj hlog
      · rw [List.getElem?_append_right (Nat.not_lt.mp hin)] at hj
        rw [List.getElem?_append_right (hlen ▸ Nat.not_lt.mp hin), hlen] at hlog
        exact logsReach_single hj hlog
  · simp only [Choice.log, ht]
    exact h.modify ht fun log hlog => reaches_opsRun t hlog
  · simp only [Choice.log, ht]
    exact h.modify ht fun log hlog => hlog.served c.state
  · simp only [Choice.log, ht]
    exact h.modify ht fun log hlog => hlog.rejected c.state e
  · exact h
  · constructor
    · rfl
    · exact fun j l t log hj hlog => logsReach_single hj hlog

theorem Recorded.reach {s : σ} {c : Pool I σ L} {logs : List (List (Step I σ))}
    (h : M.Recorded G s c logs) : LogsReach M c logs := by
  induction h with
  | init =>
    constructor
    · rfl
    · exact fun j l t log hj hlog => logsReach_single hj hlog
  | step ch _ _ hs ih => exact logsReach_step ih hs

/-- **What a triple says of a program holds of its tasks in every run.** -/
theorem Recorded.meets {A : List (Step I σ) → Prop} {S : List (Step I σ) → Step I σ → Prop}
    {B : Except I.Err Unit → List (Step I σ) → Prop} {s : σ} {c : Pool I σ L}
    {logs : List (List (Step I σ))} {i : Nat} {l : L} {t : Task I Unit} {log : List (Step I σ)}
    (h : M.Recorded G s c logs) (hinit : ∀ log st, A (log ++ [st]) → A log)
    (hl : Task.Logged M.host A S (· = []) (M.program l) B) (ht : c.tasks[i]? = some (l, t))
    (hlog : logs[i]? = some log) (hA : A log) : Task.Meets S log :=
  (hl.meets hinit (h.reach.2 i l t log ht hlog) hA).1

/-! ## The steps in the logs -/

/-- The log of task `i`, whose label is `l`, has the step. -/
def InLog (c : Pool I σ L) (logs : List (List (Step I σ))) (i : Nat) (l : L) (st : Step I σ) :
    Prop :=
  ∃ t log, c.tasks[i]? = some (l, t) ∧ logs[i]? = some log ∧ st ∈ log

/-- The choice lets task `i` make the step. -/
def Makes (H : Host I σ) (c : Pool I σ L) (i : Nat) (l : L) (st : Step I σ) : Choice I L D → Prop
  | .resume j => i = j ∧ ∃ t, c.tasks[j]? = some (l, t) ∧
      ∃ p ∈ t.opsRun H c.state, .ran p.1 p.2 = st
  | .serve j => i = j ∧ ∃ q k, c.tasks[j]? = some (l, .await q k) ∧ st = .served c.state q
  | .reject j e => i = j ∧ ∃ q k, c.tasks[j]? = some (l, .await q k) ∧ st = .rejected c.state q e
  | _ => False

section InLog
variable {s : σ} {c c' : Pool I σ L} {logs : List (List (Step I σ))} {i j : Nat} {l l' : L}
  {st : Step I σ}

theorem inLog_single {t : Task I Unit} : ¬ InLog ⟨s, [(l, t)]⟩ [[]] j l' st := by
  rintro ⟨t', log, -, hlog, hst⟩
  cases j with
  | zero =>
    cases hlog
    cases hst
  | succ j => cases hlog

theorem inLog_start {t : Task I Unit} (hlen : logs.length = c.tasks.length) :
    InLog ⟨c.state, c.tasks ++ [(l, t)]⟩ (logs ++ [[]]) j l' st ↔ InLog c logs j l' st := by
  constructor
  · rintro ⟨t', log, ht, hlog, hst⟩
    by_cases hin : j < c.tasks.length
    · rw [List.getElem?_append_left hin] at ht
      rw [List.getElem?_append_left (hlen ▸ hin)] at hlog
      exact ⟨t', log, ht, hlog, hst⟩
    · rw [List.getElem?_append_right (Nat.not_lt.mp hin)] at ht
      rw [List.getElem?_append_right (hlen ▸ Nat.not_lt.mp hin), hlen] at hlog
      exact absurd ⟨t', log, ht, hlog, hst⟩ (inLog_single (s := c.state))
  · rintro ⟨t', log, ht, hlog, hst⟩
    have hin : j < c.tasks.length := (List.getElem?_eq_some_iff.mp ht).1
    refine ⟨t', log, ?_, ?_, hst⟩
    · rwa [List.getElem?_append_left hin]
    · rwa [List.getElem?_append_left (hlen ▸ hin)]

/-- Task `i` makes some steps. -/
theorem inLog_modify {t t' : Task I Unit} {steps : List (Step I σ)}
    (hlen : logs.length = c.tasks.length) (ht : c.tasks[i]? = some (l, t)) :
    InLog ⟨s, c.tasks.set i (l, t')⟩ (logs.modify i (· ++ steps)) j l' st ↔
      InLog c logs j l' st ∨ j = i ∧ l = l' ∧ st ∈ steps := by
  obtain ⟨hin, hget⟩ := List.getElem?_eq_some_iff.mp ht
  obtain ⟨log, hlog⟩ : ∃ log, logs[i]? = some log := ⟨_, List.getElem?_eq_getElem (hlen ▸ hin)⟩
  by_cases hij : i = j
  · subst hij
    have hlog' : (logs.modify i (· ++ steps))[i]? = some (log ++ steps) := by simp [hlog]
    have ht' : (c.tasks.set i (l, t'))[i]? = some (l, t') := by simp [hin]
    constructor
    · rintro ⟨t'', log'', ht'', hlog'', hst⟩
      cases ht'.symm.trans ht''
      cases hlog'.symm.trans hlog''
      rcases List.mem_append.mp hst with hst | hst
      · exact .inl ⟨t, log, ht, hlog, hst⟩
      · exact .inr ⟨rfl, rfl, hst⟩
    · rintro (⟨t'', log'', ht'', hlog'', hst⟩ | ⟨-, rfl, hst⟩)
      · cases ht.symm.trans ht''
        cases hlog.symm.trans hlog''
        exact ⟨t', _, ht', hlog', List.mem_append_left _ hst⟩
      · exact ⟨t', _, ht', hlog', List.mem_append_right _ hst⟩
  · have hlog' : (logs.modify i (· ++ steps))[j]? = logs[j]? := by simp [hij]
    have ht' : (c.tasks.set i (l, t'))[j]? = c.tasks[j]? := List.getElem?_set_ne hij
    simp only [InLog, hlog', ht']
    constructor
    · exact .inl
    · rintro (h | ⟨rfl, -⟩)
      · exact h
      · exact absurd rfl hij

/-- What a choice adds to the logs; a crash leaves nothing of them. -/
theorem Recorded.inLog_step {ch : Choice I L D} (h : M.Recorded G s c logs)
    (hs : M.step ch c = some c') : InLog c' (ch.log M.host c logs) j l' st ↔
      ch ≠ .crash ∧ InLog c logs j l' st ∨ Makes M.host c j l' st ch := by
  have hlen := h.reach.1
  rcases M.step_cases hs with ⟨l, rfl, -, rfl⟩ | ⟨i, l, t, rfl, ht, rfl⟩ |
    ⟨i, l, q, k, rfl, ht, rfl⟩ | ⟨i, l, q, k, e, rfl, ht, rfl⟩ | ⟨d, rfl, rfl⟩ | ⟨rfl, rfl⟩
  · simp [Choice.log, Makes, inLog_start hlen]
  · simp [Choice.log, Makes, ht, inLog_modify hlen ht]
  · simp [Choice.log, Makes, ht, inLog_modify hlen ht]
  · simp [Choice.log, Makes, ht, inLog_modify hlen ht]
  · simp [Choice.log, InLog, Makes]
  · simp [Choice.log, Machine.init, inLog_single, Makes]

/-- A request that is served leaves what its service leaves. -/
theorem Makes.served {q : I.Req} {ch : Choice I L D} (h : Makes M.host c i l (.served s q) ch)
    (hs : M.step ch c = some c') :
    ch = .serve i ∧ s = c.state ∧ c'.state = (M.host.serve q c.state).2 := by
  cases ch with
  | serve j =>
    obtain ⟨rfl, q', k, ht, hst⟩ := h
    cases hst
    simp only [step, ht] at hs
    cases hs
    exact ⟨rfl, rfl, rfl⟩
  | resume j =>
    obtain ⟨-, t, -, p, -, hst⟩ := h
    cases hst
  | reject j e =>
    obtain ⟨-, q', k, -, hst⟩ := h
    cases hst
  | start l => exact h.elim
  | drift d => exact h.elim
  | crash => exact h.elim

end InLog

section Lasting
variable {E : Step I σ → Prop} {P : σ → Prop} {s : σ} {c : Pool I σ L}
  {logs : List (List (Step I σ))} (hop : ∀ s o, P s → P (M.host.runOp o s).2)
  (hserve : ∀ s q, P s → P (M.host.serve q s).2) (hdrift : ∀ s d, P s → P (M.drift d s))
  (hcrash : ∀ s, P s → P (M.reboot s))
include hop hserve hdrift hcrash

/-- What a served request makes true, and nothing takes back, is true of the
state once a log has the request. -/
theorem Recorded.lasting (hE : ∀ st, E st → ∃ s q, st = .served s q ∧ P (M.host.serve q s).2)
    (h : M.Recorded G s c logs) {i : Nat} {l : L} {st : Step I σ} (hst : InLog c logs i l st)
    (he : E st) : P c.state := by
  induction h generalizing i l st with
  | init => exact absurd hst inLog_single
  | @step c c' logs ch hr hg hs ih =>
    rcases (hr.inLog_step hs).mp hst with ⟨-, hst⟩ | hmakes
    · have hstep : M.Run Free c c' := .step ch (.refl c) trivial hs
      exact hstep.state_invariant (g := fun _ _ => True) (fun _ _ _ _ _ => trivial)
        (fun s o hP _ => hop s o hP) hserve hdrift hcrash (ih hst he)
    · obtain ⟨s', q, rfl, hP⟩ := hE st he
      obtain ⟨-, rfl, hstate⟩ := hmakes.served hs
      rw [hstate]
      exact hP

/-- If it was not true before the request, one task makes it. -/
theorem Recorded.once (hE : ∀ st, E st → ∃ s q, st = .served s q ∧ ¬ P s ∧
      P (M.host.serve q s).2) (h : M.Recorded G s c logs) {i j : Nat} {l l' : L}
    {st st' : Step I σ} (hst : InLog c logs i l st) (hst' : InLog c logs j l' st') (he : E st)
    (he' : E st') : i = j := by
  induction h generalizing i j l l' st st' with
  | init => exact absurd hst inLog_single
  | @step c c' logs ch hr hg hs ih =>
    -- a request that makes it true comes when no log has one yet
    have hfirst {i j : Nat} {l l' : L} {st st' : Step I σ} (hst : InLog c logs i l st)
        (he : E st) (hmakes : Makes M.host c j l' st' ch) (he' : E st') : False := by
      obtain ⟨s', q, rfl, hnot, -⟩ := hE st' he'
      obtain ⟨-, rfl, -⟩ := hmakes.served hs
      refine hnot (hr.lasting hop hserve hdrift hcrash (fun st he => ?_) hst he)
      obtain ⟨s', q, rfl, -, hP⟩ := hE st he
      exact ⟨s', q, rfl, hP⟩
    rcases (hr.inLog_step hs).mp hst with ⟨-, hold⟩ | hmakes
    · rcases (hr.inLog_step hs).mp hst' with ⟨-, hold'⟩ | hmakes'
      · exact ih hold hold' he he'
      · exact (hfirst hold he hmakes' he').elim
    · rcases (hr.inLog_step hs).mp hst' with ⟨-, hold'⟩ | hmakes'
      · exact (hfirst hold' he' hmakes he).elim
      · obtain ⟨s₁, q₁, rfl, -⟩ := hE st he
        obtain ⟨s₂, q₂, rfl, -⟩ := hE st' he'
        obtain ⟨rfl, -⟩ := hmakes.served hs
        obtain ⟨hch, -⟩ := hmakes'.served hs
        cases hch
        rfl

end Lasting

/-! ## Notes -/

/-- The observer that notes what `f` shows of the steps of a process. -/
def noting {γ : Type} (f : L → Step I σ → Option γ) : Observer I σ L (List γ) where
  onOp l s o m := (f l (.ran s o)).toList ++ m
  onServe l s q m := (f l (.served s q)).toList ++ m
  onCrash _ := []

section Notes
variable {γ : Type} {f : L → Step I σ → Option γ} {H : Host I σ} {c : Pool I σ L} {x : γ}

theorem mem_noted_advance {l : L} (t : Task I Unit) : ∀ {s : σ} {m : List γ},
    x ∈ (t.advance (H.observe (noting f) l) (s, m)).2.2 ↔
      (∃ p ∈ t.opsRun H s, f l (.ran p.1 p.2) = some x) ∨ x ∈ m := by
  induction t with
  | done r => simp [Task.advance, Task.opsRun]
  | sync o k ih =>
    intro s m
    refine (ih _).trans ?_
    simp [Task.opsRun, Host.observe, noting]
    exact or_left_comm.trans or_assoc.symm
  | await q k => simp [Task.advance, Task.opsRun]

theorem mem_noted_after {ch : Choice I L D} {m : List γ}
    (hf : ∀ l s q e, f l (.rejected s q e) = none) : x ∈ (noting f).after H c ch m ↔
      (∃ i l st, Makes H c i l st ch ∧ f l st = some x) ∨ ch ≠ .crash ∧ x ∈ m := by
  cases ch with
  | resume j =>
    simp only [Observer.after, Makes]
    split
    · rename_i l t ht
      rw [mem_noted_advance]
      simp [ht]
    · rename_i hnone
      simp [hnone]
  | serve j =>
    simp only [Observer.after, Makes]
    split
    · rename_i l q k ht
      simp [noting, ht]
    · rename_i hnone
      constructor
      · exact fun hx => .inr ⟨fun hch => (by cases hch), hx⟩
      · rintro (⟨i, l, st, ⟨-, q, k, ht, -⟩, -⟩ | ⟨-, hx⟩)
        · exact absurd ht (hnone l q k)
        · exact hx
  | reject j e =>
    simp only [Observer.after, Makes]
    constructor
    · exact fun hx => .inr ⟨fun hch => (by cases hch), hx⟩
    · rintro (⟨i, l, st, ⟨-, q, k, -, rfl⟩, hx⟩ | ⟨-, hx⟩)
      · rw [hf] at hx
        cases hx
      · exact hx
  | start l => simp [Observer.after, Makes]
  | drift d => simp [Observer.after, Makes]
  | crash => simp [Observer.after, Makes, noting]

end Notes

/-- **The notes of a run are what its logs show.** -/
theorem Recorded.noted {γ : Type} {f : L → Step I σ → Option γ}
    (hf : ∀ l s q e, f l (.rejected s q e) = none) {s : σ} {c : Pool I σ L}
    {logs : List (List (Step I σ))} (h : M.Recorded G s c logs) :
    ∃ m, M.Observed (noting f) G (M.init s) [] c m ∧
      ∀ x, x ∈ m ↔ ∃ i l st, InLog c logs i l st ∧ f l st = some x := by
  induction h with
  | init => exact ⟨[], .refl, fun x => by simp [Machine.init, inLog_single]⟩
  | @step c c' logs ch hr hg hs ih =>
    obtain ⟨m, hm, hnoted⟩ := ih
    refine ⟨_, .step ch hm hg hs, fun x => ?_⟩
    rw [mem_noted_after hf, hnoted]
    constructor
    · rintro (⟨i, l, st, hmakes, hx⟩ | ⟨hne, i, l, st, hst, hx⟩)
      · exact ⟨i, l, st, (hr.inLog_step hs).mpr (.inr hmakes), hx⟩
      · exact ⟨i, l, st, (hr.inLog_step hs).mpr (.inl ⟨hne, hst⟩), hx⟩
    · rintro ⟨i, l, st, hst, hx⟩
      rcases (hr.inLog_step hs).mp hst with ⟨hne, hst⟩ | hmakes
      · exact .inr ⟨hne, i, l, st, hst, hx⟩
      · exact .inl ⟨i, l, st, hmakes, hx⟩

/-! ## Replaying a recorded run -/

variable (M) in
/-- Make the choices in order and record the logs. -/
def record : List (Choice I L D) → Pool I σ L → List (List (Step I σ)) →
    Option (Pool I σ L × List (List (Step I σ)))
  | [], c, logs => some (c, logs)
  | ch :: chs, c, logs => (M.step ch c).bind fun c' => record chs c' (ch.log M.host c logs)

theorem record_recorded {s : σ} {chs : List (Choice I L D)} : ∀ {c c' : Pool I σ L} {logs logs'},
    M.Recorded Free s c logs → M.record chs c logs = some (c', logs') →
      M.Recorded Free s c' logs' := by
  induction chs with
  | nil =>
    intro c c' logs logs' h hrec
    cases hrec
    exact h
  | cons ch chs ih =>
    intro c c' logs logs' h hrec
    obtain ⟨c₁, hs, hrest⟩ := Option.bind_eq_some_iff.mp hrec
    exact ih (.step ch h trivial hs) hrest

/-- A replay that ends with a decidable property gives a recorded run to it. -/
theorem exists_recorded_run {s : σ} (chs : List (Choice I L D))
    (p : Pool I σ L → List (List (Step I σ)) → Bool)
    (h : (M.record chs (M.init s) [[]]).map (fun r => p r.1 r.2) = some true) :
    ∃ c logs, M.Recorded Free s c logs ∧ p c logs = true := by
  obtain ⟨⟨c, logs⟩, hrec, hp⟩ := Option.map_eq_some_iff.mp h
  exact ⟨c, logs, record_recorded .init hrec, hp⟩

/-- The task and the log at one place of a replay. -/
theorem exists_recorded {s : σ} (chs : List (Choice I L D)) (i : Nat)
    (p : L → List (Step I σ) → Bool)
    (h : ((M.record chs (M.init s) [[]]).map fun r =>
      match r.1.tasks[i]?, r.2[i]? with
      | some (l, _), some log => p l log
      | _, _ => false) = some true) :
    ∃ c logs l t log, M.Recorded Free s c logs ∧ c.tasks[i]? = some (l, t) ∧
      logs[i]? = some log ∧ p l log = true := by
  obtain ⟨c, logs, hrec, hp⟩ := exists_recorded_run chs (fun c logs =>
    match c.tasks[i]?, logs[i]? with
    | some (l, _), some log => p l log
    | _, _ => false) h
  split at hp
  · rename_i l t log ht hlog
    exact ⟨c, logs, l, t, log, hrec, ht, hlog, hp⟩
  · cases hp

end Machine
end Pool
end Async
