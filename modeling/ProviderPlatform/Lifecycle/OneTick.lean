import ProviderPlatform.Footprint

/-! # One tick at a time

A tick sets a flag when it begins and clears it when it ends, in one
synchronous part with its first and its last move. So at most one task is
inside a tick, the flag says whether one is, and the other ticks have not begun
or are over. -/
namespace ProviderPlatform
open Async Store

/-! ## The flag -/

/-- Operations that neither begin nor end a tick. -/
def Op.Flagless : Op → Prop
  | .setProcessing _ => False
  | _ => True

theorem runOp_flagless {o : Op} (ho : o.Flagless) (s : State) :
    (runOp o s).2.memory.isProcessing = s.memory.isProcessing := by
  cases o <;> first | rfl | exact ho.elim

theorem serve_processing (q : Req) (s : State) :
    (serve q s).2.memory.isProcessing = s.memory.isProcessing := by
  cases q <;> rfl

theorem drift_processing (d : Drift) (s : State) :
    (drift d s).memory.isProcessing = s.memory.isProcessing := by
  cases d <;> rfl

theorem Call.mayRun_flagless {l : Call} (hl : l ≠ .executeNext) {o : Op} (ho : l.mayRun o) :
    o.Flagless := by
  cases o with
  | setProcessing b => exact hl ho
  | _ => trivial

theorem mayProcess_flagless : MayProcess Op.Flagless fun _ => True where
  query _ := trivial
  rpc _ := trivial
  now := trivial
  emit _ _ := trivial
  isDisabled _ := trivial
  place _ := trivial
  purge _ := trivial
  expire _ := trivial
  activate _ := trivial
  returned _ _ := trivial
  createTransaction _ _ := trivial
  createLink _ := trivial
  evict _ := trivial
  failure _ _ _ := trivial
  insufficient _ _ _ := trivial

/-! ## The shape of a tick -/

/-- A tick that has the rest `u` of its slot to process. -/
abbrev ticking (u : Promise Unit) : Promise Unit :=
  Task.ensure (I := platform) u (.setProcessing false)

/-- What a tick does with the flag set. -/
def pullSlot (cfg : Config) : Promise Unit := do
  let slot : Option Slot ← run .removeFirstSlot
  match slot with
  | none => pure ()
  | some slot => if slot.isEmpty then pure () else processSlot cfg slot

theorem pullSlot_flagless (cfg : Config) :
    Keeps Op.Flagless (fun _ => True) (pullSlot cfg) := by
  have hpull : Op.Flagless .removeFirstSlot := trivial
  refine (keeps_run hpull).bind fun slot => ?_
  cases slot with
  | none => exact keeps_pure _
  | some slot =>
    exact keeps_ite (fun _ => keeps_pure _) fun _ =>
      processSlot_keeps mayProcess_flagless (fun _ _ _ => trivial) cfg slot

theorem executeNext_eq (cfg : Config) :
    executeNext cfg = .sync .isProcessing fun busy =>
      if busy then .done (.ok ())
      else .sync (.setProcessing true) fun _ => ticking (pullSlot cfg) := by
  refine congrArg (Task.sync (I := platform) .isProcessing) (funext fun busy => ?_)
  cases busy <;> rfl

/-- While a tick runs, another ends at once. -/
theorem executeNext_busy {cfg : Config} {τ : Type} {H : Host platform τ} {s : τ}
    (hs : H.runOp .isProcessing s = (true, s)) :
    (executeNext cfg).advance H s = (.done (.ok ()), s) := by
  rw [executeNext_eq, Task.advance, hs]
  rfl

theorem executeNext_idle {cfg : Config} {s : State} (hs : s.memory.isProcessing = false) :
    (executeNext cfg).advance host s =
      (ticking (pullSlot cfg)).advance host (runOp (.setProcessing true) s).2 := by
  rw [executeNext_eq]
  change (if s.memory.isProcessing then _ else _ : Promise Unit).advance host s = _
  rw [if_neg (by simp [hs])]
  rfl

theorem ticking_ne_done (u : Promise Unit) (r : Except Err Unit) : ticking u ≠ .done r := by
  cases u <;> nofun

/-- A tick awaits what the rest of its slot awaits. -/
theorem ticking_await {u : Promise Unit} {q : Req} {k : Except Err (platform.Ans q) → Promise Unit}
    (h : ticking u = .await q k) : ∃ k', u = .await q k' ∧ k = fun r => ticking (k' r) := by
  cases u with
  | await q' k' =>
    obtain ⟨rfl, hk⟩ := Task.await.inj h
    exact ⟨k', rfl, (eq_of_heq hk).symm⟩
  | _ => cases h

/-- A tick that has not begun has nothing to finish. -/
theorem ticking_ne_executeNext (cfg : Config) (u : Promise Unit) : ticking u ≠ executeNext cfg := by
  rw [executeNext_eq]
  intro h
  cases u with
  | done r => cases h
  | await q k => cases h
  | sync o k =>
    obtain ⟨rfl, hk⟩ := Task.sync.inj h
    exact ticking_ne_done _ _ (congrFun (eq_of_heq hk) true)

/-- The synchronous part of a tick: it is still ticking, or it has ended and
cleared the flag. -/
theorem ticking_advance {u : Promise Unit} (hu : Keeps Op.Flagless (fun _ => True) u) {s : State}
    (hs : s.memory.isProcessing = true) :
    (∃ u', Keeps Op.Flagless (fun _ => True) u' ∧ ((ticking u).advance host s).1 = ticking u' ∧
      ((ticking u).advance host s).2.memory.isProcessing = true) ∨
    ∃ r, ((ticking u).advance host s).1 = .done r ∧
      ((ticking u).advance host s).2.memory.isProcessing = false := by
  have hkept : (u.advance host s).2.memory.isProcessing = true :=
    Task.advance_keeps host (P := fun s => s.memory.isProcessing = true)
      (g := fun _ o => o.Flagless) (fun s o hs ho => (runOp_flagless ho s).trans hs) u s hs
      (hu.opsRun host)
  rcases Task.advance_ensure host (.setProcessing false) u s with ⟨r, -, h⟩ | h
  · exact .inr ⟨r, congrArg Prod.fst h, by rw [h]; rfl⟩
  · exact .inl ⟨_, hu.advance host, congrArg Prod.fst h, by rw [h]; exact hkept⟩

/-! ## One at a time -/

/-- The task `holder`, if there is one, is the only one inside a tick, and the
flag says whether there is one. -/
structure OneTick (cfg : Config) (holder : Option Nat) (c : ProviderPool) : Prop where
  flag : c.state.memory.isProcessing = holder.isSome
  inside : ∀ i, holder = some i → ∃ u, c.tasks[i]? = some (.executeNext, ticking u) ∧
    Keeps Op.Flagless (fun _ => True) u
  outside : ∀ i t, holder ≠ some i → c.tasks[i]? = some (.executeNext, t) →
    t = executeNext cfg ∨ ∃ r, t = .done r
  footprint : Machine.AllUse Call.mayRun Call.mayAwait c

section Steps
variable {cfg : Config} {fuel : Nat} {allowed : State → Call → Bool} {holder : Option Nat}
  {c c' : ProviderPool}

/-- A task inside a tick is the one that holds it. -/
theorem OneTick.holds (h : OneTick cfg holder c) {i : Nat} {u : Promise Unit}
    (hi : c.tasks[i]? = some (.executeNext, ticking u)) : holder = some i := by
  by_contra hne
  rcases h.outside i _ hne hi with hfresh | ⟨r, hdone⟩
  · exact ticking_ne_executeNext cfg u hfresh
  · exact ticking_ne_done u r hdone

/-- One task moves: it may begin or end a tick, the others stay as they are. -/
theorem OneTick.set (h : OneTick cfg holder c) {i : Nat} {l : Call} {t : Promise Unit} {s : State}
    {holder' : Option Nat} (hi : i < c.tasks.length)
    (hflag : s.memory.isProcessing = holder'.isSome)
    (hothers : ∀ j, j ≠ i → (holder' = some j ↔ holder = some j))
    (hin : holder' = some i → l = .executeNext ∧ ∃ u, t = ticking u ∧
      Keeps Op.Flagless (fun _ => True) u)
    (hout : holder' ≠ some i → l = .executeNext → t = executeNext cfg ∨ ∃ r, t = .done r)
    (huse : t.Uses l.mayRun l.mayAwait) : OneTick cfg holder' ⟨s, c.tasks.set i (l, t)⟩ where
  flag := hflag
  inside j hj := by
    by_cases hji : j = i
    · subst hji
      obtain ⟨rfl, u, rfl, hu⟩ := hin hj
      exact ⟨u, List.getElem?_set_self hi, hu⟩
    · obtain ⟨u, hu, hflagless⟩ := h.inside j ((hothers j hji).mp hj)
      exact ⟨u, (List.getElem?_set_ne (Ne.symm hji)).trans hu, hflagless⟩
  outside j t' hj ht' := by
    by_cases hji : j = i
    · subst hji
      rw [List.getElem?_set_self hi] at ht'
      obtain ⟨rfl, rfl⟩ := Prod.mk.inj (Option.some.inj ht')
      exact hout hj rfl
    · rw [List.getElem?_set_ne (Ne.symm hji)] at ht'
      exact h.outside j t' (fun hheld => hj ((hothers j hji).mpr hheld)) ht'
  footprint := h.footprint.set huse

/-- A move of a task that neither begins nor ends a tick. -/
theorem OneTick.move (h : OneTick cfg holder c) {i : Nat} {l : Call} {t t' : Promise Unit}
    {s : State} (hi : c.tasks[i]? = some (l, t))
    (hs : s.memory.isProcessing = c.state.memory.isProcessing)
    (hin : ∀ u, l = .executeNext → t = ticking u → Keeps Op.Flagless (fun _ => True) u →
      ∃ u', t' = ticking u' ∧ Keeps Op.Flagless (fun _ => True) u')
    (hout : l = .executeNext → t = executeNext cfg ∨ (∃ r, t = .done r) → ∃ r, t' = .done r)
    (huse : t'.Uses l.mayRun l.mayAwait) : OneTick cfg holder ⟨s, c.tasks.set i (l, t')⟩ := by
  obtain ⟨hlt, -⟩ := List.getElem?_eq_some_iff.mp hi
  apply h.set hlt (hs.trans h.flag) (fun _ _ => .rfl)
  · intro hheld
    obtain ⟨u, hu, hflagless⟩ := h.inside i hheld
    obtain ⟨rfl, rfl⟩ := Prod.mk.inj (Option.some.inj (hi.symm.trans hu))
    exact ⟨rfl, hin u rfl rfl hflagless⟩
  · rintro hne rfl
    exact .inr (hout rfl (h.outside i t hne hi))
  · exact huse

/-- An answer lets the task it is for move, within its tick if it is inside one. -/
theorem OneTick.answer (h : OneTick cfg holder c) {i : Nat} {l : Call} {q : Req}
    {k : Except Err (platform.Ans q) → Promise Unit} {s : State}
    (hi : c.tasks[i]? = some (l, .await q k))
    (hs : s.memory.isProcessing = c.state.memory.isProcessing) (r : Except Err (platform.Ans q)) :
    OneTick cfg holder ⟨s, c.tasks.set i (l, k r)⟩ := by
  apply h.move hi hs
  · rintro u - hu hflagless
    obtain ⟨k', rfl, rfl⟩ := ticking_await hu.symm
    exact ⟨k' r, rfl, hflagless.2 r⟩
  · rintro - (hfresh | ⟨r, hdone⟩)
    · rw [executeNext_eq] at hfresh
      cases hfresh
    · cases hdone
  · exact (h.footprint.at hi).2 r

/-- A tick begins, unless one is running. -/
theorem OneTick.begin (h : OneTick cfg holder c) {i : Nat}
    (hi : c.tasks[i]? = some (.executeNext, executeNext cfg)) :
    ∃ holder', OneTick cfg holder' ⟨((executeNext cfg).advance host c.state).2,
      c.tasks.set i (.executeNext, ((executeNext cfg).advance host c.state).1)⟩ := by
  obtain ⟨hlt, -⟩ := List.getElem?_eq_some_iff.mp hi
  have huse := (h.footprint.at hi).advance host (s := c.state)
  cases hbusy : c.state.memory.isProcessing with
  | true =>
    have hread : host.runOp .isProcessing c.state = (true, c.state) := congrArg (·, c.state) hbusy
    rw [executeNext_busy hread] at huse ⊢
    refine ⟨holder, h.move hi rfl ?_ ?_ huse⟩
    · exact fun u _ hu _ => absurd hu.symm (ticking_ne_executeNext cfg u)
    · exact fun _ _ => ⟨_, rfl⟩
  | false =>
    have hfree : holder = none := by
      have hflag := h.flag
      rwa [hbusy, eq_comm, Option.isSome_eq_false_iff, Option.isNone_iff_eq_none] at hflag
    subst hfree
    rw [executeNext_idle hbusy] at huse ⊢
    rcases ticking_advance (pullSlot_flagless cfg) (s := (runOp (.setProcessing true) c.state).2)
      rfl with ⟨u, hu, ht, hs⟩ | ⟨r, ht, hs⟩
    · refine ⟨some i, h.set hlt hs ?_ (fun _ => ⟨rfl, u, ht, hu⟩) ?_ huse⟩
      · exact fun j hj => ⟨fun h => absurd (Option.some.inj h).symm hj, nofun⟩
      · exact fun hne => absurd rfl hne
    · exact ⟨none, h.set hlt hs (fun _ _ => .rfl) nofun (fun _ _ => .inr ⟨r, ht⟩) huse⟩

/-- The running tick goes on, or ends. -/
theorem OneTick.tick {i : Nat} (h : OneTick cfg (some i) c) {u : Promise Unit}
    (hi : c.tasks[i]? = some (.executeNext, ticking u))
    (hu : Keeps Op.Flagless (fun _ => True) u) :
    ∃ holder', OneTick cfg holder' ⟨((ticking u).advance host c.state).2,
      c.tasks.set i (.executeNext, ((ticking u).advance host c.state).1)⟩ := by
  obtain ⟨hlt, -⟩ := List.getElem?_eq_some_iff.mp hi
  have huse := (h.footprint.at hi).advance host (s := c.state)
  rcases ticking_advance hu h.flag with ⟨u', hu', ht, hs⟩ | ⟨r, ht, hs⟩
  · refine ⟨some i, h.set hlt hs (fun _ _ => .rfl) (fun _ => ⟨rfl, u', ht, hu'⟩) ?_ huse⟩
    exact fun hne => absurd rfl hne
  · refine ⟨none, h.set hlt hs ?_ nofun (fun _ _ => .inr ⟨r, ht⟩) huse⟩
    exact fun j hj => ⟨nofun, fun h => absurd (Option.some.inj h).symm hj⟩

theorem OneTick.init {s : State} (hidle : s.memory.isProcessing = false) :
    OneTick cfg none ((process cfg fuel allowed).init s) where
  flag := hidle
  inside := nofun
  outside i t _ ht := by
    have hlaunch : (Call.executeNext, t) = (.launch, Call.launch.program cfg fuel) :=
      List.mem_singleton.mp (List.mem_of_getElem? ht)
    cases hlaunch
  footprint := .init (Call.program_keeps cfg fuel) s

/-- **Every step keeps the ticks apart.** -/
theorem OneTick.step (h : OneTick cfg holder c) {ch : ProviderChoice}
    (hs : (process cfg fuel allowed).step ch c = some c') : ∃ holder', OneTick cfg holder' c' := by
  have hfootprint := Machine.AllUse.step _ (Call.program_keeps cfg fuel) h.footprint hs
  rcases Machine.step_cases _ hs with ⟨l, rfl, -, rfl⟩ | ⟨i, l, t, rfl, ht, rfl⟩ |
    ⟨i, l, q, k, rfl, ht, rfl⟩ | ⟨i, l, q, k, e, rfl, ht, rfl⟩ | ⟨d, rfl, rfl⟩ | ⟨rfl, rfl⟩
  · refine ⟨holder, h.flag, fun j hj => ?_, fun j t hj ht => ?_, hfootprint⟩
    · obtain ⟨u, hu, hflagless⟩ := h.inside j hj
      obtain ⟨hlt, -⟩ := List.getElem?_eq_some_iff.mp hu
      exact ⟨u, (List.getElem?_append_left hlt).trans hu, hflagless⟩
    · by_cases hlt : j < c.tasks.length
      · rw [List.getElem?_append_left hlt] at ht
        exact h.outside j t hj ht
      · rw [List.getElem?_append_right (not_lt.mp hlt)] at ht
        obtain ⟨rfl, rfl⟩ := Prod.mk.inj (List.mem_singleton.mp (List.mem_of_getElem? ht))
        exact .inl rfl
  · by_cases hl : l = .executeNext
    · subst hl
      by_cases hheld : holder = some i
      · subst hheld
        obtain ⟨u, hu, hflagless⟩ := h.inside i rfl
        obtain rfl := (Prod.mk.inj (Option.some.inj (ht.symm.trans hu))).2
        exact h.tick hu hflagless
      · rcases h.outside i t hheld ht with rfl | ⟨r, rfl⟩
        · exact h.begin ht
        · exact ⟨holder, h.move ht rfl (fun u _ hu _ => absurd hu.symm (ticking_ne_done u r))
            (fun _ _ => ⟨r, rfl⟩) trivial⟩
    · have huse := h.footprint.at ht
      refine ⟨holder, h.move ht ?_ (fun _ h => absurd h hl) (fun h => absurd h hl)
        (huse.advance host)⟩
      exact Task.advance_keeps host
        (P := fun s => s.memory.isProcessing = c.state.memory.isProcessing)
        (g := fun _ o => o.Flagless) (fun s o hs ho => (runOp_flagless ho s).trans hs) t c.state rfl
        fun p hp => Call.mayRun_flagless hl (huse.opsRun host p hp)
  · exact ⟨holder, h.answer ht (serve_processing q c.state) _⟩
  · exact ⟨holder, h.answer ht rfl _⟩
  · exact ⟨holder, (drift_processing d c.state).trans h.flag, h.inside, h.outside, hfootprint⟩
  · exact ⟨none, .init rfl⟩

/-- **One tick at a time.** -/
theorem OneTick.run {s : State} {G : ProviderPool → ProviderChoice → Prop}
    (hidle : s.memory.isProcessing = false)
    (h : (process cfg fuel allowed).Run G ((process cfg fuel allowed).init s) c) :
    ∃ holder, OneTick cfg holder c := by
  apply h.invariant (P := fun c => ∃ holder, OneTick cfg holder c)
  · rintro c ch c' ⟨holder, h⟩ - hs
    exact h.step hs
  · exact ⟨none, .init hidle⟩

end Steps
end ProviderPlatform
