import ProviderPlatform.Async.Log
import ProviderPlatform.Lifecycle.Attempts
import ProviderPlatform.Lifecycle.OneTick

/-! # One place in the queue, a bounded number of ticks

Along every run of a provider a bundle is never queued twice, nor queued while
a tick has it out; one of the requests for a bundle is accepted; no bundle is
pulled more often than the maximum of retries; and what failed for good is
dropped. -/
namespace ProviderPlatform
open Async Store

/-! ## Every call -/

/-- The mempool's and the repository's means to take bundles out. -/
def Call.isPurge : Call → Bool
  | .purgeBundles _ | .expireByIds _ => true
  | _ => false

/-- A provider whose queue may also be purged. -/
abbrev operated (cfg : Config) (fuel : Nat) : Machine platform State Call Drift :=
  process cfg fuel fun s l => s.memory.started && (l.isService || l.isPurge)

/-- A task that accepted a request owns that. -/
def Call.accepts (cfg : Config) : Call → Except Err Unit → Holds → Prop
  | .addOperationsBundle input, r, o =>
    r = .ok () → .accepted (generateBundleId cfg input.operationsMLXDR) ∈ o
  | _, _, _ => True

section Runs
variable {cfg : Config} {fuel : Nat} {tracked : BundleId → Prop} {s : State} {c : ProviderPool}
  {m : Ticks}

theorem Call.program_kept (hmax : ∀ id, tracked id → 0 < cfg.maxRetryAttempts) {l : Call}
    (hl : (l.isService || l.isPurge) = true) :
    Task.Triple (host.observe ticks l) (keeping cfg tracked l) 0 (l.program cfg fuel)
      (l.accepts cfg) := by
  cases l with
  | addOperationsBundle input =>
    apply (addOperationsBundle_kept hmax input).bind
    · exact fun id o ho => .done fun _ => ho id rfl
    · exact fun _ _ _ => nofun
  | executeNext => exact executeNext_kept
  | verifyTransactions =>
    exact (kept_uses (verifyTransactions_keeps mayVerify_fading cfg) 0).mono fun _ _ _ => trivial
  | expireBundles =>
    exact (kept_uses (Mempool.expireBundles_keeps (permits_fading _).toAnnounces trivial mayExpire_fading)
      0).mono fun _ _ _ => trivial
  | purgeBundles ids =>
    have hpurge : (Op.purgeBundles ids).Fading := trivial
    exact (kept_uses ((keeps_run hpurge).bind fun _ => keeps_pure _) 0).mono fun _ _ _ => trivial
  | expireByIds ids =>
    have hexpire : (Req.command (.expireByIds ids BundleStatus.active)).Fading
        (.expireByIds ids) := trivial
    exact (kept_uses ((keeps_command hexpire).bind fun _ => keeps_pure _) 0).mono
      fun _ _ _ => trivial
  | _ => cases hl

theorem respects_keeping : (operated cfg fuel).RespectsObserved (keeping cfg tracked) ticks
    fun c ch => Machine.Free c ch ∧ ServicesStarted c where
  run _ _ _ l t hg ht p hp hl := by
    have hstarted := hg.2 (l, t) (List.mem_of_getElem? ht) hl
    have hmem := List.mem_map_of_mem (f := fun p => (p.1.1, p.2)) hp
    rw [opsRun_observe] at hmem
    exact opsRun_started _ hstarted _ hmem
  serve _ _ _ l q k hg ht hl := hg.2 (l, .await q k) (List.mem_of_getElem? ht) hl
  reject _ _ _ _ _ _ _ _ _ := trivial

/-- What the tasks own, in every state a run reaches. -/
theorem kept_reachable (hboot : s.memory = .boot cfg)
    (htracked : ∀ id, tracked id →
      s.db.operationsBundles.find id = none ∧ 0 < cfg.maxRetryAttempts)
    (h : (operated cfg fuel).Observed ticks Machine.Free ((operated cfg fuel).init s)
      ⟨[], [], [], []⟩ c m) :
    Shares (host.observe ticks) (keeping cfg tracked) (Kept cfg tracked) (Call.accepts cfg)
      (c.state, m) c.tasks := by
  have hinit : ServicesStarted ((operated cfg fuel).init s) := by
    intro p hp hservice
    rw [List.mem_singleton.mp hp] at hservice
    cases hservice
  have hstarted := h.strengthen (P := ServicesStarted) (fun c ch c' hc _ hs =>
    ServicesStarted.step (fun _ _ hl _ => (Bool.and_eq_true_iff.mp hl).1) hc hs) hinit
  have hlaunch : Task.Triple (host.observe ticks .launch) (keeping cfg tracked .launch) {.boot}
      (Call.launch.program cfg fuel) (Call.launch.accepts cfg) := launch_kept fuel
  apply hstarted.shares (K := keeping cfg tracked) (fun _ => rfl) hlaunch
  · intro s l hl
    exact Call.program_kept (fun id ht => (htracked id ht).2) (Bool.and_eq_true_iff.mp hl).2
  · exact respects_keeping
  · rintro c _ d _ - ⟨hh, hc⟩
    refine ⟨hh.still (drift_still d c.state) rfl rfl (List.Subset.refl _), hc.fades ?_ fun id _ => ?_⟩
    · exact fun id hid => Multiset.mem_of_le (drift_still d c.state).queuedIds hid
    · exact fades_same ((drift_agrees d c.state).bundles id) rfl fun h => h
  · rintro _ _ _ - ⟨-, hc⟩
    exact ⟨holding_boot rfl, counting_boot rfl fun id ht => (hc.bounded id ht).reboot⟩
  · have hstart : Kept cfg tracked (s, ⟨[], [], [], []⟩) {.boot} :=
      ⟨holding_boot (m := ⟨[], [], [], []⟩) hboot,
        counting_boot (m := ⟨[], [], [], []⟩) hboot fun id ht => bounded_of_new (htracked id ht).1⟩
    exact shares_single hlaunch hstart

/-- What has been pulled of a bundle, and not put back, says that it is not queued. -/
theorem Holding.unqueued {id : BundleId} {r : Holds} (h : Holding s m r) (hid : id ∈ m.pulled) :
    id ∉ s.memory.mempool.queuedIds := by
  have hheld : id ∈ held r :=
    Multiset.mem_of_le (pulled_le_held r) (Multiset.mem_of_le h.out (Multiset.mem_coe.mpr hid))
  intro hmem
  exact Multiset.disjoint_left.mp (Multiset.nodup_add.mp h.once).2.2 (Multiset.mem_coe.mpr hmem)
    hheld

theorem Holding.queue_nodup {r : Holds} (h : Holding s m r) :
    (s.memory.mempool.queuedIds ++ m.pulled).Nodup := by
  rw [← Multiset.coe_nodup, ← Multiset.coe_add]
  exact Multiset.nodup_of_le (add_le_add_right (h.out.trans (pulled_le_held r)) _) h.once

/-- The runs of a provider from its launch, with what its ticks did. -/
abbrev Ticking (cfg : Config) (fuel : Nat) (s : State) (c : ProviderPool) (m : Ticks) : Prop :=
  (operated cfg fuel).Observed ticks Machine.Free ((operated cfg fuel).init s) ⟨[], [], [], []⟩ c m

/-- In every state a run reaches some tokens hold what the tasks own. -/
theorem holding_reachable (hboot : s.memory = .boot cfg) (h : Ticking cfg fuel s c m) :
    ∃ r, Holding c.state m r := by
  have hshares := @kept_reachable _ _ (fun _ => False) _ _ _ hboot (fun _ ht => ht.elim) h
  obtain ⟨r, hkept⟩ := hshares.holds
  exact ⟨r, hkept.holding⟩

/-- The queue of a reachable state has no bundle twice, and each has a row. -/
theorem queued_reachable (hboot : s.memory = .boot cfg)
    (h : (operated cfg fuel).Run Machine.Free ((operated cfg fuel).init s) c) :
    c.state.memory.mempool.queuedIds.Nodup ∧
      ∀ id ∈ c.state.memory.mempool.queuedIds, c.state.HasRow id := by
  obtain ⟨m, hticks⟩ := h.observed ticks ⟨[], [], [], []⟩
  obtain ⟨r, hholding⟩ := holding_reachable hboot hticks
  refine ⟨(List.nodup_append.mp hholding.queue_nodup).1, fun id hid => ?_⟩
  exact hholding.rows id (Multiset.mem_add.mpr (.inl (Multiset.mem_coe.mpr hid)))

/-- **A bundle is queued once, and accepted once.** At every point of every run
the queue and what ticks pulled and did not put back, the slot in flight among
it, have no bundle twice; and of the requests for one bundle that a process has
answered at most one was accepted. -/
theorem queue_unique (hboot : s.memory = .boot cfg) (h : Ticking cfg fuel s c m) :
    (c.state.memory.mempool.queuedIds ++ (m.out ++ m.dropped)).Nodup ∧
      ∀ (i j : Nat) (input input' : BundleRequest),
        c.tasks[i]? = some (.addOperationsBundle input, .done (.ok ())) →
        c.tasks[j]? = some (.addOperationsBundle input', .done (.ok ())) →
        generateBundleId cfg input.operationsMLXDR = generateBundleId cfg input'.operationsMLXDR →
        i = j := by
  have hshares := @kept_reachable _ _ (fun _ => False) _ _ _ hboot (fun _ ht => ht.elim) h
  obtain ⟨r, hkept⟩ := hshares.holds
  refine ⟨hkept.holding.queue_nodup, fun i j input input' hi hj hid => ?_⟩
  by_contra hne
  obtain ⟨own, own', f, hkept, hown, hown'⟩ :=
    Shares.ended (K := keeping cfg fun _ => False) (fun _ => rfl) hshares hne hi hj
  have hmem : generateBundleId cfg input.operationsMLXDR ∈ accepted own :=
    Multiset.mem_bind.mpr ⟨_, hown rfl, by simp [Hold.acceptedIds]⟩
  have hmem' : generateBundleId cfg input.operationsMLXDR ∈ accepted (own' + f) := by
    rw [accepted_add, hid]
    exact Multiset.mem_add.mpr (.inl (Multiset.mem_bind.mpr
      ⟨_, hown' rfl, by simp [Hold.acceptedIds]⟩))
  have honce := hkept.holding.acceptedOnce
  rw [accepted_add] at honce
  exact Multiset.disjoint_left.mp (Multiset.nodup_add.mp honce).2.2 hmem hmem'

end Runs

namespace Small

/-- A tick pulls the bundle that was admitted. -/
def pulled : List ProviderChoice := admitted ++ [.start .executeNext, .resume 2]

end Small

theorem queue_unique_small : ∃ (c : ProviderPool) (m : Ticks), m.out = ["deposit 10"] ∧
    (c.state.memory.mempool.queuedIds ++ (m.out ++ m.dropped)).Nodup := by
  have hwatch : ((operated Small.config 1).watch ticks Machine.Free Small.pulled
      ((operated Small.config 1).init Small.state) ⟨[], [], [], []⟩).map
        (fun r => r.2.out == ["deposit 10"]) = some true := by decide +kernel
  obtain ⟨c, m, h, hp⟩ := Machine.exists_observed Small.pulled
    (fun _ (m : Ticks) => m.out == ["deposit 10"]) hwatch
  exact ⟨c, m, eq_of_beq hp, (queue_unique rfl h).1⟩

/-! ## The retry bound -/

section Bound
variable {cfg : Config} {fuel : Nat} {s : State} {c : ProviderPool} {m : Ticks}

/-- Errors that are not retried. -/
def Err.IsFinal (error : Err) : Prop :=
  (∃ detail, error = .insufficientFees detail) ∨ isDeterministic error = true

/-- Operations that queue nothing. -/
def Op.PlacesNothing : Op → Prop
  | .place _ => False
  | _ => True

theorem permits_placesNothing : Permits Op.PlacesNothing fun _ => True where
  query _ := trivial
  rpc _ := trivial
  now := trivial
  emit _ _ := trivial
  isDisabled _ := trivial

/-- A final error leaves nothing to retry. -/
theorem failBundleExecution_final {error : Err} (h : isDeterministic error = true)
    (reason : FailureReason) (id : BundleId) :
    (failBundleExecution cfg error reason id).Yields (· = none) := by
  apply Task.Yields.recover
  · refine (Task.yields_any _).bind fun bundle _ => ?_
    cases bundle with
    | none => exact .pure rfl
    | some bundle =>
      have hdet : (failureDeps cfg error).deterministic = true := h
      dsimp only
      rw [hdet, Bool.true_or, if_pos rfl]
      exact (Task.yields_any _).bind fun _ _ => .pure rfl
  · exact fun _ => .pure rfl

theorem handleExecutionFailure_final {error : Err} (h : isDeterministic error = true)
    (ids : List BundleId) (reason : FailureReason) :
    (handleExecutionFailure cfg error ids reason).Yields (· = []) := by
  have hresults := @Task.Yields.collect _ _ _ _ _ ids
    fun id _ => @failBundleExecution_final cfg _ h reason id
  refine hresults.bind fun results hnone => .pure ?_
  rw [List.filterMap_eq_nil_iff]
  exact hnone

/-- A tick whose slot failed for good queues nothing. -/
theorem handleSlotFailure_final {error : Err} (h : error.IsFinal) (slot : Slot) :
    Keeps Op.PlacesNothing (fun _ => True) (handleSlotFailure cfg slot error) := by
  have hp := permits_placesNothing
  unfold handleSlotFailure
  split
  · exact (Task.Uses.forEach fun id _ => failInsufficientFees_keeps (fun _ _ _ => trivial) _ _).bind
      fun _ => emitExecutionFailed_keeps hp slot _ _
  · rename_i hretried
    have hdet : isDeterministic error = true := by
      rcases h with ⟨detail, rfl⟩ | hdet
      · exact absurd rfl (hretried detail)
      · exact hdet
    refine (keeps_run hp.now).bind fun now => (emitExecutionFailed_keeps hp slot _ _).bind fun _ => ?_
    refine (handleExecutionFailure_keeps hp.toReads (fun _ _ _ => trivial) cfg _ _ _).bind_yields
      (handleExecutionFailure_final hdet _ _) ?_
    rintro _ rfl
    have hnone : buildRetryBundles slot [] = [] := List.filterMap_eq_nil_iff.mpr fun _ _ => rfl
    simp only [hnone]
    exact keeps_pure _

theorem drops {l : Call} {b : BundleId} {o : Op} (hb : b ∈ m.dropped) :
    b ∈ (Ticks.onOp l s o m).dropped := by
  unfold Ticks.onOp
  split
  · exact hb
  · split <;> exact hb
  · exact List.mem_append_right _ hb
  · exact hb

theorem dropped_onServe {l : Call} {q : Req} : (Ticks.onServe l q m).dropped = m.dropped := by
  unfold Ticks.onServe
  split
  · split <;> rfl
  · rfl

theorem out_onServe {l : Call} {q : Req} : (Ticks.onServe l q m).out = m.out := by
  unfold Ticks.onServe
  split
  · split <;> rfl
  · rfl

theorem dropped_kept {b : BundleId} (hb : b ∈ m.dropped) {c' : ProviderPool} {m' : Ticks}
    (h : (operated cfg fuel).Observed ticks (fun _ ch => ch ≠ .crash) c m c' m') :
    b ∈ m'.dropped := by
  apply h.keeps (P := fun m => b ∈ m.dropped)
  · exact fun l s o m hb => drops hb
  · intro l s q m hb
    rwa [show ticks.onServe l s q m = Ticks.onServe l q m from rfl, dropped_onServe]
  · exact fun _ hne => hne rfl
  · exact hb

/-- What a tick dropped is not queued again by the same process. -/
theorem dropped_stays {b : BundleId} (hboot : s.memory = .boot cfg) (h : Ticking cfg fuel s c m)
    (hb : b ∈ m.dropped) {c' : ProviderPool} {m' : Ticks}
    (h' : (operated cfg fuel).Observed ticks (fun _ ch => ch ≠ .crash) c m c' m') :
    b ∉ c'.state.memory.mempool.queuedIds := by
  have hrun := h.trans (h'.mono fun _ _ _ => trivial)
  obtain ⟨r, hholding⟩ := holding_reachable hboot hrun
  exact hholding.unqueued (List.mem_append_right _ (dropped_kept hb h'))

/-- The slot that task `i` pulled failed with an error that is not retried, and
the task is somewhere in the handler of that error. -/
def FailedForGood (cfg : Config) (c : ProviderPool) (i : Nat) : Prop :=
  ∃ (slot : Slot) (error : Err) (log : List (Step platform State)) (rest : Promise Unit),
    error.IsFinal ∧ (handleSlotFailure cfg slot error).Reaches host log rest ∧
      c.tasks[i]? = some (.executeNext, ticking rest)

/-- The bundle is dropped, or out with the tick of task `i`, which places
nothing any more. -/
def Dropping (b : BundleId) (i : Nat) (c : ProviderPool) (m : Ticks) : Prop :=
  b ∈ m.dropped ∨ b ∈ m.out ∧ ∃ u, c.tasks[i]? = some (.executeNext, ticking u) ∧
    Keeps Op.PlacesNothing (fun _ => True) u

/-- What is out stays out, or is dropped, unless a tick places it. -/
theorem pulled_onOp {l : Call} {b : BundleId} {o : Op} (ho : o.PlacesNothing) (hb : b ∈ m.pulled) :
    b ∈ (Ticks.onOp l s o m).pulled := by
  unfold Ticks.onOp
  split
  · rw [Ticks.pulled, List.append_assoc]
    exact List.mem_append_right _ hb
  · exact ho.elim
  · exact hb
  · exact hb

/-- The calls other than a tick take nothing from what is out. -/
theorem out_onOp {l : Call} (hl : l ≠ .executeNext) {b : BundleId} {o : Op} (ho : l.mayRun o)
    (hb : b ∈ m.out) : b ∈ (Ticks.onOp l s o m).out := by
  unfold Ticks.onOp
  split
  · exact List.mem_append_right _ hb
  · rwa [if_neg hl]
  · exact absurd ho hl
  · exact hb

/-- The tick of task `i` goes on with nothing to place, or ends and drops what is out. -/
theorem Dropping.tick {b : BundleId} {i : Nat} {u : Promise Unit}
    (hi : c.tasks[i]? = some (.executeNext, ticking u))
    (hu : Keeps Op.PlacesNothing (fun _ => True) u) (hb : b ∈ m.out) :
    Dropping b i ⟨((ticking u).advance host c.state).2,
        c.tasks.set i (.executeNext, ((ticking u).advance host c.state).1)⟩
      ((ticking u).advance (host.observe ticks .executeNext) (c.state, m)).2.2 := by
  obtain ⟨hlt, -⟩ := List.getElem?_eq_some_iff.mp hi
  have hpulled : b ∈ (u.advance (host.observe ticks .executeNext) (c.state, m)).2.2.pulled :=
    Task.advance_keeps _ (P := fun p : State × Ticks => b ∈ p.2.pulled)
      (g := fun _ (o : Op) => o.PlacesNothing) (fun _ _ hp ho => pulled_onOp ho hp) u (c.state, m)
      (List.mem_append_left _ hb) (hu.opsRun _)
  obtain ⟨htask, -⟩ := advance_observe host ticks .executeNext (ticking u) c.state m
  rcases Task.advance_ensure (host.observe ticks .executeNext) (.setProcessing false) u (c.state, m)
    with ⟨r, -, h⟩ | h
  · left
    rw [h]
    exact hpulled
  · rw [← htask, h]
    rcases List.mem_append.mp hpulled with hout | hdropped
    · exact .inr ⟨hout, _, List.getElem?_set_self hlt, hu.advance _⟩
    · exact .inl hdropped

/-- An answer leaves what is out with the tick of task `i`. -/
theorem Dropping.answer {b : BundleId} {i j : Nat} {l : Call} {q : Req}
    {k : Except Err (platform.Ans q) → Promise Unit} {u : Promise Unit} {s' : State} {m' : Ticks}
    (hi : c.tasks[i]? = some (.executeNext, ticking u))
    (hu : Keeps Op.PlacesNothing (fun _ => True) u) (hb : b ∈ m'.out)
    (hj : c.tasks[j]? = some (l, .await q k)) (r : Except Err (platform.Ans q)) :
    Dropping b i ⟨s', c.tasks.set j (l, k r)⟩ m' := by
  obtain ⟨hlt, -⟩ := List.getElem?_eq_some_iff.mp hi
  by_cases hji : j = i
  · subst hji
    obtain ⟨rfl, hawait⟩ := Prod.mk.inj (Option.some.inj (hi.symm.trans hj))
    obtain ⟨k', rfl, rfl⟩ := ticking_await hawait
    exact .inr ⟨hb, k' r, List.getElem?_set_self hlt, hu.2 r⟩
  · exact .inr ⟨hb, u, (List.getElem?_set_ne hji).trans hi, hu⟩

/-- One step drops what is out with a tick that places nothing, or leaves it out with it. -/
theorem Dropping.step {b : BundleId} {i : Nat} {holder : Option Nat} (hone : OneTick cfg holder c)
    {ch : ProviderChoice} {c' : ProviderPool} (hch : ch ≠ .crash)
    (hs : (operated cfg fuel).step ch c = some c') (h : Dropping b i c m) :
    Dropping b i c' (ticks.after host c ch m) := by
  rcases h with hdropped | ⟨hout, u, hi, hu⟩
  · exact .inl (dropped_kept hdropped (.step ch .refl hch hs))
  obtain ⟨hlt, -⟩ := List.getElem?_eq_some_iff.mp hi
  have hheld : holder = some i := hone.holds hi
  rcases Machine.step_cases _ hs with ⟨l, rfl, -, rfl⟩ | ⟨j, l, t, rfl, ht, rfl⟩ |
    ⟨j, l, q, k, rfl, ht, rfl⟩ | ⟨j, l, q, k, e, rfl, ht, rfl⟩ | ⟨d, rfl, rfl⟩ | ⟨rfl, rfl⟩
  · exact .inr ⟨hout, u, (List.getElem?_append_left hlt).trans hi, hu⟩
  · simp only [Observer.after, ht]
    by_cases hji : j = i
    · subst hji
      obtain ⟨rfl, rfl⟩ := Prod.mk.inj (Option.some.inj (ht.symm.trans hi))
      exact Dropping.tick hi hu hout
    · refine .inr ⟨?_, u, (List.getElem?_set_ne hji).trans hi, hu⟩
      by_cases hl : l = .executeNext
      · subst hl
        have hne : holder ≠ some j := by rw [hheld]; exact fun h => hji (Option.some.inj h).symm
        rcases hone.outside j t hne ht with rfl | ⟨r, rfl⟩
        · have hread : (host.observe ticks .executeNext).runOp .isProcessing (c.state, m) =
              (true, c.state, m) := by
            have hflag := hone.flag
            rw [hheld] at hflag
            exact congrArg (·, c.state, m) hflag
          rw [executeNext_busy hread]
          exact hout
        · exact hout
      · exact Task.advance_keeps _ (P := fun p : State × Ticks => b ∈ p.2.out)
          (g := fun _ o => l.mayRun o) (fun p o hp ho => out_onOp hl ho hp) t (c.state, m) hout
          ((hone.footprint.at ht).opsRun _)
  · simp only [Observer.after, ht]
    refine .answer hi hu ?_ ht _
    rwa [show ticks.onServe l c.state q m = Ticks.onServe l q m from rfl, out_onServe]
  · exact .answer hi hu hout ht _
  · exact .inr ⟨hout, u, hi, hu⟩
  · exact absurd rfl hch

/-- What is out with a tick that failed for good is not queued again by the same
process, and dropped once that tick is over. -/
theorem failed_stays {b : BundleId} {i : Nat} (hboot : s.memory = .boot cfg)
    (h : Ticking cfg fuel s c m) (hfailed : FailedForGood cfg c i) (hb : b ∈ m.out)
    {c' : ProviderPool} {m' : Ticks}
    (h' : (operated cfg fuel).Observed ticks (fun _ ch => ch ≠ .crash) c m c' m') :
    b ∉ c'.state.memory.mempool.queuedIds ∧
      ∀ r, c'.tasks[i]? = some (.executeNext, .done r) → b ∈ m'.dropped := by
  have hidle : s.memory.isProcessing = false := by rw [hboot]; rfl
  have hdropping : Dropping b i c' m' := by
    induction h' with
    | refl =>
      obtain ⟨slot, error, log, rest, hfinal, hreaches, hi⟩ := hfailed
      exact .inr ⟨hb, rest, hi, (handleSlotFailure_final hfinal slot).reaches hreaches⟩
    | step ch hr hch hs ih =>
      obtain ⟨holder, hone⟩ := OneTick.run hidle (h.trans (hr.mono fun _ _ _ => trivial)).run
      exact ih.step hone hch hs
  have hrun := h.trans (h'.mono fun _ _ _ => trivial)
  obtain ⟨r, hholding⟩ := holding_reachable hboot hrun
  rcases hdropping with hdropped | ⟨hout, u, hi, -⟩
  · exact ⟨hholding.unqueued (List.mem_append_right _ hdropped), fun _ _ => hdropped⟩
  · refine ⟨hholding.unqueued (List.mem_append_left _ hout), fun r hdone => ?_⟩
    exact absurd (Prod.mk.inj (Option.some.inj (hi.symm.trans hdone))).2 (ticking_ne_done u r)

/-- **The retry bound.** For a bundle that is new at launch: since its last
admission no process pulled it more often than the maximum, its row never
counts more unless the verifier failed it, and what a tick has out or has
dropped is not queued, what it has dropped for as long as the process lives.
A tick whose slot failed for good puts nothing back: what it has out is never
queued again by that process, and dropped when the tick ends. -/
theorem retry_bound {b : BundleId} (hmax : 1 ≤ cfg.maxRetryAttempts) (hboot : s.memory = .boot cfg)
    (hnew : s.db.operationsBundles.find b = none) (h : Ticking cfg fuel s c m) :
    m.attempts.count b ≤ cfg.maxRetryAttempts ∧
      (b ∉ m.verifierFailed → ∀ row, c.state.db.operationsBundles.find b = some row →
        row.retryCount ≤ cfg.maxRetryAttempts) ∧
      (b ∈ m.out → b ∉ c.state.memory.mempool.queuedIds) ∧
      (b ∈ m.dropped → ∀ (c' : ProviderPool) (m' : Ticks),
        (operated cfg fuel).Observed ticks (fun _ ch => ch ≠ .crash) c m c' m' →
        b ∉ c'.state.memory.mempool.queuedIds) ∧
      (∀ i, FailedForGood cfg c i → b ∈ m.out → ∀ (c' : ProviderPool) (m' : Ticks),
        (operated cfg fuel).Observed ticks (fun _ ch => ch ≠ .crash) c m c' m' →
        b ∉ c'.state.memory.mempool.queuedIds ∧
          ∀ r, c'.tasks[i]? = some (.executeNext, .done r) → b ∈ m'.dropped) ∧
      ∀ slot : Slot, Keeps Op.PlacesNothing (fun _ => True) (expireSlotBundlesPastTtl slot) ∧
        Keeps Op.PlacesNothing (fun _ => True) (executeSlot cfg slot) ∧
        ∀ error : Err, error.IsFinal →
          Keeps Op.PlacesNothing (fun _ => True) (handleSlotFailure cfg slot error) := by
  obtain ⟨r, hr⟩ := (@kept_reachable _ _ (· = b) _ _ _ hboot
    (by rintro _ rfl; exact ⟨hnew, hmax⟩) h).holds
  have hbounded := hr.counting.bounded b rfl
  refine ⟨hbounded.attempts, hbounded.retryCount, fun hout => ?_, fun hdropped c' m' => ?_,
    fun i hfailed hout c' m' => ?_, fun slot => ⟨?_, ?_, ?_⟩⟩
  · exact hr.holding.unqueued (List.mem_append_left _ hout)
  · exact dropped_stays hboot h hdropped
  · exact failed_stays hboot h hfailed hout
  · exact expireSlotBundlesPastTtl_keeps permits_placesNothing.toAnnounces (fun _ => trivial) slot
  · exact executeSlot_keeps ⟨permits_placesNothing, fun _ _ => trivial, fun _ _ => trivial,
      fun _ => trivial⟩ (fun _ _ _ => trivial) cfg slot
  · exact fun error hfinal => handleSlotFailure_final hfinal slot

end Bound

namespace Small

/-- The network fails a tick, which queues its bundle again; the next one pulls it. -/
def retried : List ProviderChoice :=
  pulled ++ [.reject 2 (.database "down")] ++ serves 2 6 ++
    [.resume 2, .start .executeNext, .resume 3]

def underfunded : Err := .insufficientFees ⟨"GPP", 0, 1, 1⟩

/-- The fee payer cannot pay for the tick. -/
def overdrawn : List ProviderChoice := pulled ++ [.reject 2 underfunded]

end Small

theorem retry_bound_small :
    (∃ (c : ProviderPool) (m : Ticks), Ticking Small.config 1 Small.state c m ∧
      m.attempts = ["deposit 10", "deposit 10"] ∧ m.attempts.count "deposit 10" ≤ 3) ∧
    ∃ (c : ProviderPool) (m : Ticks), Ticking Small.config 1 Small.state c m ∧
      m.out = ["deposit 10"] ∧ FailedForGood Small.config c 2 ∧
      ∀ (c' : ProviderPool) (m' : Ticks),
        (operated Small.config 1).Observed ticks (fun _ ch => ch ≠ .crash) c m c' m' →
        "deposit 10" ∉ c'.state.memory.mempool.queuedIds := by
  have hnew : Small.state.db.operationsBundles.find "deposit 10" = none := by decide
  constructor
  · have hwatch : ((operated Small.config 1).watch ticks Machine.Free Small.retried
        ((operated Small.config 1).init Small.state) ⟨[], [], [], []⟩).map
          (fun r => r.2.attempts == ["deposit 10", "deposit 10"]) = some true := by
      decide +kernel
    obtain ⟨c, m, h, hp⟩ := Machine.exists_observed Small.retried
      (fun _ (m : Ticks) => m.attempts == ["deposit 10", "deposit 10"]) hwatch
    exact ⟨c, m, h, eq_of_beq hp, (retry_bound (by decide) rfl hnew h).1⟩
  · have hhandler : ∃ slot, ((operated Small.config 1).watch ticks Machine.Free Small.overdrawn
        ((operated Small.config 1).init Small.state) ⟨[], [], [], []⟩).bind
          (fun r => r.1.tasks[2]?) =
            some (.executeNext, ticking (handleSlotFailure Small.config slot Small.underfunded)) :=
      ⟨_, rfl⟩
    obtain ⟨slot, hslot⟩ := hhandler
    obtain ⟨⟨c, m⟩, hwatch, htask⟩ := Option.bind_eq_some_iff.mp hslot
    have hout : ((operated Small.config 1).watch ticks Machine.Free Small.overdrawn
        ((operated Small.config 1).init Small.state) ⟨[], [], [], []⟩).map
          (fun r => r.2.out == ["deposit 10"]) = some true := by decide +kernel
    rw [hwatch] at hout
    have hm : m.out = ["deposit 10"] := eq_of_beq (Option.some.inj hout)
    have h := Machine.watch_observed (M := operated Small.config 1) .refl hwatch
    have hfailed : FailedForGood Small.config c 2 :=
      ⟨slot, _, [], _, .inl ⟨_, rfl⟩, .refl, htask⟩
    refine ⟨c, m, h, hm, hfailed, fun c' m' h' => ?_⟩
    exact ((retry_bound (by decide) rfl hnew h).2.2.2.2.1 2 hfailed (by simp [hm]) c' m' h').1

end ProviderPlatform
