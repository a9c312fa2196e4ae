import ProviderPlatform.Lifecycle.RetryCount

/-! # What the calls do with the bundles they have

Each call of a provider keeps who holds a bundle and how often it was tried,
with the tokens it takes, passes on and leaves. -/
namespace ProviderPlatform
open Async Store

/-! ## The discipline -/

/-- Operations that queue and pull nothing, and start and end nothing. -/
def Op.Fading : Op → Prop
  | .place _ | .removeFirstSlot | .setStarted | .setProcessing _ => False
  | _ => True

/-- Both invariants. -/
structure Kept (cfg : Config) (tracked : BundleId → Prop) (p : State × Ticks) (r : Holds) :
    Prop where
  holding : Holding p.1 p.2 r
  counting : Counting cfg p.1 p.2 tracked r

/-- The invariants are kept; the services make their calls once the mempool
system has started. -/
def keeping (cfg : Config) (tracked : BundleId → Prop) (l : Call) :
    Discipline platform (State × Ticks) Holds where
  inv := Kept cfg tracked
  mayRun p _ := l.isService = true → p.1.memory.started = true
  mayServe p _ := l.isService = true → p.1.memory.started = true
  mayReject _ _ := True

theorem permits_fading (l : Call) : Permits Op.Fading (Req.Fading l) where
  query _ := trivial
  rpc _ := trivial
  now := trivial
  emit _ _ := trivial
  isDisabled _ := trivial

theorem mayExpire_fading {l : Call} (id : BundleId) :
    (Req.command (.updateBundle id { status := some .expired })).Fading l :=
  ⟨.inl rfl, .inl rfl⟩

section Triples
variable {α : Type} {l : Call} {cfg : Config} {tracked : BundleId → Prop} {own own' : Holds}
  {s : State} {m : Ticks} {r f : Holds}

theorem Kept.runOp {o : Op} (ho : o.Fading) (h : Kept cfg tracked (s, m) r) :
    Kept cfg tracked ((host.observe ticks l).runOp o (s, m)).2 r := by
  have hm : Ticks.onOp l s o m = m := by cases o <;> first | rfl | exact ho.elim
  have hstill : o.Still := by cases o <;> first | exact ho | trivial
  show Kept cfg tracked ((ProviderPlatform.runOp o s).2, Ticks.onOp l s o m) r
  rw [hm]
  constructor
  · exact h.holding.still (runOp_still hstill s) rfl rfl (List.Subset.refl _)
  · apply h.counting.fades
    · exact fun id hid => Multiset.mem_of_le (runOp_still hstill s).queuedIds hid
    · intro id _
      apply fades_same (by rw [runOp_db]) rfl fun h => h

theorem Kept.serve {q : Req} (hq : q.Fading l) (h : Kept cfg tracked (s, m) r) :
    Kept cfg tracked ((host.observe ticks l).serve q (s, m)).2 r := by
  obtain ⟨hout, hdropped, hattempts, -⟩ := onServe_fading hq m
  show Kept cfg tracked ((ProviderPlatform.serve q s).2, Ticks.onServe l q m) r
  constructor
  · exact h.holding.still (serve_still q s) hout hdropped (hattempts ▸ List.Subset.refl _)
  · apply h.counting.fades
    · exact fun id hid => Multiset.mem_of_le (serve_still q s).queuedIds hid
    · exact fun id _ => serve_fades hq s m id

theorem kept_passes (l : Call) : Task.Passes (host.observe ticks l) (keeping cfg tracked l) Op.Fading
    (Req.Fading l) where
  run _ ho _ _ h _ := Kept.runOp ho h
  serve _ hq _ _ h _ := Kept.serve hq h

theorem kept_yields {t : Promise α} {Q : α → Prop} (ht : Keeps Op.Fading (Req.Fading l) t)
    (hy : t.Yields Q) (own : Holds) :
    Task.Triple (host.observe ticks l) (keeping cfg tracked l) own t
      fun r o => o = own ∧ ∀ a, r = .ok a → Q a :=
  (kept_passes l).yields ht hy own

theorem kept_uses {t : Promise α} (ht : Keeps Op.Fading (Req.Fading l) t) (own : Holds) :
    Task.Triple (host.observe ticks l) (keeping cfg tracked l) own t fun _ o => o = own :=
  (kept_passes l).uses ht own

/-! ## Queueing -/

theorem addBundle_kept {bundle : SlotBundle} {P : Holds → Prop} (hown : P own)
    (hplace : Task.Triple (host.observe ticks l) (keeping cfg tracked l) own (run (.place bundle))
      fun _ o => P o) :
    Task.Triple (host.observe ticks l) (keeping cfg tracked l) own (Mempool.addBundle cfg bundle)
      fun _ o => P o :=
  addBundle_owned (kept_passes l) (permits_fading l).toAnnounces mayExpire_fading (fun _ => rfl)
    (fun _ => trivial) hown hplace

/-- An admission or the boot queues a bundle. -/
theorem place_fresh (hl : l ≠ .executeNext) (bundle : SlotBundle) :
    Task.Triple (host.observe ticks l) (keeping cfg tracked l) {.fresh bundle.bundleId}
      (run (.place bundle)) fun _ _ => True := by
  apply Task.Triple.op
  rintro ⟨s, m⟩ f ⟨hh, hc⟩ -
  have hm : Ticks.onOp l s (.place bundle) m = m := if_neg hl
  refine ⟨0, trivial, ?_⟩
  rw [zero_add]
  show Kept cfg tracked ((ProviderPlatform.runOp (.place bundle) s).2,
    Ticks.onOp l s (.place bundle) m) f
  rw [hm]
  constructor
  · apply hh.place rfl rfl rfl (fun h => h) ?_ ?_ rfl
    · have hout := hh.out
      rw [pulled_add, pulled_singleton] at hout
      exact hout.trans (le_of_eq (zero_add _))
    · have htick := hh.tick
      rw [running_add, running_singleton] at htick
      exact (zero_add _).symm.trans htick
  · exact hc.place rfl (fun h => h) rfl rfl

/-- What the running tick has out, besides a bundle it puts back. -/
def Places (ids : List BundleId) (o : Holds) : Prop :=
  ∃ out rest, o = {.running out} + rest ∧ ids ⊆ out

/-- The running tick puts a bundle back. -/
theorem place_ready (bundle : SlotBundle) {out ids : List BundleId}
    (hout : bundle.bundleId :: ids ⊆ out) (hnot : bundle.bundleId ∉ ids) :
    Task.Triple (host.observe ticks .executeNext) (keeping cfg tracked .executeNext)
      ({.running out} + {.ready bundle.bundleId}) (run (.place bundle)) fun _ => Places ids := by
  apply Task.Triple.op
  rintro ⟨s, m⟩ f ⟨hh, hc⟩ -
  obtain ⟨hmem, hids⟩ := List.cons_subset.mp hout
  have hm : Ticks.onOp .executeNext s (.place bundle) m =
      { m with out := m.out.erase bundle.bundleId } := by simp [Ticks.onOp]
  refine ⟨{.running (out.erase bundle.bundleId)}, ⟨_, 0, (add_zero _).symm, ?_⟩, ?_⟩
  · intro id hid
    refine (List.mem_erase_of_ne ?_).mpr (hids hid)
    rintro rfl
    exact hnot hid
  show Kept cfg tracked ((ProviderPlatform.runOp (.place bundle) s).2,
    Ticks.onOp .executeNext s (.place bundle) m) ({.running (out.erase bundle.bundleId)} + f)
  rw [hm]
  refine ⟨hh.putBack hmem, ?_⟩
  rw [add_assoc, add_left_comm] at hc
  have hplaced : Counting cfg (ProviderPlatform.runOp (.place bundle) s).2
      { m with out := m.out.erase bundle.bundleId } tracked ({.running out} + f) :=
    hc.place rfl (fun h => h) rfl rfl
  exact (hplaced.subset (Multiset.subset_of_le (Multiset.le_add_left _ _))).running _

/-- The bundles that are still to be put back. -/
def ToPlace (bundles : List SlotBundle) (o : Holds) : Prop :=
  (bundles.map (·.bundleId)).Nodup ∧ ∃ out rest,
    o = {.running out} + each .ready (bundles.map (·.bundleId)) + rest ∧
      bundles.map (·.bundleId) ⊆ out

theorem reAddBundles_kept {bundles : List SlotBundle} (h : ToPlace bundles own) :
    Task.Triple (host.observe ticks .executeNext) (keeping cfg tracked .executeNext) own
      (Mempool.reAddBundles cfg bundles) fun _ => ToPlace [] := by
  apply (Task.Triple.forEach_inv (J := ToPlace) ?_ bundles own h).mono fun _ _ ho => ho.2
  rintro bundle bundles _ ⟨hnodup, out, rest, rfl, hout⟩
  rw [List.map_cons] at hnodup hout
  obtain ⟨hnot, hnodup⟩ := List.nodup_cons.mp hnodup
  have hplace : Task.Triple (host.observe ticks .executeNext) (keeping cfg tracked .executeNext)
      ({.running out} + {.ready bundle.bundleId}) (Mempool.addBundle cfg bundle) fun _ =>
        Places (bundles.map (·.bundleId)) := by
    apply addBundle_kept ?_ (place_ready bundle hout hnot)
    exact ⟨out, _, rfl, fun id hid => hout (List.mem_cons_of_mem _ hid)⟩
  have hsplit : ({.running out} : Holds) + each .ready ((bundle :: bundles).map (·.bundleId)) +
      rest = {.running out} + {.ready bundle.bundleId} +
        (each .ready (bundles.map (·.bundleId)) + rest) := by
    rw [List.map_cons, each_cons, add_assoc, add_assoc, add_assoc]
  have hleft {o : Holds} (ho : ∃ o', Places (bundles.map (·.bundleId)) o' ∧
      o = o' + (each .ready (bundles.map (·.bundleId)) + rest)) : ToPlace bundles o := by
    obtain ⟨_, ⟨out', rest', rfl, hout'⟩, rfl⟩ := ho
    refine ⟨hnodup, out', rest' + rest, ?_, hout'⟩
    abel
  rw [hsplit]
  apply (hplace.frame _).recover
  · exact fun _ o ho => ⟨rfl, hleft ho⟩
  · exact fun _ o ho => .done ⟨rfl, hleft ho⟩

/-! ## The executor -/

/-- What a result of a failed execution may queue again. -/
def readyFor (result : Option ExecutionFailureResult) : Holds :=
  (result.map fun m => ({.ready m.bundleId} : Holds)).getD 0

theorem Kept.read {id : BundleId} {row : OperationsBundle}
    (h : Kept cfg tracked (s, m) ({.taken id} + f))
    (hrow : (Query.findBundleById id).run s.db = some row) :
    Kept cfg tracked (s, m) ({.reads id row.retryCount} + f) := by
  obtain ⟨hh, hc⟩ := h
  have hfind : s.db.operationsBundles.find id = some row := by
    simp only [Query.run, Option.filter_eq_some_iff] at hrow
    exact hrow.1
  have hnot : .boot ∉ {.taken id} + f := hh.not_boot (t := .taken id) (by simp) (by simp)
  refine ⟨?_, hc.read hh hfind⟩
  apply hh.exchange (fun hmem => hnot (Multiset.mem_add.mpr (.inr hmem)))
  · simp [Hold.ids]
  · simp [Hold.pulledIds]
  · simp [Hold.acceptedIds]
  · simp [Hold.runningIds]
  · simp

/-- The gated update of a bundle whose row was read. -/
theorem Kept.settle {id : BundleId} {k : Nat} {t : Hold} {data : OperationsBundlePatch}
    (h : Kept cfg tracked (s, m) ({.reads id k} + f)) (hids : t.ids = [id])
    (hpulled : t.pulledIds = [id])
    (hc : Counting cfg (ProviderPlatform.serve
      (.command (.updateIfStatusIn id data BundleStatus.active)) s).2 m tracked ({t} + f)) :
    Kept cfg tracked ((host.observe ticks .executeNext).serve
      (.command (.updateIfStatusIn id data BundleStatus.active)) (s, m)).2 ({t} + f) := by
  have hh := h.holding
  have hnot : .boot ∉ {.reads id k} + f := hh.not_boot (t := .reads id k) (by simp) (by simp)
  refine ⟨?_, hc⟩
  apply Holding.still ?_ (serve_still _ s) rfl rfl (List.Subset.refl _)
  apply hh.exchange (fun hmem => hnot (Multiset.mem_add.mpr (.inr hmem)))
  · rw [held_singleton, held_singleton, hids]
    rfl
  · rw [pulled_singleton, pulled_singleton, hpulled]
    rfl
  · rw [accepted_singleton, accepted_singleton, acceptedIds_of_ids hids]
    rfl
  · rw [running_singleton, running_singleton, runningIds_of_ids hids]
    rfl
  · intro hmem
    exact ne_boot_of_ids hids (Multiset.mem_singleton.mp hmem).symm

theorem failRow_kept {id : BundleId} {k : Nat} {data : OperationsBundlePatch}
    (hstatus : data.status = some .failed) (hcount : data.retryCount = some (k + 1)) :
    Task.Triple (host.observe ticks .executeNext) (keeping cfg tracked .executeNext) {.reads id k}
      (command (.updateIfStatusIn id data BundleStatus.active)) fun _ _ => True := by
  apply Task.Triple.call
  · rintro ⟨s, m⟩ f hi -
    exact ⟨{.spent id}, trivial, Kept.settle hi rfl rfl
      (hi.counting.fail hi.holding hstatus hcount)⟩
  · exact fun p f hi _ e => ⟨_, trivial, hi⟩

/-- A bundle whose row takes the update may be queued again. -/
theorem retryRow_kept {id : BundleId} {k : Nat} {data : OperationsBundlePatch}
    (hcount : data.retryCount = some (k + 1)) (hlt : k + 1 < cfg.maxRetryAttempts) :
    Task.Triple (host.observe ticks .executeNext) (keeping cfg tracked .executeNext) {.reads id k}
      (command (.updateIfStatusIn id data BundleStatus.active))
      fun r o => r = .ok true → o = {.ready id} := by
  apply Task.Triple.call
  · rintro ⟨s, m⟩ f hi -
    cases hanswer : (ProviderPlatform.serve
        (.command (.updateIfStatusIn id data BundleStatus.active)) s).1 with
    | error e => cases hanswer
    | ok updated =>
      cases updated with
      | true =>
        exact ⟨{.ready id}, fun _ => rfl, Kept.settle hi rfl rfl
          (hi.counting.retry hi.holding hcount hlt hanswer)⟩
      | false =>
        refine ⟨{.reads id k}, fun he => ?_, Kept.settle hi rfl rfl (hi.counting.refused hanswer)⟩
        have hne := hanswer.symm.trans he
        cases hne
  · exact fun p f hi _ e => ⟨_, nofun, hi⟩

theorem findBundleById_kept (id : BundleId) :
    Task.Triple (host.observe ticks .executeNext) (keeping cfg tracked .executeNext) {.taken id}
      (query (.findBundleById id)) fun r o => ∀ row : OperationsBundle,
        r = .ok (some row) → o = {.reads id row.retryCount} := by
  apply Task.Triple.call
  · rintro ⟨s, m⟩ f hi -
    cases hrow : (Query.findBundleById id).run s.db with
    | none =>
      refine ⟨{Hold.taken id}, fun row he => ?_, hi⟩
      have he : (Query.findBundleById id).run s.db = some row := Except.ok.inj he
      rw [hrow] at he
      cases he
    | some row =>
      refine ⟨{Hold.reads id row.retryCount}, fun row' he => ?_, Kept.read hi hrow⟩
      have he : (Query.findBundleById id).run s.db = some row' := Except.ok.inj he
      rw [hrow] at he
      cases he
      rfl
  · exact fun p f hi _ e => ⟨_, fun _ => nofun, hi⟩

/-- Only a bundle whose row took the update is a result. -/
theorem failBundleExecution_kept (error : Err) (reason : FailureReason) (id : BundleId) :
    Task.Triple (host.observe ticks .executeNext) (keeping cfg tracked .executeNext) {.taken id}
      (failBundleExecution cfg error reason id)
      fun r o => ∀ y, r = .ok y → ∃ rest, o = readyFor y + rest := by
  have hnothing {o : Holds} : Task.Triple (host.observe ticks .executeNext)
      (keeping cfg tracked .executeNext) o (pure none)
      fun r o => ∀ y, r = .ok y → ∃ rest, o = readyFor y + rest := by
    apply Task.Triple.done
    rintro y ⟨⟩
    exact ⟨o, (zero_add o).symm⟩
  apply Task.Triple.recover (B := fun r o => ∀ y, r = .ok y → ∃ rest, o = readyFor y + rest)
  · apply (findBundleById_kept id).bind
    · intro bundle o ho
      cases bundle with
      | none => exact hnothing
      | some row =>
        rw [ho row rfl]
        dsimp only
        split
        · apply (failRow_kept rfl rfl).bind
          · exact fun _ _ _ => hnothing
          · exact fun _ _ _ _ => nofun
        · rename_i hmax
          have hlt : row.retryCount + 1 < cfg.maxRetryAttempts := by
            simpa [failureDeps] using (Bool.or_eq_false_iff.mp (Bool.eq_false_iff.mpr hmax)).2
          apply (retryRow_kept rfl hlt).bind
          · intro updated o ho
            cases updated with
            | false => exact hnothing
            | true =>
              rw [ho rfl]
              apply Task.Triple.done
              rintro y ⟨⟩
              exact ⟨0, (add_zero _).symm⟩
          · exact fun _ _ _ _ => nofun
    · exact fun _ _ _ _ => nofun
  · exact fun _ _ ho => ho
  · exact fun _ _ _ => hnothing

theorem handleExecutionFailure_kept (error : Err) (ids : List BundleId) (reason : FailureReason) :
    Task.Triple (host.observe ticks .executeNext) (keeping cfg tracked .executeNext)
      (each .taken ids) (handleExecutionFailure cfg error ids reason)
      fun r o => ∀ metas, r = .ok metas → each .ready (metas.map (·.bundleId)) ≤ o := by
  have hids : each .taken ids = (ids.map fun id => ({.taken id} : Holds)).sum := by
    rw [sum_each .taken fun id => id, List.map_id']
  rw [hids]
  apply Task.Triple.bind (Task.Triple.collect_rest fun id _ =>
    failBundleExecution_kept error reason id)
  · intro results o ho
    obtain ⟨rest, rfl⟩ := ho results rfl
    apply Task.Triple.done
    rintro metas ⟨⟩
    have hready : (results.map readyFor).sum =
        each .ready ((results.filterMap id).map (·.bundleId)) := by
      rw [← sum_each]
      exact sum_map_filterMap (fun m : ExecutionFailureResult => ({.ready m.bundleId} : Holds)) results
    rw [hready]
    exact Multiset.le_add_right _ _
  · exact fun _ _ _ _ => nofun

/-- What is retried is among the results. -/
theorem buildRetryBundles_subperm {slot : Slot} (metaList : List ExecutionFailureResult)
    (hnodup : (slot.bundles.map (·.bundleId)).Nodup) :
    ((buildRetryBundles slot metaList).map (·.bundleId)).Subperm
      (metaList.map (·.bundleId)) := by
  apply List.subperm_of_subset ((buildRetryBundles_ids slot metaList).nodup hnodup)
  intro id hid
  obtain ⟨b', hb', rfl⟩ := List.mem_map.mp hid
  obtain ⟨b, -, hmade⟩ := List.mem_filterMap.mp hb'
  obtain ⟨result, hresult, rfl⟩ := Option.map_eq_some_iff.mp hmade
  have hmem := List.mem_reverse.mp (List.mem_of_find?_eq_some hresult)
  have hsame : result.bundleId = b.bundleId := by simpa using List.find?_some hresult
  exact List.mem_map.mpr ⟨result, hmem, hsame⟩

/-- The task of the running tick. -/
def IsRunning (o : Holds) : Prop := ∃ out, .running out ∈ o

theorem isRunning_add {out : List BundleId} (rest : Holds) : IsRunning ({.running out} + rest) :=
  ⟨out, by simp⟩

theorem handleSlotFailure_kept {slot : Slot} (error : Err) {out : List BundleId}
    (hnodup : (slot.bundles.map (·.bundleId)).Nodup)
    (hout : slot.bundles.map (·.bundleId) ⊆ out) :
    Task.Triple (host.observe ticks .executeNext) (keeping cfg tracked .executeNext)
      ({.running out} + each .taken (slot.bundles.map (·.bundleId)))
      (handleSlotFailure cfg slot error) fun _ => IsRunning := by
  have h := permits_fading .executeNext
  have hemit (ids : List BundleId) : Keeps Op.Fading (Req.Fading .executeNext)
      (emitExecutionFailed slot ids error) := emitExecutionFailed_keeps h slot ids error
  unfold handleSlotFailure
  split
  · rename_i detail
    have hfail : Keeps Op.Fading (Req.Fading .executeNext) (Task.forEach (I := platform)
        (failInsufficientFees detail) (slot.getBundles.map (·.bundleId))) :=
      Task.Uses.forEach fun id _ => Task.Uses.recover
        ((keeps_command ⟨.inr (.inr rfl), .inl rfl⟩).bind fun _ => keeps_pure _) fun _ => keeps_pure _
    apply (kept_uses (hfail.bind fun _ => hemit _) _).mono
    rintro _ _ rfl
    exact isRunning_add _
  · apply (kept_passes _).bind (keeps_run h.now)
    · intro now
      apply (kept_passes _).bind (hemit _)
      · intro _
        rw [add_comm]
        apply ((handleExecutionFailure_kept error _ _).frame _).bind
        · rintro metas _ ⟨o, ho, rfl⟩
          have hsub := buildRetryBundles_subperm metas hnodup
          obtain ⟨rest, rfl⟩ := Multiset.le_iff_exists_add.mp ((each_le hsub).trans (ho metas rfl))
          rw [add_comm, ← add_assoc]
          dsimp only
          split
          · apply (@reAddBundles_kept cfg tracked _ _ ⟨?_, out, rest, rfl, ?_⟩).mono
            · rintro _ _ ⟨-, out', rest', rfl, -⟩
              rw [add_assoc]
              exact isRunning_add _
            · exact (buildRetryBundles_ids slot metas).nodup hnodup
            · exact fun id hid => hout ((buildRetryBundles_ids slot metas).subset hid)
          · rw [add_assoc]
            exact .done (isRunning_add _)
        · rintro _ _ ⟨o, -, rfl⟩
          rw [add_comm]
          exact isRunning_add _
      · exact fun _ => isRunning_add _
    · exact fun _ => isRunning_add _

theorem executeSlot_fading (slot : Slot) :
    Keeps Op.Fading (Req.Fading .executeNext) (executeSlot cfg slot) :=
  executeSlot_keeps ⟨permits_fading _, fun _ _ => trivial, fun _ _ => trivial, fun _ => trivial⟩
    (fun _ _ _ => trivial) cfg slot

theorem processSlot_kept {pulled : Slot} {out : List BundleId}
    (hnodup : (pulled.bundles.map (·.bundleId)).Nodup)
    (hout : pulled.bundles.map (·.bundleId) ⊆ out) :
    Task.Triple (host.observe ticks .executeNext) (keeping cfg tracked .executeNext)
      ({.running out} + each .taken (pulled.bundles.map (·.bundleId))) (processSlot cfg pulled)
      fun _ => IsRunning := by
  have hexpire : Keeps Op.Fading (Req.Fading .executeNext) (expireSlotBundlesPastTtl pulled) :=
    expireSlotBundlesPastTtl_keeps (permits_fading _).toAnnounces (fun _ => rfl) pulled
  apply Task.Triple.bind (kept_yields hexpire (expireSlotBundlesPastTtl_yields pulled) _)
  · rintro slot o ⟨rfl, hsub⟩
    have hids := (hsub slot rfl).map (·.bundleId)
    split
    · exact .done (isRunning_add _)
    · apply Task.Triple.recover (kept_uses (executeSlot_fading slot) _)
      · rintro _ _ rfl
        exact isRunning_add _
      · rintro error _ rfl
        obtain ⟨rest, hrest⟩ := Multiset.le_iff_exists_add.mp (each_le (f := .taken) hids.subperm)
        rw [hrest, ← add_assoc]
        have hfail := @handleSlotFailure_kept cfg tracked _ error _
          (hids.nodup hnodup) (List.Subset.trans hids.subset hout)
        apply (hfail.frame rest).mono
        rintro _ _ ⟨o, ⟨out', hmem⟩, rfl⟩
        exact ⟨out', Multiset.mem_add.mpr (.inl hmem)⟩
  · rintro _ _ ⟨rfl, -⟩
    exact isRunning_add _

theorem removeFirstSlot_kept {out : List BundleId} :
    Task.Triple (host.observe ticks .executeNext) (keeping cfg tracked .executeNext)
      {.running out} (run .removeFirstSlot) fun r o => IsRunning o ∧ ∀ slot, r = .ok (some slot) →
        (slot.bundles.map (·.bundleId)).Nodup ∧ ∃ out,
          o = {.running out} + each .taken (slot.bundles.map (·.bundleId)) ∧
            slot.bundles.map (·.bundleId) ⊆ out := by
  apply Task.Triple.op
  rintro ⟨s, m⟩ f ⟨hh, hc⟩ -
  have hpulled := (hc.pull hh).subset (b := each .taken s.firstIds + f)
    (Multiset.subset_of_le (add_le_add_right (Multiset.le_add_left _ _) _))
  refine ⟨_, ⟨isRunning_add _, fun slot he => ?_⟩, hh.pull, ?_⟩
  swap
  · rw [add_assoc]
    exact hpulled.running _
  have he : s.memory.mempool.removeFirstSlot.1 = some slot := Except.ok.inj he
  have hids : s.firstIds = slot.bundles.map (·.bundleId) := by
    rw [State.firstIds, he]
    rfl
  have honce := hh.once
  rw [State.occupied, queuedIds_pull, hids, ← Multiset.coe_add, add_assoc] at honce
  exact ⟨Multiset.coe_nodup.mp (Multiset.nodup_add.mp honce).1, _, by rw [hids],
    List.subset_append_left _ _⟩

theorem tick_kept {out : List BundleId} :
    Task.Triple (host.observe ticks .executeNext) (keeping cfg tracked .executeNext)
      {.running out}
      (do
        let slot : Option Slot ← run .removeFirstSlot
        match slot with
        | none => pure ()
        | some slot => if slot.isEmpty then pure () else processSlot cfg slot)
      fun _ => IsRunning := by
  apply removeFirstSlot_kept.bind
  · rintro slot o ⟨hrunning, ho⟩
    cases slot with
    | none => exact .done hrunning
    | some slot =>
      obtain ⟨hnodup, out, rfl, hout⟩ := ho slot rfl
      dsimp only
      split
      · exact .done hrunning
      · exact processSlot_kept hnodup hout
  · exact fun _ _ ho => ho.1

/-- One tick at a time, which puts back what it took or leaves it out. -/
theorem executeNext_kept :
    Task.Triple (host.observe ticks .executeNext) (keeping cfg tracked .executeNext) 0
      (executeNext cfg) fun _ _ => True := by
  rintro ⟨s, m⟩ f ⟨hh, hc⟩ hmay
  rw [zero_add] at hh hc
  change Task.wp _ _ (if s.memory.isProcessing then _ else _) _ (s, m) f
  split
  · exact ⟨0, trivial, by rw [zero_add]; exact ⟨hh, hc⟩⟩
  rename_i hidle
  intro _
  have hidle : s.memory.isProcessing = false := by simpa using hidle
  have hstart : Kept cfg tracked ((ProviderPlatform.runOp (.setProcessing true) s).2, m)
      ({.running m.out} + f) := by
    refine ⟨hh.start hidle (hmay rfl), (hc.fades ?_ ?_).running _⟩
    · exact fun _ hid => hid
    · exact fun _ _ => fades_same rfl rfl fun h => h
  refine (Task.Triple.ensure_own tick_kept ?_) _ f hstart
  rintro r own ⟨s, m⟩ f ⟨out, hmem⟩ ⟨hh, hc⟩ -
  obtain ⟨rest, rfl⟩ := Multiset.exists_cons_of_mem hmem
  rw [← Multiset.singleton_add, add_assoc] at hh hc
  refine ⟨rest, trivial, hh.stop, (hc.fades ?_ ?_).subset ?_⟩
  · exact fun _ hid => hid
  · exact fun _ _ => fades_same rfl rfl fun h => h
  · exact Multiset.subset_of_le (Multiset.le_add_left _ _)

/-! ## Admission -/

/-- The task whose request inserted the row may queue the bundle. -/
def BundleAdmitted (id : BundleId) : Except Err (Written OperationsBundle) → Holds → Prop
  | .ok (.row row), o => row.id = id ∧ o = {.fresh id} + {.accepted id}
  | _, _ => True

theorem createBundle_kept (hl : l.isService = true)
    (hmax : ∀ id, tracked id → 0 < cfg.maxRetryAttempts) (data : NewOperationsBundle) :
    Task.Triple (host.observe ticks l) (keeping cfg tracked l) 0 (command (.createBundle data))
      fun r o => ∀ row, r = .ok row →
        row.id = data.id ∧ o = {.fresh data.id} + {.accepted data.id} := by
  apply Task.Triple.call
  · rintro ⟨s, m⟩ f hi hmay
    rw [zero_add] at hi
    obtain ⟨hh, hc⟩ := hi
    have hstill := serve_still (.command (.createBundle data)) s
    have hstarted : s.memory.started = true := hmay hl
    rcases serve_createBundle data s with ⟨hnone, hanswer, hfind⟩ | ⟨-, hanswer, hsame⟩
    · have hnorow : ¬ s.HasRow data.id := by simp [State.HasRow, hnone]
      have hrow : (serve (.command (.createBundle data)) s).2.HasRow data.id := by
        rw [State.HasRow, hfind, if_pos rfl]
        rfl
      refine ⟨{.fresh data.id} + {.accepted data.id}, fun row he => ?_, ?_, ?_⟩
      · have he : data.row s.clock = row := Except.ok.inj (hanswer.symm.trans he)
        exact ⟨by rw [← he, NewOperationsBundle.row_id], rfl⟩
      · exact hh.admit (hh.not_boot_of_started hstarted) hstill hnorow hrow
      · exact hc.admit hh hnorow rfl (hmax _) rfl hfind
    · refine ⟨0, fun row he => ?_, ?_⟩
      · cases hanswer.symm.trans he
      · show Kept cfg tracked ((serve (.command (.createBundle data)) s).2, m) (0 + f)
        rw [hsame, zero_add]
        exact ⟨hh, hc⟩
  · exact fun p f hi _ e => ⟨0, fun _ he => (by cases he), hi⟩

theorem resetBundle_kept {input : BundleRequest} {id : BundleId} {data : OperationsBundlePatch}
    (hmax : ∀ id, tracked id → 0 < cfg.maxRetryAttempts) (hstatus : data.status = some .pending)
    (hcount : data.retryCount = some 0) :
    Task.Triple (host.observe ticks (.addOperationsBundle input))
      (keeping cfg tracked (.addOperationsBundle input)) own (command (.updateBundle id data))
      fun _ o => o = own := by
  apply Task.Triple.call
  · rintro ⟨s, m⟩ f ⟨hh, hc⟩ -
    have hm : Ticks.onServe (.addOperationsBundle input) (.command (.updateBundle id data)) m =
        { m with attempts := m.attempts.filter (· != id) } := by
      simp only [Ticks.onServe, hstatus]
    refine ⟨own, rfl, ?_⟩
    show Kept cfg tracked ((serve (.command (.updateBundle id data)) s).2,
      Ticks.onServe (.addOperationsBundle input) (.command (.updateBundle id data)) m) (own + f)
    rw [hm]
    exact ⟨hh.still (serve_still _ s) rfl rfl fun _ hid => (List.mem_filter.mp hid).1,
      hc.reset hcount (hmax id)⟩
  · exact fun p f hi _ e => ⟨own, rfl, hi⟩

theorem persistBundle_kept (hmax : ∀ id, tracked id → 0 < cfg.maxRetryAttempts)
    (input : BundleRequest) (adm : Admission) :
    Task.Triple (host.observe ticks (.addOperationsBundle input))
      (keeping cfg tracked (.addOperationsBundle input)) 0 (persistBundle input adm)
      (BundleAdmitted adm.bundleId) := by
  unfold persistBundle
  split
  · apply (resetBundle_kept hmax rfl rfl).bind
    · exact fun _ _ _ => .done trivial
    · exact fun _ _ _ => trivial
  · apply (kept_passes _).bind (keeps_run (permits_fading (.addOperationsBundle input)).now)
    · intro now
      apply (createBundle_kept rfl hmax _).bind
      · exact fun row o ho => .done (ho row rfl)
      · exact fun _ _ _ => trivial
    · exact fun _ => trivial

theorem enqueueBundle_kept (input : BundleRequest) (adm : Admission)
    {entity : Written OperationsBundle} (hown : BundleAdmitted adm.bundleId (.ok entity) own) :
    Task.Triple (host.observe ticks (.addOperationsBundle input))
      (keeping cfg tracked (.addOperationsBundle input)) own (enqueueBundle cfg input adm entity)
      fun r o => r = .ok () → .accepted adm.bundleId ∈ o := by
  have h := permits_fading (.addOperationsBundle input)
  have hcreates : Keeps Op.Fading (Req.Fading (.addOperationsBundle input))
      (persistCreateOperations adm.classified.create (entity.get (·.id)) adm.accountId) :=
    persistCreateOperations_keeps h.toReads (fun _ => trivial) _ _ _
  have hspends : Keeps Op.Fading (Req.Fading (.addOperationsBundle input))
      (persistSpendOperations adm.classified.spend (entity.get (·.id)) adm.accountId
        adm.channelClient input.channelContractId) :=
    persistSpendOperations_keeps h.toReads (fun _ _ => trivial) _ _ _ _ _
  apply (kept_passes _).bind hcreates
  · intro _
    apply (kept_passes _).bind hspends
    · intro _
      apply (kept_passes _).bind (keeps_run h.now)
      · intro now
        apply Task.Triple.bind (kept_yields (keeps_done _) (fun _ hb => createSlotBundle_row hb) _)
        · rintro bundle o ⟨rfl, hmade⟩
          obtain ⟨row, rfl, hid⟩ := hmade bundle rfl
          obtain ⟨hrow, rfl⟩ := hown
          rw [← hrow, ← hid]
          have hplace : Task.Triple (host.observe ticks (.addOperationsBundle input))
              (keeping cfg tracked (.addOperationsBundle input)) {.fresh bundle.bundleId}
              (run (.place bundle)) fun _ _ => True := place_fresh (by simp) bundle
          apply ((addBundle_kept trivial hplace).frame {.accepted bundle.bundleId}).mono
          rintro r o ⟨o', -, rfl⟩ -
          simp
        · exact fun _ _ _ => nofun
      · exact fun _ => nofun
    · exact fun _ => nofun
  · exact fun _ => nofun

/-- A request that is accepted inserted the row of its bundle. -/
theorem addOperationsBundle_kept (hmax : ∀ id, tracked id → 0 < cfg.maxRetryAttempts)
    (input : BundleRequest) :
    Task.Triple (host.observe ticks (.addOperationsBundle input))
      (keeping cfg tracked (.addOperationsBundle input)) 0 (addOperationsBundle cfg input)
      fun r o => ∀ id, r = .ok id →
        .accepted (generateBundleId cfg input.operationsMLXDR) ∈ o := by
  have hchecks : Keeps Op.Fading (Req.Fading (.addOperationsBundle input))
      (checkRequest cfg input) :=
    checkRequest_keeps (permits_fading _).toAnnounces (fun _ _ => trivial) cfg input
  apply Task.Triple.bind (kept_yields hchecks (checkRequest_yields input) 0)
  · rintro adm o ⟨rfl, hchecked⟩
    rw [← (hchecked adm rfl).bundleId]
    apply (persistBundle_kept hmax input adm).bind
    · intro entity o ho
      apply (enqueueBundle_kept input adm ho).bind
      · exact fun _ o ho => .done fun _ _ => ho rfl
      · exact fun _ _ _ _ => nofun
    · exact fun _ _ _ _ => nofun
  · exact fun _ _ _ _ => nofun

/-! ## The boot -/

theorem hydrate_kept :
    Task.Triple (host.observe ticks l) (keeping cfg tracked l) {.boot}
      (query .findPendingOrProcessing) fun r o => ∀ rows : List OperationsBundle,
        r = .ok rows → o = (rows.map fun row => ({.fresh row.id} : Holds)).sum + {.booting} := by
  apply Task.Triple.call
  · rintro ⟨s, m⟩ f ⟨hh, hc⟩ -
    refine ⟨_, fun rows he => ?_, ⟨hh.hydrate, hc.hydrate hh⟩⟩
    have he : Query.findPendingOrProcessing.run s.db = rows := Except.ok.inj he
    rw [he, sum_each, add_comm]
  · exact fun p f hi _ e => ⟨_, fun _ => nofun, hi⟩

theorem Kept.setStarted (h : Kept cfg tracked (s, m) ({.booting} + f)) :
    Kept cfg tracked ((host.observe ticks .launch).runOp .setStarted (s, m)).2 ({.booting} + f) :=
  ⟨h.holding.setStarted,
    h.counting.fades (fun _ hid => hid) fun _ _ => fades_same rfl rfl fun h => h⟩

theorem launch_kept (fuel : Nat) :
    Task.Triple (host.observe ticks .launch) (keeping cfg tracked .launch) {.boot}
      (Call.launch.program cfg fuel) fun _ _ => True := by
  have hexpiry : Keeps Op.Fading (Req.Fading .launch) (Mempool.startupExpiry cfg fuel) :=
    Mempool.startupExpiry_keeps (permits_fading _).toReads (fun _ _ => trivial) cfg fuel
  apply Task.Triple.bind (B := fun r o => r = .ok () → ∃ rest, o = {.booting} + rest)
  · apply (kept_passes _).bind hexpiry
    · intro _
      apply (loadPendingBundlesFromDB_owned (kept_passes .launch) (permits_fading .launch).toAnnounces
        hydrate_kept).bind
      · intro bundles o ho
        obtain ⟨rows, spare, hall, rfl⟩ := ho bundles rfl
        have hadd : Task.Triple (host.observe ticks .launch) (keeping cfg tracked .launch)
            (rows.map fun row => ({.fresh row.id} : Holds)).sum
            (Task.forEach (I := platform) (Mempool.addBundle cfg) bundles) fun _ _ => True := by
          apply Task.Triple.forEach_zip hall
          intro row bundle hmirrors
          rw [← hmirrors.bundleId]
          exact addBundle_kept trivial (place_fresh (by simp) bundle)
        rw [add_assoc]
        apply (hadd.frame _).mono
        rintro r o ⟨o', -, rfl⟩ -
        exact ⟨o' + spare, by abel⟩
      · exact fun _ _ _ => nofun
    · exact fun _ => nofun
  · intro _ o ho
    obtain ⟨rest, rfl⟩ := ho rfl
    apply Task.Triple.op
    rintro ⟨s, m⟩ f hi -
    refine ⟨{.booting} + rest, trivial, ?_⟩
    rw [add_assoc] at hi ⊢
    exact Kept.setStarted hi
  · exact fun _ _ _ => trivial

/-! ## The verifier -/

theorem mayVerify_fading : MayVerify Op.Fading (Req.Fading .verifyTransactions) where
  toPermits := permits_fading _
  updateTransaction _ _ := trivial
  complete _ := ⟨.inr (.inl rfl), .inl rfl⟩
  failure _ _ h := ⟨.inr (.inr h), .inr ⟨rfl, h⟩⟩

end Triples

end ProviderPlatform
