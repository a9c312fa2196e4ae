import ProviderPlatform.Lifecycle.Copies
import ProviderPlatform.Lifecycle.Handover

/-! # What the calls do with the copies they have

Each call of a provider keeps the copies in step with their rows: an admission
and the boot queue what they made of a row, a tick queues what it pulled, with
the retry that it wrote to the row. -/
namespace ProviderPlatform
open Async Store

/-! ## The discipline -/

/-- Operations that queue and pull no copy, and do not end the boot. -/
def Op.SparesCopies : Op → Prop
  | .place _ | .removeFirstSlot | .setStarted => False
  | _ => True

/-- The copies are kept; the services make their calls once the mempool system
has started. -/
def copying (cfg : Config) (l : Call) : Discipline platform (State × List Notice) Copies where
  inv p r := Copying cfg p.1 p.2 r
  mayRun _ _ := True
  mayServe p _ := l.isService = true → p.1.memory.started = true
  mayReject _ _ := True

/-- What a task of the call has of copies before and after. -/
abbrev CopyTriple (cfg : Config) (l : Call) {α : Type} (own : Copies) (t : Promise α)
    (B : Except Err α → Copies → Prop) : Prop :=
  Task.Triple (host.observe (Machine.noting notices) l) (copying cfg l) own t B

theorem permits_sparesCopies : Permits Op.SparesCopies Req.SparesCopies where
  query _ := trivial
  rpc _ := trivial
  now := trivial
  emit _ _ := trivial
  isDisabled _ := trivial

section Triples
variable {cfg : Config} {l : Call} {own : Copies} {s : State} {m : List Notice} {r f : Copies}
  {bundle : SlotBundle} {row : OperationsBundle}

theorem notices_ran {o : Op} (ho : o.SparesCopies) : notices l (.ran s o) = none := by
  cases o <;> first | rfl | exact ho.elim

/-- Nothing reads whether a tick runs. -/
theorem Copying.runOp {o : Op} (ho : o.SparesCopies) (h : Copying cfg s m r) :
    Copying cfg (ProviderPlatform.runOp o s).2 m r := by
  have hsame (id : BundleId) : CopySpared s m (ProviderPlatform.runOp o s).2 m id :=
    copySpared_same (by rw [runOp_db]) fun hid => hid
  have hspared (hstill : o.Still) : Copying cfg (ProviderPlatform.runOp o s).2 m r :=
    h.spared (runOp_still hstill s) (List.Subset.refl _) hsame
  cases o with
  | setProcessing b =>
    exact ⟨h.once, h.rows, fun b hb => (h.queued b hb).spared (List.Subset.refl _) (hsame _),
      fun t ht => (h.tokens t ht).spared (List.Subset.refl _) fun id _ => hsame id, h.boot⟩
  | place bundle => exact ho.elim
  | removeFirstSlot => exact ho.elim
  | setStarted => exact ho.elim
  | _ => exact hspared trivial

theorem copying_passes (l : Call) : Task.Passes (host.observe (Machine.noting notices) l) (copying cfg l)
    Op.SparesCopies Req.SparesCopies where
  run o ho p r h _ := by
    show Copying cfg (runOp o p.1).2 ((notices l (.ran p.1 o)).toList ++ p.2) r
    rw [notices_ran ho]
    exact Copying.runOp ho h
  serve q hq p r h _ :=
    Copying.spared h (serve_still q p.1) (List.subset_append_right _ _)
      (serve_sparesCopies hq l p.1 p.2)

/-! ## Queueing -/

theorem inserted_place {id : BundleId} :
    .inserted id ∈ (notices l (.ran s (.place bundle))).toList ++ m → .inserted id ∈ m := by
  intro hmem
  rcases List.mem_append.mp hmem with hmem | hmem
  · cases l <;> simp [notices] at hmem
  · exact hmem

/-- What may be queued is a copy once it is noted that it was queued. -/
theorem place_copy {t : Copy} (hids : t.ids = [bundle.bundleId])
    (hcopied : ∀ s m, t.Tells cfg s m →
      Copied cfg s ((notices l (.ran s (.place bundle))).toList ++ m) bundle) :
    CopyTriple cfg l {t} (run (.place bundle)) fun _ _ => True := by
  apply Task.Triple.op
  intro p f hi _
  refine ⟨0, trivial, ?_⟩
  rw [zero_add]
  exact Copying.place hi hids (List.subset_append_right _ _) (fun _ => inserted_place)
    (hcopied p.1 p.2 (hi.tokens t (by simp)))

theorem Pinned.noted {m' : List Notice} (h : Pinned s m row) (hsub : m ⊆ m') : Pinned s m' row :=
  fun hnot => h fun hmem => hnot (hsub hmem)

/-- A request queues the bundle of the row it inserted. -/
theorem place_inserted {input : BundleRequest} (h : Mirrors cfg row bundle) :
    CopyTriple cfg (.addOperationsBundle input) {.inserted row} (run (.place bundle))
      fun _ _ => True := by
  apply place_copy (by rw [h.bundleId]; rfl)
  intro s m hpinned
  refine ⟨⟨row, h, Pinned.noted hpinned (List.subset_append_right _ _)⟩, fun _ => ?_⟩
  exact ⟨input, bundle, List.mem_cons_self, rfl, rfl, rfl⟩

/-- The boot queues the bundle of a row it read. -/
theorem place_read (h : Mirrors cfg row bundle) :
    CopyTriple cfg .launch {.read row} (run (.place bundle)) fun _ _ => True := by
  apply place_copy (by rw [h.bundleId]; rfl)
  intro s m htells
  refine ⟨⟨row, h, htells.1⟩, fun hmem => absurd hmem ?_⟩
  rw [h.bundleId]
  exact htells.2

/-- A tick queues a bundle it pulled. -/
theorem place_taken : CopyTriple cfg .executeNext {.taken bundle} (run (.place bundle))
    fun _ _ => True :=
  place_copy rfl fun _ _ hcopied => hcopied

theorem addBundle_copies {t : Copy}
    (hplace : CopyTriple cfg l {t} (run (.place bundle)) fun _ _ => True) :
    CopyTriple cfg l {t} (Mempool.addBundle cfg bundle) fun _ _ => True :=
  addBundle_owned (copying_passes l) permits_sparesCopies.toAnnounces
    (fun _ => .inr ⟨_, rfl, by decide⟩) (fun _ => rfl) (fun _ => trivial) trivial hplace

theorem reAddBundles_copies (bundles : List SlotBundle) :
    CopyTriple cfg .executeNext (takenAll bundles) (Mempool.reAddBundles cfg bundles)
      fun _ _ => True :=
  Task.Triple.forEach_rest fun _ _ =>
    (addBundle_copies place_taken).recover (fun _ _ _ => trivial) fun _ _ _ => .done trivial

/-! ## A failed execution -/

/-- What a result of a failed execution leaves of a bundle. -/
def retriedFor (bundle : SlotBundle) (result : Option ExecutionFailureResult) : Copies :=
  ((result.map bundle.retried).map fun b => ({.taken b} : Copies)).getD 0

/-- The result is about the bundle. -/
def IsResultOf (bundle : SlotBundle) (result : Option ExecutionFailureResult) : Prop :=
  ∀ m, result = some m → m.bundleId = bundle.bundleId

theorem retryRow_copies (result : ExecutionFailureResult) :
    CopyTriple cfg .executeNext {.taken bundle}
      (command (.updateIfStatusIn bundle.bundleId (retryPatch result) BundleStatus.active))
      fun r o => ∀ updated, r = .ok updated → o = {.taken (bundle.retried result)} := by
  apply Task.Triple.call
  · intro p f hi _
    exact ⟨_, fun _ _ => rfl, Copying.retry hi result⟩
  · exact fun p f hi _ e => ⟨_, fun _ => nofun, hi⟩

theorem failBundleExecution_copies (error : Err) (reason : FailureReason) (bundle : SlotBundle) :
    CopyTriple cfg .executeNext {.taken bundle}
      (failBundleExecution cfg error reason bundle.bundleId) fun r o => ∀ y, r = .ok y →
        IsResultOf bundle y ∧ ∃ rest, o = retriedFor bundle y + rest := by
  have hnothing (o : Copies) : CopyTriple cfg .executeNext o (pure none) fun r o => ∀ y, r = .ok y →
      IsResultOf bundle y ∧ ∃ rest, o = retriedFor bundle y + rest := by
    apply Task.Triple.done
    intro y hy
    cases hy
    exact ⟨nofun, o, (zero_add o).symm⟩
  have hpasses : Task.Passes _ (copying cfg .executeNext) _ _ := copying_passes .executeNext
  have hfailed (data : OperationsBundlePatch) (hdata : data.status = some .failed) :
      Keeps Op.SparesCopies Req.SparesCopies
        (command (.updateIfStatusIn bundle.bundleId data BundleStatus.active)) := keeps_command hdata
  apply Task.Triple.recover (B := fun r o => ∀ y, r = .ok y →
    IsResultOf bundle y ∧ ∃ rest, o = retriedFor bundle y + rest)
  · apply hpasses.bind (keeps_query permits_sparesCopies.toReads _)
    · intro found
      cases found with
      | none => exact hnothing _
      | some row =>
        dsimp only
        split
        · refine Task.Triple.bind (hpasses.uses (hfailed _ rfl) _) ?_ fun _ _ _ _ => nofun
          rintro _ _ rfl
          exact hnothing _
        · apply (retryRow_copies ⟨bundle.bundleId, row.retryCount + 1, reason⟩).bind
          · intro updated o ho
            rw [ho updated rfl]
            cases updated with
            | false => exact hnothing _
            | true =>
              apply Task.Triple.done
              intro y hy
              cases hy
              refine ⟨?_, 0, (add_zero _).symm⟩
              intro m hm
              cases hm
              rfl
          · exact fun _ _ _ _ => nofun
    · exact fun _ _ => nofun
  · exact fun _ _ ho => ho
  · exact fun _ o _ => hnothing o

/-! ## What is retried -/

theorem retryMeta_cons (result : ExecutionFailureResult) (metas : List ExecutionFailureResult)
    (id : BundleId) : retryMeta (result :: metas) id =
      (retryMeta metas id).or (if result.bundleId = id then some result else none) := by
  simp only [retryMeta, List.reverse_cons, List.find?_append]
  congr 1
  by_cases h : result.bundleId = id <;> simp [h]

section Results
variable {bundles : List SlotBundle} {results : List (Option ExecutionFailureResult)}

theorem retryMeta_none (h : List.Forall₂ IsResultOf bundles results) {b : BundleId}
    (hb : b ∉ bundles.map (·.bundleId)) : retryMeta (results.filterMap id) b = none := by
  induction h with
  | nil => rfl
  | @cons bundle result bundles results hresult _ ih =>
    rw [List.map_cons, List.mem_cons, not_or] at hb
    cases result with
    | none => exact ih hb.2
    | some m =>
      have hne : m.bundleId ≠ b := by rw [hresult m rfl]; exact Ne.symm hb.1
      rw [List.filterMap_cons_some (f := id) rfl, retryMeta_cons, ih hb.2, if_neg hne]
      rfl

/-- With distinct bundles each finds the result that is about it. -/
theorem map_retryMeta (h : List.Forall₂ IsResultOf bundles results)
    (hnodup : (bundles.map (·.bundleId)).Nodup) :
    bundles.map (fun b => retryMeta (results.filterMap id) b.bundleId) = results := by
  induction h with
  | nil => rfl
  | @cons bundle result bundles results hresult hrest ih =>
    rw [List.map_cons] at hnodup
    obtain ⟨hnot, hnodup⟩ := List.nodup_cons.mp hnodup
    have hnone := retryMeta_none hrest hnot
    rw [List.map_cons]
    cases result with
    | none =>
      rw [List.filterMap_cons_none rfl, hnone, ih hnodup]
    | some m =>
      have hid : m.bundleId = bundle.bundleId := hresult m rfl
      rw [List.filterMap_cons_some (f := id) rfl, retryMeta_cons, hnone, if_pos hid]
      congr 1
      refine (List.map_congr_left fun b hb => ?_).trans (ih hnodup)
      have hne : m.bundleId ≠ b.bundleId := by
        rw [hid]
        intro he
        exact hnot (he ▸ List.mem_map_of_mem hb)
      rw [retryMeta_cons, if_neg hne, Option.or_none]

/-- The bundles that are retried are what the results leave. -/
theorem sum_retriedFor {slot : Slot} (h : List.Forall₂ IsResultOf slot.bundles results)
    (hnodup : (slot.bundles.map (·.bundleId)).Nodup) :
    (List.zipWith retriedFor slot.bundles results).sum =
      takenAll (buildRetryBundles slot (results.filterMap id)) := by
  have hbuilt : buildRetryBundles slot (results.filterMap id) = ((slot.bundles.map fun b =>
      (retryMeta (results.filterMap id) b.bundleId).map b.retried).filterMap id) := by
    rw [List.filterMap_map]
    rfl
  have hzip : List.zipWith retriedFor slot.bundles results = slot.bundles.map fun b =>
      retriedFor b (retryMeta (results.filterMap id) b.bundleId) := by
    conv_lhs => rw [← map_retryMeta h hnodup]
    rw [List.zipWith_map_right, List.zipWith_self]
  rw [hzip, hbuilt, takenAll, ← sum_map_filterMap, List.map_map]
  rfl

end Results

theorem handleExecutionFailure_copies {slot : Slot} (error : Err) (reason : FailureReason)
    (hnodup : (slot.bundles.map (·.bundleId)).Nodup) :
    CopyTriple cfg .executeNext (takenAll slot.bundles)
      (handleExecutionFailure cfg error (slot.bundles.map (·.bundleId)) reason) fun r o =>
        ∀ metas, r = .ok metas → ∃ rest, o = takenAll (buildRetryBundles slot metas) + rest := by
  unfold handleExecutionFailure handleExecutionFailureWith
  rw [Task.collect_map]
  apply Task.Triple.bind (Task.Triple.collect_zip fun bundle _ =>
    failBundleExecution_copies error reason bundle)
  · intro results o ho
    obtain ⟨hresults, rest, rfl⟩ := ho results rfl
    apply Task.Triple.done
    intro metas hmetas
    cases hmetas
    exact ⟨rest, by rw [sum_retriedFor hresults hnodup]⟩
  · exact fun _ _ _ _ => nofun

/-! ## The tick -/

theorem takenAll_sublist {bundles bundles' : List SlotBundle} (h : bundles'.Sublist bundles) :
    ∃ rest, takenAll bundles = takenAll bundles' + rest := by
  induction h with
  | slnil => exact ⟨0, rfl⟩
  | @cons xs ys bundle _ ih =>
    obtain ⟨rest, hrest⟩ := ih
    refine ⟨{.taken bundle} + rest, ?_⟩
    rw [takenAll, List.map_cons, List.sum_cons, ← takenAll, hrest]
    abel
  | @cons_cons xs ys bundle _ ih =>
    obtain ⟨rest, hrest⟩ := ih
    refine ⟨rest, ?_⟩
    rw [takenAll, List.map_cons, List.sum_cons, ← takenAll, hrest, takenAll, takenAll, List.map_cons,
      List.sum_cons, add_assoc]

theorem retrySlot_copies {slot : Slot} (error : Err)
    (hnodup : (slot.bundles.map (·.bundleId)).Nodup) :
    CopyTriple cfg .executeNext (takenAll slot.bundles)
      (retrySlot cfg slot (slot.bundles.map (·.bundleId)) error) fun _ _ => True := by
  have h := permits_sparesCopies
  have hpasses : Task.Passes _ (copying cfg .executeNext) _ _ := copying_passes .executeNext
  apply hpasses.bind (keeps_run h.now)
  · intro now
    apply hpasses.bind (emitExecutionFailed_keeps h slot _ error)
    · intro _
      apply (handleExecutionFailure_copies error _ hnodup).bind
      · intro metas o ho
        obtain ⟨rest, rfl⟩ := ho metas rfl
        dsimp only
        split
        · exact ((reAddBundles_copies _).frame rest).mono fun _ _ _ => trivial
        · exact .done trivial
      · exact fun _ _ _ => trivial
    · exact fun _ => trivial
  · exact fun _ => trivial

theorem handleSlotFailure_copies {slot : Slot} (error : Err)
    (hnodup : (slot.bundles.map (·.bundleId)).Nodup) :
    CopyTriple cfg .executeNext (takenAll slot.bundles) (handleSlotFailure cfg slot error)
      fun _ _ => True := by
  unfold handleSlotFailure
  split
  · rename_i detail
    have hfail : Keeps Op.SparesCopies Req.SparesCopies (Task.forEach (I := platform)
        (failInsufficientFees detail) (slot.getBundles.map (·.bundleId))) :=
      Task.Uses.forEach fun id _ => failInsufficientFees_keeps
        (fun _ _ hfailed => .inr ⟨_, hfailed, by decide⟩) detail id
    have hemit := emitExecutionFailed_keeps permits_sparesCopies slot
      (slot.getBundles.map (·.bundleId)) (.insufficientFees detail)
    have hpasses : Task.Passes _ (copying cfg .executeNext) _ _ := copying_passes .executeNext
    exact (hpasses.uses (hfail.bind fun _ => hemit) _).mono fun _ _ _ => trivial
  · exact retrySlot_copies error hnodup

theorem executeSlot_sparesCopies (slot : Slot) :
    Keeps Op.SparesCopies Req.SparesCopies (executeSlot cfg slot) :=
  executeSlot_keeps ⟨permits_sparesCopies, fun _ _ => trivial, fun _ _ => trivial, fun _ => trivial⟩
    (fun _ _ _ => trivial) cfg slot

theorem processSlot_copies {pulled : Slot} (hnodup : (pulled.bundles.map (·.bundleId)).Nodup) :
    CopyTriple cfg .executeNext (takenAll pulled.bundles) (processSlot cfg pulled)
      fun _ _ => True := by
  have hpasses : Task.Passes _ (copying cfg .executeNext) _ _ := copying_passes .executeNext
  have hexpire : Keeps Op.SparesCopies Req.SparesCopies (expireSlotBundlesPastTtl pulled) :=
    expireSlotBundlesPastTtl_keeps permits_sparesCopies.toAnnounces (fun _ => rfl) pulled
  apply Task.Triple.bind (hpasses.yields hexpire (expireSlotBundlesPastTtl_yields pulled) _)
  · rintro slot _ ⟨rfl, hsub⟩
    split
    · exact .done trivial
    · apply Task.Triple.recover (hpasses.uses (executeSlot_sparesCopies slot) _)
      · exact fun _ _ _ => trivial
      · rintro error _ rfl
        have hslot := hsub slot rfl
        obtain ⟨rest, hrest⟩ := takenAll_sublist hslot
        rw [hrest]
        have hfail := @handleSlotFailure_copies cfg slot error ((hslot.map _).nodup hnodup)
        exact (hfail.frame rest).mono fun _ _ _ => trivial
  · exact fun _ _ _ => trivial

theorem removeFirstSlot_copies : CopyTriple cfg .executeNext 0 (run .removeFirstSlot) fun r o =>
    ∀ slot, r = .ok (some slot) → (slot.bundles.map (·.bundleId)).Nodup ∧
      o = takenAll slot.bundles := by
  apply Task.Triple.op
  rintro ⟨s, m⟩ f (hi : Copying cfg s m (0 + f)) -
  rw [zero_add] at hi
  cases hpull : s.memory.mempool.removeFirstSlot.1 with
  | none =>
    refine ⟨0, fun slot he => ?_, ?_⟩
    · have hslot : s.memory.mempool.removeFirstSlot.1 = some slot := Except.ok.inj he
      rw [hpull] at hslot
      cases hslot
    rw [zero_add]
    show Copying cfg (runOp .removeFirstSlot s).2 m f
    exact hi.spared (runOp_still (o := .removeFirstSlot) trivial s) (List.Subset.refl _) fun _ =>
      copySpared_same (by rw [runOp_db]) fun hid => hid
  | some slot =>
    have hpulled := hi.pull hpull
    refine ⟨takenAll slot.bundles, fun slot' he => ?_, hpulled⟩
    have hslot : s.memory.mempool.removeFirstSlot.1 = some slot' := Except.ok.inj he
    rw [hpull] at hslot
    cases hslot
    have honce := hpulled.once
    have hids : copyIds (takenAll slot.bundles) = (slot.bundles.map (·.bundleId) : List BundleId) :=
      copyIds_sum (fun _ => rfl) _
    rw [State.copyIds, copyIds_add, hids] at honce
    exact ⟨Multiset.coe_nodup.mp (Multiset.nodup_add.mp (Multiset.nodup_add.mp honce).2.1).1, rfl⟩

/-- A tick ends up with the copies that it did not put back. -/
theorem executeNext_copies : CopyTriple cfg .executeNext 0 (executeNext cfg) fun _ _ => True := by
  have hpasses : Task.Passes _ (copying cfg .executeNext) _ _ := copying_passes .executeNext
  have hread : Op.SparesCopies .isProcessing := trivial
  have hset (b : Bool) : Op.SparesCopies (.setProcessing b) := trivial
  apply hpasses.bind (keeps_run hread)
  · intro isProcessing
    split
    · exact .done trivial
    · apply hpasses.bind (keeps_run (hset true))
      · intro _
        refine Task.Triple.ensure ?_ (hpasses.run _ (hset false))
        apply removeFirstSlot_copies.bind
        · intro slot o ho
          cases slot with
          | none => exact .done trivial
          | some slot =>
            obtain ⟨hnodup, rfl⟩ := ho slot rfl
            dsimp only
            split
            · exact .done trivial
            · exact processSlot_copies hnodup
        · exact fun _ _ _ => trivial
      · exact fun _ => trivial
  · exact fun _ => trivial

/-! ## Admission -/

/-- The row that a request inserted, with the operations of the request. -/
def RowInserted (input : BundleRequest) : Written OperationsBundle → Copies → Prop
  | .row row, o => row.operationsMLXDR = input.operationsMLXDR ∧ o = {.inserted row}
  | .array _, _ => True

theorem createBundle_copies (hl : l.isService = true) (data : NewOperationsBundle) :
    CopyTriple cfg l 0 (command (.createBundle data)) fun r o => ∀ row, r = .ok row →
      row.operationsMLXDR = data.operationsMLXDR ∧ o = {.inserted row} := by
  apply Task.Triple.call
  · rintro ⟨s, m⟩ f (hi : Copying cfg s m (0 + f)) hmay
    rw [zero_add] at hi
    have hstarted : s.memory.started = true := hmay hl
    have hstill := serve_still (.command (.createBundle data)) s
    rcases serve_createBundle data s with ⟨hnone, hanswer, hfind⟩ | ⟨⟨row, hrow⟩, hanswer, hsame⟩
    · have hnorow : ¬ s.HasRow data.id := by simp [State.HasRow, hnone]
      refine ⟨{.inserted (data.row s.clock)}, fun row he => ?_, ?_⟩
      · have hrow : data.row s.clock = row := Except.ok.inj (hanswer.symm.trans he)
        rw [← hrow]
        exact ⟨rfl, rfl⟩
      · show Copying cfg (serve (.command (.createBundle data)) s).2
          ((notices l (.served s (.command (.createBundle data)))).toList ++ m) _
        have hnoted : notices l (.served s (.command (.createBundle data))) =
            some (.inserted data.id) := by simp [notices, hnone]
        rw [hnoted]
        exact hi.admit (hi.not_boot_of_started hstarted) hstill hnorow hfind
    · refine ⟨0, fun row he => ?_, ?_⟩
      · cases hanswer.symm.trans he
      · show Copying cfg (serve (.command (.createBundle data)) s).2
          ((notices l (.served s (.command (.createBundle data)))).toList ++ m) _
        have hnoted : notices l (.served s (.command (.createBundle data))) = none := by
          simp [notices, hrow]
        rw [hnoted, hsame, zero_add]
        exact hi
  · exact fun p f hi _ e => ⟨0, fun _ he => (by cases he), hi⟩

theorem persistBundle_copies (input : BundleRequest) (adm : Admission) :
    CopyTriple cfg (.addOperationsBundle input) 0 (persistBundle input adm) fun r o =>
      ∀ entity, r = .ok entity → RowInserted input entity o := by
  have hpasses : Task.Passes _ (copying cfg (.addOperationsBundle input)) _ _ := copying_passes _
  have hreset (data : OperationsBundlePatch) (hdata : data.status = some .pending) :
      Keeps Op.SparesCopies Req.SparesCopies (command (.updateBundle adm.bundleId data)) :=
    keeps_command (.inl hdata)
  unfold persistBundle
  split
  · refine Task.Triple.bind (hpasses.uses (hreset _ rfl) 0) ?_ fun _ _ _ _ => nofun
    intro rows o _
    apply Task.Triple.done
    intro entity he
    cases he
    trivial
  · apply hpasses.bind (keeps_run permits_sparesCopies.now)
    · intro now
      apply (createBundle_copies rfl _).bind
      · intro row o ho
        apply Task.Triple.done
        intro entity he
        cases he
        exact ho row rfl
      · exact fun _ _ _ _ => nofun
    · exact fun _ _ => nofun

theorem enqueueBundle_copies {input : BundleRequest} {adm : Admission}
    {operations : List MoonlightOperation}
    (hparse : parseOperations cfg input.operationsMLXDR = .ok operations)
    (hclassified : adm.classified = classifyOperations operations)
    {entity : Written OperationsBundle} (hown : RowInserted input entity own) :
    CopyTriple cfg (.addOperationsBundle input) own (enqueueBundle cfg input adm entity)
      fun _ _ => True := by
  have h := permits_sparesCopies
  have hpasses : Task.Passes _ (copying cfg (.addOperationsBundle input)) _ _ := copying_passes _
  have hcreates : Keeps Op.SparesCopies Req.SparesCopies
      (persistCreateOperations adm.classified.create (entity.get (·.id)) adm.accountId) :=
    persistCreateOperations_keeps h.toReads (fun _ => trivial) _ _ _
  have hspends : Keeps Op.SparesCopies Req.SparesCopies
      (persistSpendOperations adm.classified.spend (entity.get (·.id)) adm.accountId
        adm.channelClient input.channelContractId) :=
    persistSpendOperations_keeps h.toReads (fun _ _ => trivial) _ _ _ _ _
  apply hpasses.bind hcreates
  · intro _
    apply hpasses.bind hspends
    · intro _
      apply hpasses.bind (keeps_run h.now)
      · intro now
        cases entity with
        | array rows => exact .done trivial
        | row row =>
          obtain ⟨hrow, rfl⟩ := hown
          rw [← hrow] at hparse
          rw [hclassified]
          apply Task.Triple.bind (hpasses.yields (keeps_done _) (fun _ hbundle => hbundle) _)
          · rintro bundle _ ⟨rfl, hbundle⟩
            exact addBundle_copies
              (place_inserted (createSlotBundle_mirrors hparse (hbundle bundle rfl)).1)
          · exact fun _ _ _ => trivial
      · exact fun _ => trivial
    · exact fun _ => trivial
  · exact fun _ => trivial

theorem addOperationsBundle_copies (input : BundleRequest) :
    CopyTriple cfg (.addOperationsBundle input) 0 (addOperationsBundle cfg input)
      fun _ _ => True := by
  have hpasses : Task.Passes _ (copying cfg (.addOperationsBundle input)) _ _ := copying_passes _
  have hchecks : Keeps Op.SparesCopies Req.SparesCopies (checkRequest cfg input) :=
    checkRequest_keeps permits_sparesCopies.toAnnounces (fun _ _ => trivial) cfg input
  apply Task.Triple.bind (hpasses.yields hchecks (checkRequest_yields input) 0)
  · rintro adm _ ⟨rfl, hchecked⟩
    obtain ⟨operations, hparse, hclassified⟩ := (hchecked adm rfl).classified
    apply (persistBundle_copies input adm).bind
    · intro entity o ho
      apply (enqueueBundle_copies hparse hclassified (ho entity rfl)).bind
      · exact fun _ _ _ => .done trivial
      · exact fun _ _ _ => trivial
    · exact fun _ _ _ => trivial
  · exact fun _ _ _ => trivial

/-! ## The boot -/

theorem hydrate_copies : CopyTriple cfg .launch {.boot} (query .findPendingOrProcessing) fun r o =>
    ∀ rows : List OperationsBundle, r = .ok rows →
      o = (rows.map fun row => ({.read row} : Copies)).sum + {.booting} := by
  apply Task.Triple.call
  · rintro ⟨s, m⟩ f hi -
    have hread := Copying.hydrate (s := s) (m := m) hi
    refine ⟨_, fun rows he => ?_, hread⟩
    have hrows : Query.findPendingOrProcessing.run s.db = rows := Except.ok.inj he
    rw [hrows, add_comm]
  · exact fun p f hi _ e => ⟨_, fun _ => nofun, hi⟩

theorem initializeMempool_copies (fuel : Nat) :
    CopyTriple cfg .launch {.boot} (Mempool.initializeMempool cfg fuel) fun r o =>
      r = .ok () → ∃ rest, o = {.booting} + rest := by
  have h := permits_sparesCopies
  have hpasses : Task.Passes _ (copying cfg .launch) _ _ := copying_passes .launch
  have hexpiry : Keeps Op.SparesCopies Req.SparesCopies (Mempool.startupExpiry cfg fuel) :=
    Mempool.startupExpiry_keeps h.toReads (fun _ _ => trivial) cfg fuel
  apply hpasses.bind hexpiry
  · intro _
    apply (loadPendingBundlesFromDB_owned hpasses h.toAnnounces hydrate_copies).bind
    · intro bundles o ho
      obtain ⟨rows, spare, hall, rfl⟩ := ho bundles rfl
      have hadd : CopyTriple cfg .launch (rows.map fun row => ({.read row} : Copies)).sum
          (Task.forEach (I := platform) (Mempool.addBundle cfg) bundles) fun _ _ => True :=
        Task.Triple.forEach_zip hall fun _ _ hmirrors => addBundle_copies (place_read hmirrors)
      rw [add_assoc]
      apply (hadd.frame _).mono
      rintro r o ⟨o', -, rfl⟩ -
      exact ⟨o' + spare, by abel⟩
    · exact fun _ _ _ => nofun
  · exact fun _ => nofun

theorem launch_copies (fuel : Nat) :
    CopyTriple cfg .launch {.boot} (Call.launch.program cfg fuel) fun _ _ => True := by
  apply (initializeMempool_copies fuel).bind
  · intro _ o ho
    obtain ⟨rest, rfl⟩ := ho rfl
    apply Task.Triple.op
    intro p f hi _
    refine ⟨{.booting} + rest, trivial, ?_⟩
    rw [add_assoc] at hi ⊢
    exact Copying.setStarted hi
  · exact fun _ _ _ => trivial

/-! ## Every call -/

theorem mayVerify_sparesCopies : MayVerify Op.SparesCopies Req.SparesCopies where
  toPermits := permits_sparesCopies
  updateTransaction _ _ := trivial
  complete _ := .inr ⟨_, rfl, by decide⟩
  failure _ _ h := .inr ⟨_, h, by decide⟩

end Triples

end ProviderPlatform
