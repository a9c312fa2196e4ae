import ProviderPlatform.Async.Ownership
import ProviderPlatform.Mempool.Contents
import ProviderPlatform.Mempool.Hydration

/-! # Which bundles are handed on

A slot bundle is made of one row, a tick retries bundles of its slot, and the
transaction of a slot names the bundles of the slot. -/
namespace ProviderPlatform
open Async

variable {cfg : Config}

/-- A slot bundle is made of an inserted row only. -/
theorem createSlotBundle_row {now : Time} {entity : Written OperationsBundle}
    {classified : ClassifiedOperations} {entityName : Option String} {jurisdictions : List String}
    {bundle : SlotBundle}
    (h : createSlotBundle cfg now entity classified entityName jurisdictions = .ok bundle) :
    ∃ row, entity = .row row ∧ bundle.bundleId = row.id := by
  cases entity with
  | array rows => cases h
  | row row =>
    cases h
    exact ⟨row, rfl, rfl⟩

theorem createSlotBundleFromEntity_yields (row : OperationsBundle) :
    (createSlotBundleFromEntity cfg row).Yields fun bundle => bundle.bundleId = row.id := by
  refine (Task.yields_any _).bind fun operations _ => ?_
  refine (Task.yields_any _).bind fun now _ => ?_
  exact (Task.yields_any _).bind fun _ _ => .pure rfl

theorem unlessSubmitted_yields (row : OperationsBundle) :
    (unlessSubmitted row).Yields fun found => found = none ∨ found = some row := by
  unfold unlessSubmitted
  split
  · refine (Task.yields_any _).bind fun links _ => .pure ?_
    by_cases hlinks : links.length > 0
    · exact .inl (if_pos hlinks)
    · exact .inr (if_neg hlinks)
  · exact .pure (.inr rfl)

/-- What the checks say of the operations of a request. -/
structure OperationsChecked (cfg : Config) (input : BundleRequest) (adm : Admission) : Prop where
  bundleId : adm.bundleId = generateBundleId cfg input.operationsMLXDR
  classified : ∃ operations, parseOperations cfg input.operationsMLXDR = .ok operations ∧
    adm.classified = classifyOperations operations

theorem checkRequest_yields (input : BundleRequest) :
    (checkRequest cfg input).Yields (OperationsChecked cfg input) := by
  have hparse : (Task.done (I := platform) (parseOperations cfg input.operationsMLXDR)).Yields
      fun operations => parseOperations cfg input.operationsMLXDR = .ok operations :=
    fun _ he => he
  unfold checkRequest
  split
  · exact .fail _
  split
  · exact .fail _
  refine (Task.yields_any _).bind fun ctx _ => (Task.yields_any _).bind fun submitter _ => ?_
  refine (Task.yields_any _).bind fun _ _ => hparse.bind fun operations hoperations => ?_
  refine (Task.yields_any _).bind fun _ _ => (Task.yields_any _).bind fun isDisabled _ => ?_
  split
  · exact .fail _
  · exact (Task.yields_any _).bind fun _ _ => .pure ⟨rfl, operations, hoperations, rfl⟩

theorem expireSlotBundlesPastTtl_yields (slot : Slot) :
    (expireSlotBundlesPastTtl slot).Yields fun slot' => slot'.bundles.Sublist slot.bundles := by
  refine (Task.yields_any _).bind fun now _ => ?_
  exact (Task.yields_any _).bind fun _ _ => .pure (slot.removeWhere_sublist _)

/-- The transaction of a slot names the bundles of the slot. -/
theorem prepareSlot_yields (slot : Slot) (first : SlotBundle) :
    (prepareSlot cfg slot first).Yields fun p =>
      p.1.bundleIds = slot.bundles.map (·.bundleId) := by
  refine (Task.yields_any _).bind fun ctx _ => ?_
  have hbuild : (buildTransactionFromSlot cfg slot.getBundles ctx).Yields fun build =>
      build.bundleIds = slot.bundles.map (·.bundleId) := by
    unfold buildTransactionFromSlot
    split
    · exact .fail _
    refine (Task.yields_any _).bind fun reserved _ => ?_
    split
    · exact .fail _
    · exact (Task.yields_any _).bind fun _ _ => .pure rfl
  refine hbuild.bind fun build hids => ?_
  refine (Task.yields_any _).bind fun expiration _ => ?_
  exact (Task.yields_any _).bind fun _ _ => .pure hids

theorem filterMap_map_sublist {β γ κ : Type} (f : β → Option γ) (g : β → κ) (g' : γ → κ)
    (h : ∀ x y, f x = some y → g' y = g x) (xs : List β) :
    ((xs.filterMap f).map g').Sublist (xs.map g) := by
  induction xs with
  | nil => exact List.Sublist.refl _
  | cons x xs ih =>
    cases hx : f x with
    | none =>
      rw [List.filterMap_cons_none hx]
      exact ih.cons _
    | some y =>
      rw [List.filterMap_cons_some hx, List.map_cons, List.map_cons, h x y hx]
      exact ih.cons_cons _

/-- What is retried is of the slot. -/
theorem buildRetryBundles_ids (slot : Slot) (metaList : List ExecutionFailureResult) :
    ((buildRetryBundles slot metaList).map (·.bundleId)).Sublist
      (slot.bundles.map (·.bundleId)) := by
  refine filterMap_map_sublist _ _ _ (fun b b' h => ?_) _
  obtain ⟨m, -, rfl⟩ := Option.map_eq_some_iff.mp h
  rfl

/-! ## Queueing and hydration under a discipline -/

section Owned
variable {R τ : Type} [AddCommMonoid R] {H : Host platform τ} {K : Discipline platform τ R}
  {okOp : Op → Prop} {okReq : Req → Prop} {own rest : R} (hpasses : Task.Passes H K okOp okReq)
  (h : Announces okOp okReq)
include hpasses h

/-- What queues a bundle is up to whoever owns it. -/
theorem addBundle_owned (hexp : ∀ id, okReq (.command (.updateBundle id { status := some .expired })))
    (hact : ∀ id, okReq (.command (.updateStatusIfActive id .processing BundleStatus.active)))
    (hpurge : ∀ ids, okOp (.purgeBundles ids)) {bundle : SlotBundle} {P : R → Prop} (hown : P own)
    (hplace : Task.Triple H K own (run (.place bundle)) fun _ o => P o) :
    Task.Triple H K own (Mempool.addBundle cfg bundle) fun _ o => P o := by
  apply hpasses.bind (keeps_run h.now)
  · intro now
    split
    · apply (hpasses.uses (Mempool.markExpired_keeps h hexp bundle) _).mono
      rintro _ _ rfl
      exact hown
    · apply hplace.bind
      · intro placement o ho
        have hadded (newSlot : Bool) : Task.Triple H K o
            (do
              emitForPp bundle.ppPublicKey (Mempool.bundleAddedPayload bundle newSlot)
              Mempool.activate bundle) fun _ o => P o := by
          have hemit : Keeps okOp okReq
              (emitForPp bundle.ppPublicKey (Mempool.bundleAddedPayload bundle newSlot)) :=
            emitForPp_keeps h _ rfl
          have hkeeps := hemit.bind fun _ => Mempool.activate_keeps hact hpurge bundle
          apply (hpasses.uses hkeeps o).mono
          rintro _ _ rfl
          exact ho
        cases placement with
        | existingSlot => exact hadded false
        | newSlot => exact hadded true
        | slotFull => exact .done ho
      · exact fun _ _ ho => ho
  · exact fun _ => hown

/-- The boot makes one bundle of each of some of the rows it read. -/
theorem loadPendingBundlesFromDB_owned {g : OperationsBundle → R}
    (hread : Task.Triple H K own (query .findPendingOrProcessing) fun r o =>
      ∀ rows : List OperationsBundle, r = .ok rows → o = (rows.map g).sum + rest) :
    Task.Triple H K own (loadPendingBundlesFromDB cfg) fun r o => ∀ bundles, r = .ok bundles →
      ∃ rows spare, List.Forall₂ (Mirrors cfg) rows bundles ∧ o = (rows.map g).sum + spare + rest := by
  apply hread.bind
  · intro rows o ho
    rw [ho rows rfl]
    have hleft (row : OperationsBundle) : Task.Triple H K (g row) (unlessSubmitted row) fun r o =>
        ∀ found, r = .ok found → ∃ spare, o = (found.map g).getD 0 + spare := by
      apply (hpasses.yields (unlessSubmitted_keeps h.toReads row) (unlessSubmitted_yields row) _).mono
      rintro r o ⟨rfl, hfound⟩ found he
      rcases hfound found he with rfl | rfl
      · exact ⟨g row, (zero_add _).symm⟩
      · exact ⟨0, (add_zero _).symm⟩
    apply ((Task.Triple.collect_rest fun row _ => hleft row).frame rest).bind
    · rintro found o ⟨o', ho', rfl⟩
      obtain ⟨spare, rfl⟩ := ho' found rfl
      rw [sum_map_filterMap, add_assoc]
      have hbuild (row : OperationsBundle) : Task.Triple H K (g row)
          (createSlotBundleFromEntity cfg row) fun r o => ∀ bundle, r = .ok bundle →
            Mirrors cfg row bundle ∧ ∃ spare, o = g row + spare := by
        apply (hpasses.yields (createSlotBundleFromEntity_keeps h.toReads cfg row)
          (createSlotBundleFromEntity_mirrors row) _).mono
        rintro r o ⟨rfl, hmirrors⟩ bundle he
        exact ⟨hmirrors bundle he, 0, (add_zero _).symm⟩
      apply ((Task.Triple.collect_zip fun row _ => hbuild row).frame _).mono
      rintro r o ⟨o', ho', rfl⟩ bundles he
      obtain ⟨hall, spare', rfl⟩ := ho' bundles he
      refine ⟨found.filterMap id, spare' + spare, hall, ?_⟩
      rw [Task.zipWith_left_of_forall₂ hall, add_assoc, add_assoc, add_assoc]
    · exact fun _ _ _ _ => nofun
  · exact fun _ _ _ _ => nofun

end Owned

end ProviderPlatform
