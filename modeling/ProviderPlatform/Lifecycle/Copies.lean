import ProviderPlatform.Async.Log
import ProviderPlatform.Lifecycle.Holding
import ProviderPlatform.Mempool.Hydration

/-! # The copies of a row

A slot bundle is a copy of its row, made when the row was inserted or when the
boot read it. From then on the row and the copy change together: the tick that
has the copy writes the retry to both. Only a resubmission writes to the row of
a bundle that it has no copy of. -/
namespace ProviderPlatform
open Async Store

/-! ## What is noted of a process -/

inductive Notice
  | reset (id : BundleId)
  | inserted (id : BundleId)
  | placed (input : BundleRequest) (bundle : SlotBundle)

/-- The resets of rows, the inserted rows, and what requests put into the queue. -/
def notices (l : Call) : Step platform State → Option Notice
  | .served _ (.command (.updateBundle id data)) =>
    if data.status = some .pending then some (.reset id) else none
  | .served s (.command (.createBundle data)) =>
    if (s.db.operationsBundles.find data.id).isNone then some (.inserted data.id) else none
  | .ran _ (.place bundle) =>
    match l with
    | .addOperationsBundle input => some (.placed input bundle)
    | _ => none
  | _ => none

/-! ## Copies -/

section Defs
variable (cfg : Config) (s : State) (m : List Notice)

/-- Unless it was reset, the row is still the one given, while it is active. -/
def Pinned (row : OperationsBundle) : Prop :=
  .reset row.id ∉ m → ∀ row', s.db.operationsBundles.find row.id = some row' →
    row'.isIn BundleStatus.active = true → row'.content = row.content

/-- A bundle whose row this process inserted shows the submitter that the
request showed. -/
def Named (bundle : SlotBundle) : Prop :=
  .inserted bundle.bundleId ∈ m → ∃ input placed, .placed input placed ∈ m ∧
    placed.bundleId = bundle.bundleId ∧ placed.entityName = bundle.entityName ∧
    placed.jurisdictions = bundle.jurisdictions

/-- The bundle is a copy of its row. -/
structure Copied (bundle : SlotBundle) : Prop where
  mirrors : ∃ row, Mirrors cfg row bundle ∧ Pinned s m row
  named : Named m bundle

end Defs

/-- What a task has: the boot before and after it read the rows, a row that the
boot read or a request inserted, and a bundle that a tick pulled. -/
inductive Copy
  | boot
  | booting
  | read (row : OperationsBundle)
  | inserted (row : OperationsBundle)
  | taken (bundle : SlotBundle)

abbrev Copies := Multiset Copy

/-- The bundle that a task has. -/
def Copy.ids : Copy → List BundleId
  | .read row | .inserted row => [row.id]
  | .taken bundle => [bundle.bundleId]
  | _ => []

/-- What a token says of its bundle. -/
def Copy.Tells (cfg : Config) (s : State) (m : List Notice) : Copy → Prop
  | .read row => Pinned s m row ∧ .inserted row.id ∉ m
  | .inserted row => Pinned s m row
  | .taken bundle => Copied cfg s m bundle
  | _ => True

def copyIds (r : Copies) : Multiset BundleId := r.bind fun t => t.ids

/-- The bundles that are queued or with a task. -/
def State.copyIds (s : State) (r : Copies) : Multiset BundleId :=
  (s.memory.mempool.queuedIds : Multiset BundleId) + ProviderPlatform.copyIds r

/-- Each bundle has one copy, in the queue or with a task, and has its row. -/
structure Copying (cfg : Config) (s : State) (m : List Notice) (r : Copies) : Prop where
  once : (s.copyIds r).Nodup
  rows : ∀ id ∈ s.copyIds r, s.HasRow id
  queued : ∀ bundle ∈ s.memory.mempool.queued, Copied cfg s m bundle
  tokens : ∀ t ∈ r, t.Tells cfg s m
  boot : .boot ∈ r → r = {.boot} ∧ s.memory.mempool.queued = [] ∧
    s.memory.started = false ∧ ∀ id, .inserted id ∉ m

section Ids
variable {t : Copy} {r : Copies} {id : BundleId}

@[simp] theorem copyIds_zero : copyIds 0 = 0 := rfl
@[simp] theorem copyIds_add (a b : Copies) : copyIds (a + b) = copyIds a + copyIds b :=
  Multiset.add_bind ..
@[simp] theorem copyIds_singleton (t : Copy) : copyIds {t} = t.ids := Multiset.singleton_bind ..

@[simp] theorem copyIds_cons (t : Copy) (r : Copies) : copyIds (t ::ₘ r) = t.ids + copyIds r :=
  Multiset.cons_bind ..

theorem mem_copyIds : id ∈ copyIds r ↔ ∃ t ∈ r, id ∈ t.ids := by
  simp [copyIds]

/-- One token for each element. -/
theorem copyIds_sum {β : Type} {f : β → Copy} {g : β → BundleId} (hf : ∀ x, (f x).ids = [g x])
    (xs : List β) : copyIds (xs.map fun x => ({f x} : Copies)).sum = (xs.map g : List BundleId) := by
  induction xs with
  | nil => rfl
  | cons x xs ih =>
    rw [List.map_cons, List.sum_cons, copyIds_add, copyIds_singleton, hf, ih]
    rfl

theorem State.copyIds_mono {s s' : State} (h : Still s s') (r : Copies) :
    s'.copyIds r ≤ s.copyIds r :=
  add_le_add_left h.queuedIds _

end Ids

/-! ## Steps that write to no row of a copy -/

/-- Unless it is reset, the row stays as it is or leaves the active statuses. -/
structure CopySpared (s : State) (m : List Notice) (s' : State) (m' : List Notice) (id : BundleId) :
    Prop where
  inserted : .inserted id ∈ m' → .inserted id ∈ m
  row : .reset id ∉ m' → ∀ row', s'.db.operationsBundles.find id = some row' →
    row'.isIn BundleStatus.active = true →
    ∃ row, s.db.operationsBundles.find id = some row ∧ row.isIn BundleStatus.active = true ∧
      row'.content = row.content

section Spared
variable {cfg : Config} {s s' : State} {m m' : List Notice} {row : OperationsBundle}
  {bundle : SlotBundle} {a b f r : Copies} {t : Copy} {id : BundleId}

theorem copySpared_same (hfind : s'.db.operationsBundles.find id = s.db.operationsBundles.find id)
    (hinserted : .inserted id ∈ m' → .inserted id ∈ m) : CopySpared s m s' m' id where
  inserted := hinserted
  row _ row' hrow' hactive := ⟨row', hfind ▸ hrow', hactive, rfl⟩

theorem Pinned.spared (h : Pinned s m row) (hsub : m ⊆ m') (hs : CopySpared s m s' m' row.id) :
    Pinned s' m' row := by
  intro hnot row' hrow' hactive
  obtain ⟨row₀, hrow₀, hactive₀, hsame⟩ := hs.row hnot row' hrow' hactive
  exact hsame.trans (h (fun hmem => hnot (hsub hmem)) row₀ hrow₀ hactive₀)

theorem Named.spared (h : Named m bundle) (hsub : m ⊆ m')
    (hinserted : .inserted bundle.bundleId ∈ m' → .inserted bundle.bundleId ∈ m) :
    Named m' bundle := by
  intro hmem
  obtain ⟨input, placed, hplaced, hsame⟩ := h (hinserted hmem)
  exact ⟨input, placed, hsub hplaced, hsame⟩

theorem Copied.spared (h : Copied cfg s m bundle) (hsub : m ⊆ m')
    (hs : CopySpared s m s' m' bundle.bundleId) : Copied cfg s' m' bundle := by
  obtain ⟨⟨row, hmirrors, hpinned⟩, hnamed⟩ := h
  refine ⟨⟨row, hmirrors, hpinned.spared hsub ?_⟩, hnamed.spared hsub hs.inserted⟩
  rwa [← hmirrors.bundleId]

theorem Copy.Tells.spared (h : t.Tells cfg s m) (hsub : m ⊆ m')
    (hs : ∀ id ∈ t.ids, CopySpared s m s' m' id) : t.Tells cfg s' m' := by
  cases t with
  | read row =>
    have hspared := hs row.id (by simp [Copy.ids])
    exact ⟨h.1.spared hsub hspared, fun hmem => h.2 (hspared.inserted hmem)⟩
  | inserted row => exact Pinned.spared h hsub (hs row.id (by simp [Copy.ids]))
  | taken bundle => exact Copied.spared h hsub (hs bundle.bundleId (by simp [Copy.ids]))
  | boot => trivial
  | booting => trivial

/-- The copies of the bundles whose rows stay as they are. -/
theorem Copying.queued_spared (h : Copying cfg s m r) (hs : Still s s') (hsub : m ⊆ m')
    (hspared : ∀ id ∈ s'.memory.mempool.queuedIds, CopySpared s m s' m' id) :
    ∀ bundle ∈ s'.memory.mempool.queued, Copied cfg s' m' bundle := by
  intro bundle hbundle
  refine (h.queued bundle (hs.queued.subset hbundle)).spared hsub (hspared _ ?_)
  exact List.mem_map_of_mem hbundle

theorem Copying.spared (h : Copying cfg s m r) (hs : Still s s') (hsub : m ⊆ m')
    (hspared : ∀ id, CopySpared s m s' m' id) : Copying cfg s' m' r where
  once := Multiset.nodup_of_le (State.copyIds_mono hs r) h.once
  rows id hid := hs.rows id (h.rows id (Multiset.mem_of_le (State.copyIds_mono hs r) hid))
  queued := h.queued_spared hs hsub fun id _ => hspared id
  tokens t ht := (h.tokens t ht).spared hsub fun id _ => hspared id
  boot hboot := by
    obtain ⟨hr, hqueue, hstarted, hnone⟩ := h.boot hboot
    have hempty := hs.queued
    rw [hqueue] at hempty
    exact ⟨hr, List.subperm_nil.mp hempty, hs.started.trans hstarted,
      fun id hid => hnone id ((hspared id).inserted hid)⟩

/-- One bundle that a task has changes; the others stay. -/
theorem Copying.change (h : Copying cfg s m (a + f)) (hs : Still s s') (hsub : m ⊆ m')
    (id : BundleId) (hspared : ∀ id', id' ≠ id → CopySpared s m s' m' id')
    (hqueue : id ∉ s.memory.mempool.queuedIds) (hapart : id ∉ copyIds f)
    (hids : copyIds b = {id}) (hrow : s'.HasRow id)
    (htells : ∀ t ∈ b, t.Tells cfg s' m') (hboot : .boot ∉ b + f) : Copying cfg s' m' (b + f) := by
  have hocc : s'.copyIds (b + f) = id ::ₘ s'.copyIds f := by
    rw [State.copyIds, copyIds_add, hids, Multiset.singleton_add, Multiset.add_cons]
    rfl
  have hle : s'.copyIds f ≤ s.copyIds (a + f) := by
    refine (State.copyIds_mono hs f).trans (add_le_add_right ?_ _)
    rw [copyIds_add]
    exact Multiset.le_add_left _ _
  have hqueue' {id' : BundleId} (hid' : id' ∈ s'.memory.mempool.queuedIds) :
      id' ∈ s.memory.mempool.queuedIds :=
    Multiset.mem_coe.mp (Multiset.mem_of_le hs.queuedIds (Multiset.mem_coe.mpr hid'))
  refine ⟨?_, ?_, ?_, ?_, fun hmem => absurd hmem hboot⟩
  · rw [hocc]
    refine Multiset.nodup_cons.mpr ⟨fun hmem => ?_, Multiset.nodup_of_le hle h.once⟩
    rcases Multiset.mem_add.mp hmem with hmem | hmem
    · exact hqueue (hqueue' (Multiset.mem_coe.mp hmem))
    · exact hapart hmem
  · rw [hocc]
    intro id' hid'
    rcases Multiset.mem_cons.mp hid' with rfl | hid'
    · exact hrow
    · exact hs.rows id' (h.rows id' (Multiset.mem_of_le hle hid'))
  · refine h.queued_spared hs hsub fun id' hid' => hspared id' ?_
    rintro rfl
    exact hqueue (hqueue' hid')
  · intro t ht
    rcases Multiset.mem_add.mp ht with ht | ht
    · exact htells t ht
    · refine (h.tokens t (Multiset.mem_add.mpr (.inr ht))).spared hsub fun id' hid' => hspared id' ?_
      rintro rfl
      exact hapart (mem_copyIds.mpr ⟨t, ht, hid'⟩)

end Spared

/-! ## Requests -/

/-- Requests that write to the row of a copy only to reset it or to make it
inactive. -/
def Req.SparesCopies : Req → Prop
  | .command (.createBundle _) => False
  | .command (.updateBundle _ data) =>
    data.status = some .pending ∨ ∃ status, data.status = some status ∧ status ∉ BundleStatus.active
  | .command (.updateStatusIfActive _ _ statuses) => statuses = BundleStatus.active
  | .command (.updateIfStatusIn _ data _) => data.status = some .failed
  | _ => True

section Requests
variable {s s' : State} {m m' : List Notice} {id : BundleId}

theorem copySpared_update {p : OperationsBundle → Bool} {now : Time} {data : OperationsBundlePatch}
    (hfind : s'.db.operationsBundles.find id = (s.db.operationsBundles.find id).map fun r =>
      if p r then r.set now data else r)
    (hgate : .reset id ∉ m' → ∀ row, s.db.operationsBundles.find id = some row → p row = true →
      (row.set now data).isIn BundleStatus.active = true →
        row.isIn BundleStatus.active = true ∧ (row.set now data).content = row.content)
    (hinserted : .inserted id ∈ m' → .inserted id ∈ m) : CopySpared s m s' m' id where
  inserted := hinserted
  row hnot row' hrow' hactive := by
    rw [hfind] at hrow'
    obtain ⟨row, hrow, rfl⟩ := Option.map_eq_some_iff.mp hrow'
    refine ⟨row, hrow, ?_⟩
    split at hactive
    · rename_i hp
      rw [if_pos hp]
      exact hgate hnot row hrow hp hactive
    · rename_i hp
      rw [if_neg hp]
      exact ⟨hactive, rfl⟩

/-- An update that leaves no active row. -/
theorem isIn_set_inactive {now : Time} {data : OperationsBundlePatch} {row : OperationsBundle}
    {status : BundleStatus} (hstatus : data.status = some status)
    (hinactive : status ∉ BundleStatus.active) :
    (row.set now data).isIn BundleStatus.active = false := by
  simp [isIn_set, hstatus, hinactive]

theorem inserted_notices {l : Call} {q : Req} {s : State} (hq : q.SparesCopies) :
    .inserted id ∈ (notices l (.served s q)).toList ++ m → .inserted id ∈ m := by
  have hnone : notices l (.served s q) ≠ some (.inserted id) := by
    cases q with
    | command w =>
      cases w with
      | createBundle data => exact hq.elim
      | updateBundle id' data =>
        simp only [notices]
        split <;> simp
      | _ => nofun
    | _ => nofun
  intro hmem
  rcases List.mem_append.mp hmem with hmem | hmem
  · exact absurd (Option.mem_toList.mp hmem) hnone
  · exact hmem

theorem serve_sparesCopies {q : Req} (hq : q.SparesCopies) (l : Call) (s : State) (m : List Notice)
    (id : BundleId) : CopySpared s m (serve q s).2 ((notices l (.served s q)).toList ++ m) id := by
  have hinserted : .inserted id ∈ (notices l (.served s q)).toList ++ m → .inserted id ∈ m :=
    inserted_notices hq
  cases q with
  | query q => exact copySpared_same rfl hinserted
  | rpc q => exact copySpared_same rfl hinserted
  | command w =>
    cases w with
    | createBundle data => exact hq.elim
    | updateBundle id' data =>
      refine copySpared_update (Database.setBundles_find s.db s.clock (·.id == id') data id) ?_ hinserted
      intro hnot row hrow hid hactive
      rcases hq with hpending | ⟨status, hstatus, hinactive⟩
      · have hreset : row.id = id' := by simpa using hid
        rw [Table.find_key hrow] at hreset
        simp [notices, hpending, hreset] at hnot
      · rw [isIn_set_inactive hstatus hinactive] at hactive
        cases hactive
    | updateStatusIfActive id' status statuses =>
      have hgate : statuses = BundleStatus.active := hq
      subst hgate
      refine copySpared_update (Database.setBundles_find s.db s.clock
        (fun r => r.id == id' && r.isIn BundleStatus.active) { status := some status } id) ?_ hinserted
      intro _ row _ hp _
      exact ⟨(Bool.and_eq_true_iff.mp hp).2, rfl⟩
    | updateIfStatusIn id' data statuses =>
      refine copySpared_update (Database.setBundles_find s.db s.clock
        (fun r => r.id == id' && r.isIn statuses) data id) ?_ hinserted
      intro _ row _ _ hactive
      rw [isIn_set_inactive hq (by decide)] at hactive
      cases hactive
    | expireOlderThan olderThan statuses limit =>
      refine copySpared_update (Database.setBundles_find s.db s.clock
        (fun r => (s.db.staleIds olderThan statuses limit).contains r.id)
        { status := some .expired } id) ?_ hinserted
      intro _ row _ _ hactive
      rw [isIn_set_inactive rfl (by decide)] at hactive
      cases hactive
    | expireByIds ids statuses =>
      refine copySpared_update (Database.setBundles_find s.db s.clock
        (fun r => ids.contains r.id && r.isIn statuses) { status := some .expired } id) ?_ hinserted
      intro _ row _ _ hactive
      rw [isIn_set_inactive rfl (by decide)] at hactive
      cases hactive
    | createTransaction _ | createUtxo _ | updateUtxo _ _ | createLink _ | recordInteraction _ _ =>
      apply copySpared_same ?_ hinserted
      simp only [serve, Command.run]
      repeat' split
      all_goals rfl
    | updateTransaction _ _ => exact copySpared_same rfl hinserted

end Requests

/-! ## Moves -/

section Moves
variable {cfg : Config} {s : State} {m m' : List Notice} {bundle : SlotBundle} {f r : Copies}
  {t : Copy}

/-- A token other than the first says that the boot is over the first. -/
theorem Copying.not_boot (h : Copying cfg s m r) (ht : t ∈ r) (hne : t ≠ .boot) : .boot ∉ r := by
  intro hboot
  rw [(h.boot hboot).1] at ht
  exact hne (Multiset.mem_singleton.mp ht)

theorem Copying.not_boot_of_started (h : Copying cfg s m r) (hs : s.memory.started = true) :
    .boot ∉ r := by
  intro hboot
  have hnot := (h.boot hboot).2.2.1
  rw [hs] at hnot
  cases hnot

/-- The bundle of a token is nowhere else. -/
theorem Copying.apart {id : BundleId} (h : Copying cfg s m ({t} + f)) (hids : t.ids = [id]) :
    id ∉ s.memory.mempool.queuedIds ∧ id ∉ copyIds f := by
  have honce := h.once
  rw [State.copyIds, copyIds_add, copyIds_singleton, hids, Multiset.coe_singleton,
    Multiset.singleton_add, Multiset.add_cons] at honce
  have hnot := (Multiset.nodup_cons.mp honce).1
  rw [Multiset.mem_add, not_or] at hnot
  exact ⟨hnot.1, hnot.2⟩

/-- A copy joins the queue, or is lost with whatever it displaced. -/
theorem Copying.place (h : Copying cfg s m ({t} + f)) (hids : t.ids = [bundle.bundleId])
    (hsub : m ⊆ m') (hinserted : ∀ id, .inserted id ∈ m' → .inserted id ∈ m)
    (hcopied : Copied cfg s m' bundle) : Copying cfg (runOp (.place bundle) s).2 m' f := by
  have hspared (id : BundleId) : CopySpared s m (runOp (.place bundle) s).2 m' id :=
    copySpared_same (by rw [runOp_db]) (hinserted id)
  have hsame : CopySpared s m' (runOp (.place bundle) s).2 m' bundle.bundleId :=
    copySpared_same (by rw [runOp_db]) id
  have hqueue := Mempool.place_subperm s.memory.mempool bundle
  have hle : ((runOp (.place bundle) s).2.memory.mempool.queuedIds : Multiset BundleId) ≤
      bundle.bundleId ::ₘ s.memory.mempool.queuedIds :=
    Multiset.map_le_map (Multiset.coe_le.mpr hqueue)
  have hocc : (runOp (.place bundle) s).2.copyIds f ≤ s.copyIds ({t} + f) := by
    refine (add_le_add_left hle _).trans (le_of_eq ?_)
    rw [State.copyIds, copyIds_add, copyIds_singleton, hids, Multiset.coe_singleton,
      Multiset.cons_add, Multiset.singleton_add, Multiset.add_cons]
  have hne : t ≠ .boot := by
    rintro rfl
    cases hids
  have hnot : .boot ∉ {t} + f := h.not_boot (t := t) (by simp) hne
  refine ⟨Multiset.nodup_of_le hocc h.once, fun id hid => ?_, fun b hb => ?_, fun t' ht' => ?_,
    fun hboot => absurd (Multiset.mem_add.mpr (.inr hboot)) hnot⟩
  · rw [State.HasRow, runOp_db]
    exact h.rows id (Multiset.mem_of_le hocc hid)
  · rcases List.mem_cons.mp (hqueue.subset hb) with rfl | hb
    · exact hcopied.spared (List.Subset.refl _) hsame
    · exact (h.queued b hb).spared hsub (hspared _)
  · exact (h.tokens t' (Multiset.mem_add.mpr (.inr ht'))).spared hsub fun id _ => hspared id

/-- One token for each bundle of a slot. -/
def takenAll (bundles : List SlotBundle) : Copies :=
  (bundles.map fun bundle => ({.taken bundle} : Copies)).sum

/-- The bundles of the slot that is pulled go to the tick that pulls it. -/
theorem Copying.pull {slot : Slot} (h : Copying cfg s m f)
    (hpull : s.memory.mempool.removeFirstSlot.1 = some slot) :
    Copying cfg (runOp .removeFirstSlot s).2 m (takenAll slot.bundles + f) := by
  have hqueued : s.memory.mempool.queued =
      slot.bundles ++ (runOp .removeFirstSlot s).2.memory.mempool.queued :=
    Mempool.queued_of_removeFirstSlot hpull
  have hspared (id : BundleId) : CopySpared s m (runOp .removeFirstSlot s).2 m id :=
    copySpared_same (by rw [runOp_db]) fun hid => hid
  have hids : copyIds (takenAll slot.bundles) = (slot.bundles.map (·.bundleId) : List BundleId) :=
    copyIds_sum (fun _ => rfl) _
  have hocc : (runOp .removeFirstSlot s).2.copyIds (takenAll slot.bundles + f) = s.copyIds f := by
    rw [State.copyIds, State.copyIds, copyIds_add, hids, Mempool.queuedIds, Mempool.queuedIds,
      hqueued, List.map_append, ← Multiset.coe_add, add_left_comm, add_assoc]
  refine ⟨hocc ▸ h.once, fun id hid => ?_, fun b hb => ?_, fun t ht => ?_, fun hboot => ?_⟩
  · rw [State.HasRow, runOp_db]
    exact h.rows id (hocc ▸ hid)
  · refine (h.queued b ?_).spared (List.Subset.refl _) (hspared _)
    rw [hqueued]
    exact List.mem_append_right _ hb
  · rcases Multiset.mem_add.mp ht with ht | ht
    · obtain ⟨b, hb, rfl⟩ := mem_sum_singletons.mp ht
      refine Copied.spared (h.queued b ?_) (List.Subset.refl _) (hspared _)
      rw [hqueued]
      exact List.mem_append_left _ hb
    · exact (h.tokens t ht).spared (List.Subset.refl _) fun id _ => hspared id
  · rcases Multiset.mem_add.mp hboot with hboot | hboot
    · obtain ⟨b, -, hb⟩ := mem_sum_singletons.mp hboot
      cases hb
    · obtain ⟨hf, hempty, hstarted, hnone⟩ := h.boot hboot
      rw [hqueued] at hempty
      obtain ⟨hslot, hrest⟩ := List.append_eq_nil_iff.mp hempty
      refine ⟨?_, hrest, hstarted, hnone⟩
      rw [hslot, hf]
      exact zero_add _

/-- The boot reads the rows while there is no copy of any. -/
theorem Copying.hydrate (h : Copying cfg s m ({.boot} + f)) : Copying cfg s m ({.booting} +
    ((Query.findPendingOrProcessing.run s.db).map fun row => ({.read row} : Copies)).sum + f) := by
  obtain ⟨hr, hqueue, -, hnone⟩ := h.boot (by simp)
  have hf : f = 0 := by rwa [add_eq_left] at hr
  subst hf
  generalize hrows : Query.findPendingOrProcessing.run s.db = rows
  have hfind {row : OperationsBundle} (hrow : row ∈ rows) :
      s.db.operationsBundles.find row.id = some row := by
    rw [← hrows] at hrow
    exact Table.find_of_mem (Table.mem_select.mp hrow).1
  have hocc : s.copyIds ({.booting} + (rows.map fun row => ({.read row} : Copies)).sum + 0) =
      (rows.map (·.id) : List BundleId) := by
    have hread : copyIds (rows.map fun row => ({.read row} : Copies)).sum =
        (rows.map (·.id) : List BundleId) := copyIds_sum (fun _ => rfl) _
    simp [State.copyIds, Mempool.queuedIds, hqueue, hread, Copy.ids]
  refine ⟨?_, fun id hid => ?_, fun b hb => ?_, fun t ht => ?_, fun hboot => ?_⟩
  · rw [hocc, ← hrows]
    exact Multiset.coe_nodup.mpr (Table.select_nodup _ _)
  · rw [hocc] at hid
    obtain ⟨row, hrow, rfl⟩ := List.mem_map.mp (Multiset.mem_coe.mp hid)
    exact Option.isSome_of_eq_some (hfind hrow)
  · rw [hqueue] at hb
    cases hb
  · rw [add_zero] at ht
    rcases Multiset.mem_add.mp ht with ht | ht
    · rw [Multiset.mem_singleton.mp ht]
      trivial
    · obtain ⟨row, hrow, rfl⟩ := mem_sum_singletons.mp ht
      refine ⟨fun _ row' hrow' _ => ?_, hnone row.id⟩
      cases (hfind hrow).symm.trans hrow'
      rfl
  · rw [add_zero] at hboot
    rcases Multiset.mem_add.mp hboot with hboot | hboot
    · cases Multiset.mem_singleton.mp hboot
    · obtain ⟨row, -, hrow⟩ := mem_sum_singletons.mp hboot
      cases hrow

/-- The mempool system has started: the boot is over. -/
theorem Copying.setStarted (h : Copying cfg s m ({.booting} + f)) :
    Copying cfg (runOp .setStarted s).2 m ({.booting} + f) := by
  have hnot : .boot ∉ {.booting} + f := h.not_boot (t := .booting) (by simp) (by simp)
  have hspared (id : BundleId) : CopySpared s m (runOp .setStarted s).2 m id :=
    copySpared_same rfl fun hid => hid
  exact ⟨h.once, h.rows, fun b hb => (h.queued b hb).spared (List.Subset.refl _) (hspared _),
    fun t ht => (h.tokens t ht).spared (List.Subset.refl _) fun id _ => hspared id,
    fun hboot => absurd hboot hnot⟩

/-- A request inserts a row: nobody has a copy of it yet. -/
theorem Copying.admit {data : NewOperationsBundle} {s' : State} (h : Copying cfg s m f)
    (hf : .boot ∉ f) (hs : Still s s') (hnew : ¬ s.HasRow data.id)
    (hfind : ∀ id, s'.db.operationsBundles.find id =
      if data.id = id then some (data.row s.clock) else s.db.operationsBundles.find id) :
    Copying cfg s' (.inserted data.id :: m) ({.inserted (data.row s.clock)} + f) := by
  have hnone : data.id ∉ s.copyIds f := fun hmem => hnew (h.rows _ hmem)
  rw [State.copyIds, Multiset.mem_add, not_or] at hnone
  rw [← zero_add f] at h
  refine h.change hs (List.subset_cons_self _ _) data.id ?_ hnone.1 hnone.2 (by simp [Copy.ids]) ?_
    ?_ (by simp [hf])
  · intro id hne
    refine copySpared_same (by rw [hfind, if_neg (Ne.symm hne)]) fun hmem => ?_
    rcases List.mem_cons.mp hmem with heq | hmem
    · cases heq
      exact absurd rfl hne
    · exact hmem
  · rw [State.HasRow, hfind, if_pos rfl]
    rfl
  · intro t ht
    rw [Multiset.mem_singleton.mp ht]
    intro _ row' hrow' _
    rw [NewOperationsBundle.row_id, hfind, if_pos rfl] at hrow'
    cases hrow'
    rfl

/-- The update of a retry, gated on the active statuses. -/
def retryPatch (result : ExecutionFailureResult) : OperationsBundlePatch where
  status := some .pending
  retryCount := some result.nextRetryCount
  lastFailureReason := some result.lastFailureReason

/-- The tick that has the copy writes the retry to the row. -/
theorem Copying.retry (h : Copying cfg s m ({.taken bundle} + f))
    (result : ExecutionFailureResult) :
    Copying cfg (serve (.command (.updateIfStatusIn bundle.bundleId (retryPatch result)
      BundleStatus.active)) s).2 m ({.taken (bundle.retried result)} + f) := by
  have hnot : .boot ∉ {.taken bundle} + f := h.not_boot (t := .taken bundle) (by simp) (by simp)
  obtain ⟨hqueue, hapart⟩ : bundle.bundleId ∉ s.memory.mempool.queuedIds ∧
      bundle.bundleId ∉ copyIds f := h.apart rfl
  have hfind := Database.setBundles_find s.db s.clock
    (fun r => r.id == bundle.bundleId && r.isIn BundleStatus.active) (retryPatch result)
  obtain ⟨⟨row, hmirrors, hpinned⟩, hnamed⟩ : Copied cfg s m bundle :=
    h.tokens (.taken bundle) (by simp)
  refine h.change (serve_still _ s) (List.Subset.refl _) bundle.bundleId ?_ hqueue hapart
    (by simp [Copy.ids]) ?_ ?_ ?_
  · intro id hne
    refine copySpared_update (hfind id) (fun _ row hrow hp _ => ?_) fun hmem => hmem
    have hid : row.id = bundle.bundleId := by simpa using (Bool.and_eq_true_iff.mp hp).1
    exact absurd (hid.symm.trans (Table.find_key hrow)).symm hne
  · exact (serve_still _ s).rows _ (h.rows _ (by simp [State.copyIds, Copy.ids]))
  · intro t ht
    rw [Multiset.mem_singleton.mp ht]
    refine ⟨⟨_, hmirrors.retried result, fun hreset row' hrow' hactive => ?_⟩, hnamed⟩
    change (Database.setBundles s.db s.clock _ _).2.operationsBundles.find row.id = some row' at hrow'
    rw [hfind] at hrow'
    obtain ⟨row₀, hrow₀, hset⟩ := Option.map_eq_some_iff.mp hrow'
    have hid : row₀.id = bundle.bundleId := (Table.find_key hrow₀).trans hmirrors.bundleId.symm
    split at hset
    · rename_i hp
      have hsame := hpinned hreset row₀ hrow₀ (Bool.and_eq_true_iff.mp hp).2
      rw [← hset]
      exact congrArg (fun c : OperationsBundle => { c with
        retryCount := result.nextRetryCount
        lastFailureReason := some result.lastFailureReason }) hsame
    · rename_i hp
      rw [← hset] at hactive
      exact absurd (Bool.and_eq_true_iff.mpr ⟨by simp [hid], hactive⟩) hp
  · simpa using fun hmem => hnot (Multiset.mem_add.mpr (.inr hmem))

/-- A process that has just been launched. -/
theorem copying_boot {cfg : Config} (hmemory : s.memory = .boot cfg) :
    Copying cfg s [] {.boot} := by
  have hqueue : s.memory.mempool.queued = [] := by rw [hmemory]; rfl
  have hocc : s.copyIds {.boot} = 0 := by
    rw [State.copyIds, Mempool.queuedIds, hqueue]
    rfl
  refine ⟨by simp [hocc], by simp [hocc], by simp [hqueue], fun t ht => ?_, fun _ => ?_⟩
  · rw [Multiset.mem_singleton.mp ht]
    trivial
  · exact ⟨rfl, hqueue, by rw [hmemory]; rfl, fun _ => List.not_mem_nil⟩

end Moves

end ProviderPlatform
