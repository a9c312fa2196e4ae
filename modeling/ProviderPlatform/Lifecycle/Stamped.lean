import Mathlib.Algebra.Order.PUnit
import ProviderPlatform.Async.Hindsight
import ProviderPlatform.Async.Returning
import ProviderPlatform.Lifecycle.RetryBound

/-! # What admission stamps on a bundle

The terms of a bundle (its id, channel, PP, operations and fee) are written by the
request that admits it, and by nothing else: what holds of the terms of every
admitted request holds of every row that is PENDING or PROCESSING, of every queued
bundle and of every bundle that was handed over for submission. -/
namespace ProviderPlatform
open Async Store

/-! ## Stamps -/

namespace OperationsBundlePatch

/-- The rows are no longer PENDING or PROCESSING afterwards. -/
def Retires (data : OperationsBundlePatch) : Prop :=
  ∃ F, data.status = some F ∧ F ∉ BundleStatus.active

/-- The terms are left as they are. -/
structure SparesTerms (data : OperationsBundlePatch) : Prop where
  channelContractId : data.channelContractId = none
  operationsMLXDR : data.operationsMLXDR = none
  fee : data.fee = none
  ppPublicKey : data.ppPublicKey = none

end OperationsBundlePatch

/-- A property of the terms of a row, and of the bundle in memory: writes that
spare the terms keep it, hydration passes it on, and so does a retry. -/
structure Stamp (cfg : Config) where
  row : OperationsBundle → Prop
  bundle : SlotBundle → Prop
  spares : ∀ r now (data : OperationsBundlePatch), data.SparesTerms → row r → row (r.set now data)
  hydrates : ∀ r, row r → (createSlotBundleFromEntity cfg r).Yields bundle
  retries : ∀ (b : SlotBundle) retryCount lastFailureReason, bundle b →
    bundle { b with retryCount := retryCount, lastFailureReason := lastFailureReason }

/-- The row has the terms of the request. -/
structure OperationsBundle.Of (input : BundleRequest) (adm : Admission) (row : OperationsBundle) :
    Prop where
  id : row.id = adm.bundleId
  channelContractId : row.channelContractId = some input.channelContractId
  operationsMLXDR : row.operationsMLXDR = input.operationsMLXDR
  fee : row.fee = adm.fee
  ppPublicKey : row.ppPublicKey = some input.ppPublicKey

section Stamped
variable {cfg : Config} (T : Stamp cfg)

/-- What is queued, what is PENDING or PROCESSING, and what was handed over. -/
structure State.Stamped (s : State) : Prop where
  queued : ∀ b ∈ s.memory.mempool.queued, T.bundle b
  rows : ∀ id row, s.db.operationsBundles.find id = some row → row.status ∈ BundleStatus.active →
    T.row row
  handed : ∀ channel pp bundles, .handed channel pp bundles ∈ s.history → ∀ b ∈ bundles, T.bundle b

def Op.Stamped : Op → Prop
  | .place bundle => T.bundle bundle
  | .note (.handed _ _ bundles) => ∀ b ∈ bundles, T.bundle b
  | _ => True

def Req.Stamped : Req → Prop
  | .command (.createBundle data) => ∀ now, T.row (data.row now)
  | .command (.updateBundle id data) =>
    data.Retires ∨ ∀ (row : OperationsBundle) now, row.id = id → T.row (row.set now data)
  | .command (.updateStatusIfActive _ _ statuses) => statuses = BundleStatus.active
  | .command (.updateIfStatusIn _ data statuses) =>
    statuses = BundleStatus.active ∧ (data.Retires ∨ data.SparesTerms)
  | _ => True

variable {T} {s : State}

theorem State.Stamped.runOp (h : s.Stamped T) {o : Op} (ho : o.Stamped T) :
    (runOp o s).2.Stamped T := by
  refine ⟨fun b hb => ?_, fun id row hrow => ?_, ?_⟩
  · by_cases hplace : ∃ bundle, o = .place bundle
    · obtain ⟨bundle, rfl⟩ := hplace
      rcases List.mem_cons.mp ((Mempool.place_subperm _ _).subset hb) with rfl | hold
      · exact ho
      · exact h.queued b hold
    · exact h.queued b ((runOp_queued (fun bundle he => hplace ⟨bundle, he⟩) s).subset hb)
  · rw [runOp_db] at hrow
    exact h.rows id row hrow
  · cases o with
    | note submission =>
      intro channel pp bundles hmem
      rcases List.mem_append.mp hmem with hold | hnew
      · exact h.handed channel pp bundles hold
      · cases List.mem_singleton.mp hnew
        exact ho
    | _ => exact h.handed

/-- A write to the rows that satisfy `p`, after which each of them is retired or
has its stamp. -/
theorem State.Stamped.set (h : s.Stamped T) {p : OperationsBundle → Bool}
    {data : OperationsBundlePatch} {id : BundleId} {row : OperationsBundle}
    (hdata : ∀ old, s.db.operationsBundles.find id = some old → p old = true →
      data.Retires ∨ T.row (old.set s.clock data))
    (hrow : (s.db.setBundles s.clock p data).2.operationsBundles.find id = some row)
    (hactive : row.status ∈ BundleStatus.active) : T.row row := by
  rw [Database.setBundles_find] at hrow
  obtain ⟨old, hold, rfl⟩ := Option.map_eq_some_iff.mp hrow
  split at hactive
  · rename_i hp
    rw [if_pos hp]
    rcases hdata old hold hp with ⟨F, hF, hnot⟩ | hstamped
    · rw [OperationsBundle.set_status, hF] at hactive
      exact absurd hactive hnot
    · exact hstamped
  · rename_i hp
    rw [if_neg hp]
    exact h.rows id old hold hactive

theorem retires_expired : OperationsBundlePatch.Retires { status := some .expired } :=
  ⟨.expired, rfl, by decide⟩

theorem retires_failed {data : OperationsBundlePatch} (h : data.status = some .failed) :
    data.Retires := ⟨.failed, h, by decide⟩

theorem sparesTerms_status (F : BundleStatus) :
    OperationsBundlePatch.SparesTerms { status := some F } := ⟨rfl, rfl, rfl, rfl⟩

theorem State.Stamped.serveRows (h : s.Stamped T) {w : Command}
    (hw : Req.Stamped T (.command w)) {id : BundleId} {row : OperationsBundle}
    (hrow : (serve (.command w) s).2.db.operationsBundles.find id = some row)
    (hactive : row.status ∈ BundleStatus.active) : T.row row := by
  cases w with
  | createBundle data =>
    obtain ⟨-, -, hfind⟩ | ⟨-, -, hsame⟩ := serve_createBundle data s
    · rw [hfind] at hrow
      split at hrow
      · cases hrow
        exact hw _
      · exact h.rows id row hrow hactive
    · rw [hsame] at hrow
      exact h.rows id row hrow hactive
  | updateBundle id' data =>
    refine h.set (fun old hold hp => hw.imp_right fun hrenews => hrenews old _ ?_) hrow hactive
    exact eq_of_beq hp
  | updateStatusIfActive id' F statuses =>
    refine h.set (fun old hold hp => ?_) hrow hactive
    obtain rfl : statuses = BundleStatus.active := hw
    exact .inr (T.spares old _ _ (sparesTerms_status F)
      (h.rows id old hold (by simp_all [OperationsBundle.isIn])))
  | updateIfStatusIn id' data statuses =>
    refine h.set (fun old hold hp => ?_) hrow hactive
    obtain ⟨rfl, hdata⟩ := hw
    exact hdata.imp_right fun hspares => T.spares old _ _ hspares
      (h.rows id old hold (by simp_all [OperationsBundle.isIn]))
  | expireOlderThan _ _ _ | expireByIds _ _ =>
    exact h.set (fun _ _ _ => .inl retires_expired) hrow hactive
  | createUtxo _ | updateUtxo _ _ | createTransaction _ | updateTransaction _ _ | createLink _
    | recordInteraction _ _ =>
    refine h.rows id row (Eq.trans (Eq.symm ?_) hrow) hactive
    simp only [ProviderPlatform.serve, Command.run]
    repeat' split
    all_goals rfl

theorem State.Stamped.serve (h : s.Stamped T) {q : Req} (hq : q.Stamped T) :
    (serve q s).2.Stamped T := by
  cases q with
  | query q => exact h
  | rpc r => exact ⟨h.queued, h.rows, h.handed⟩
  | command w =>
    refine ⟨h.queued, fun id row hrow hactive => h.serveRows hq hrow hactive, ?_⟩
    intro channel pp bundles hmem
    rcases List.mem_append.mp hmem with hold | hnoted
    · exact h.handed channel pp bundles hold
    · unfold Command.notes at hnoted
      split at hnoted
      · split at hnoted
        · cases List.mem_singleton.mp hnoted
        · cases hnoted
      · cases hnoted

theorem State.Stamped.drift (h : s.Stamped T) (d : Drift) : (drift d s).Stamped T := by
  refine ⟨?_, fun id row hrow => ?_, ?_⟩
  · rw [drift_mempool]
    exact h.queued
  · rw [(drift_agrees d s).bundles] at hrow
    exact h.rows id row hrow
  · rw [drift_history]
    exact h.handed

theorem State.Stamped.reboot (h : s.Stamped T) : (reboot cfg s).Stamped T :=
  ⟨fun _ => nofun, h.rows, h.handed⟩

theorem State.Stamped.fresh (h : Fresh cfg s) : s.Stamped T where
  queued b hb := by
    have hqueued : s.memory.mempool.queued = [] := by rw [h.memory]; rfl
    rw [hqueued] at hb
    cases hb
  rows id row hrow := by
    have hmem := Table.find_mem hrow
    rw [h.bundles] at hmem
    cases hmem
  handed channel pp bundles hmem := by
    rw [h.history] at hmem
    cases hmem

end Stamped

/-! ## The tasks -/

section Tasks
variable {cfg : Config} {μ : Type} (T : Stamp cfg) (O : Observer platform State Call μ)
  (ok : μ → Prop) (l : Call)

/-- The stamps are kept; a step leaves something fine to the observer. Nothing is
owned. -/
def stamping : Discipline platform (State × μ) Unit where
  inv p _ := p.1.Stamped T
  mayRun p o := ok (O.onOp l p.1 o p.2)
  mayServe p q := ok (O.onServe l p.1 q p.2)
  mayReject _ _ := True

/-- The task keeps the stamps, and what it returns satisfies `Q`. -/
abbrev Stamps {α : Type} (t : Promise α) (Q : α → Prop) : Prop :=
  Task.Returning (host.observe O l) (stamping T O ok l) () t Q

variable {T O ok l} {α : Type} {t : Promise α} {Q : α → Prop}

theorem stamping_passes :
    Task.Passes (host.observe O l) (stamping T O ok l) (Op.Stamped T) (Req.Stamped T) where
  run _ ho _ _ hs _ := State.Stamped.runOp hs ho
  serve _ hq _ _ hs _ := State.Stamped.serve hs hq

theorem stamps_yields (ht : Keeps (Op.Stamped T) (Req.Stamped T) t) (hy : t.Yields Q) :
    Stamps T O ok l t Q := stamping_passes.yields ht hy ()

theorem stamps_uses (ht : Keeps (Op.Stamped T) (Req.Stamped T) t) :
    Stamps T O ok l t fun _ => True := stamps_yields ht t.yields_any

theorem permits_stamped : Permits (Op.Stamped T) (Req.Stamped T) where
  query _ := trivial
  rpc _ := trivial
  now := trivial
  emit _ _ := trivial
  isDisabled _ := trivial

theorem maySubmit_stamped : MaySubmit (Op.Stamped T) (Req.Stamped T) where
  toPermits := permits_stamped
  returned _ _ := trivial
  createTransaction _ _ := trivial
  createLink _ := trivial

/-! ### The mempool -/

theorem markExpired_stamped (bundle : SlotBundle) :
    Keeps (Op.Stamped T) (Req.Stamped T) (Mempool.markExpired bundle) :=
  Mempool.markExpired_keeps permits_stamped.toAnnounces (fun _ => .inl retires_expired) bundle

theorem addBundle_stamped {bundle : SlotBundle} (hb : T.bundle bundle) :
    Keeps (Op.Stamped T) (Req.Stamped T) (Mempool.addBundle cfg bundle) := by
  have h := permits_stamped (T := T)
  refine (keeps_run h.now).bind fun now => ?_
  refine keeps_ite (fun _ => markExpired_stamped bundle) fun _ => ?_
  have hplace : Op.Stamped T (.place bundle) := hb
  refine (keeps_run hplace).bind fun placement => ?_
  have hadded (newSlot : Bool) : Keeps (Op.Stamped T) (Req.Stamped T) (do
      emitForPp bundle.ppPublicKey (Mempool.bundleAddedPayload bundle newSlot)
      Mempool.activate bundle) :=
    (emitForPp_keeps h.toAnnounces _ rfl).bind fun _ =>
      Mempool.activate_keeps (fun _ => rfl) (fun _ => trivial) bundle
  cases placement with
  | existingSlot => exact hadded false
  | newSlot => exact hadded true
  | slotFull => exact keeps_reject _

theorem reAddBundles_stamped {bundles : List SlotBundle} (h : ∀ b ∈ bundles, T.bundle b) :
    Keeps (Op.Stamped T) (Req.Stamped T) (Mempool.reAddBundles cfg bundles) :=
  Task.Uses.forEach fun b hb => (addBundle_stamped (h b hb)).recover fun _ => keeps_pure _

theorem loadPendingBundlesFromDB_stamps :
    Stamps T O ok l (loadPendingBundlesFromDB cfg) fun bundles => ∀ b ∈ bundles, T.bundle b := by
  have h := permits_stamped (T := T)
  have hrows : Stamps T O ok l (query .findPendingOrProcessing) fun rows =>
      ∀ row ∈ rows, T.row row := by
    refine Task.Returning.call fun p _ hs _ => ⟨fun rows hanswer row hrow => ?_, hs⟩
    have hserved : p.1.db.operationsBundles.select (·.isIn BundleStatus.active) = rows :=
      Except.ok.inj hanswer
    rw [← hserved, Table.mem_select] at hrow
    refine State.Stamped.rows hs row.id row (Table.find_of_mem hrow.1) ?_
    simp_all [OperationsBundle.isIn]
  refine Task.Returning.bind hrows fun rows hrows => ?_
  have hleft (row : OperationsBundle) (hrow : row ∈ rows) : Stamps T O ok l (unlessSubmitted row)
      fun found => ∀ kept, found = some kept → T.row kept := by
    refine (stamps_yields (unlessSubmitted_keeps h.toReads row) (unlessSubmitted_yields row)).imp
      fun found hfound kept hkept => ?_
    rcases hfound with rfl | rfl
    · cases hkept
    · cases hkept
      exact hrows row hrow
  refine Task.Returning.bind (Task.Returning.collect hleft) fun found hfound => ?_
  refine Task.Returning.collect fun row hrow => stamps_yields
    (createSlotBundleFromEntity_keeps h.toReads cfg row) (T.hydrates row ?_)
  obtain ⟨kept, hkept, hsome⟩ := List.mem_filterMap.mp hrow
  exact hfound kept hkept row hsome

theorem initializeMempool_stamps (fuel : Nat) :
    Stamps T O ok l (Mempool.initializeMempool cfg fuel) fun _ => True := by
  refine Task.Returning.bind (stamps_uses (Mempool.startupExpiry_keeps permits_stamped.toReads
    (fun _ _ => trivial) cfg fuel)) fun _ _ => ?_
  refine Task.Returning.bind loadPendingBundlesFromDB_stamps fun bundles hbundles => ?_
  exact Task.Returning.forEach fun b hb => stamps_uses (addBundle_stamped (hbundles b hb))

/-! ### Admission -/

/-- What the write hands back, if it is a row, has the terms of the request. -/
def Written.Of (input : BundleRequest) (adm : Admission) (written : Written OperationsBundle) :
    Prop := ∀ row, written = .row row → row.Of input adm

theorem persistBundle_stamps {input : BundleRequest} {adm : Admission}
    (hrow : ∀ row : OperationsBundle, row.Of input adm → T.row row) :
    Stamps T O ok l (persistBundle input adm) (Written.Of input adm) := by
  unfold persistBundle
  split
  · have hreset (data : OperationsBundlePatch) (hdata : ∀ (row : OperationsBundle) now,
        row.id = adm.bundleId → (row.set now data).Of input adm) :
        Stamps T O ok l (command (.updateBundle adm.bundleId data)) fun _ => True := by
      have hq : Req.Stamped T (.command (.updateBundle adm.bundleId data)) :=
        .inr fun row now hid => hrow _ (hdata row now hid)
      exact stamps_uses (keeps_command hq)
    refine Task.Returning.bind (hreset _ fun row now hid => ⟨hid, rfl, rfl, rfl, rfl⟩)
      fun updated _ => ?_
    exact Task.Returning.pure fun row hwritten => by cases hwritten
  · refine Task.Returning.bind (stamps_uses (keeps_run permits_stamped.now)) fun now _ => ?_
    have hcreate (data : NewOperationsBundle) (hdata : ∀ now, (data.row now).Of input adm) :
        Stamps T O ok l (command (.createBundle data)) (OperationsBundle.Of input adm) := by
      have hq : Req.Stamped T (.command (.createBundle data)) := fun now => hrow _ (hdata now)
      refine Task.Returning.call fun p _ hs _ => ⟨fun row hanswer => ?_, State.Stamped.serve hs hq⟩
      obtain ⟨-, hans, -⟩ | ⟨-, hans, -⟩ := serve_createBundle data p.1
      · have hsame : data.row p.1.clock = row := Except.ok.inj (hans.symm.trans hanswer)
        rw [← hsame]
        exact hdata p.1.clock
      · exact absurd (hans.symm.trans hanswer) (by simp)
    refine Task.Returning.bind (hcreate _ fun _ => ⟨rfl, rfl, rfl, rfl, rfl⟩) fun row hof => ?_
    refine Task.Returning.pure fun row' hwritten => ?_
    cases hwritten
    exact hof

/-- A request whose admissions stamp the row and the bundle. -/
theorem addOperationsBundle_stamps {input : BundleRequest} {Q : Admission → Prop}
    (hcheck : Stamps T O ok l (checkRequest cfg input) Q)
    (hrow : ∀ adm, Q adm → ∀ row : OperationsBundle, row.Of input adm → T.row row)
    (hbundle : ∀ adm, Q adm → ∀ row : OperationsBundle, row.Of input adm →
      ∀ now entityName jurisdictions bundle, createSlotBundle cfg now (.row row) adm.classified
        entityName jurisdictions = .ok bundle → T.bundle bundle) :
    Stamps T O ok l (addOperationsBundle cfg input) fun _ => True := by
  have h := permits_stamped (T := T)
  refine Task.Returning.bind hcheck fun adm hadm => ?_
  refine Task.Returning.bind (persistBundle_stamps (hrow adm hadm)) fun written hwritten => ?_
  refine Task.Returning.bind (Q := fun _ => True) ?_ fun _ _ => Task.Returning.pure trivial
  refine Task.Returning.bind (stamps_uses
    (persistCreateOperations_keeps h.toReads (fun _ => trivial) _ _ _)) fun _ _ => ?_
  refine Task.Returning.bind (stamps_uses
    (persistSpendOperations_keeps h.toReads (fun _ _ => trivial) _ _ _ _ _)) fun _ _ => ?_
  refine Task.Returning.bind (stamps_uses (keeps_run h.now)) fun now _ => ?_
  refine Task.Returning.bind (Q := T.bundle) (.done fun bundle hslot => ?_) fun bundle hstamped =>
    stamps_uses (addBundle_stamped hstamped)
  cases written with
  | array rows => cases hslot
  | row row => exact hbundle adm hadm row (hwritten row rfl) now _ _ bundle hslot

/-! ### The executor -/

theorem failBundleExecution_stamped (error : Err) (reason : FailureReason) (id : BundleId) :
    Keeps (Op.Stamped T) (Req.Stamped T) (failBundleExecution cfg error reason id) := by
  refine Task.Uses.recover ((keeps_query permits_stamped.toReads _).bind fun bundle => ?_)
    fun _ => keeps_pure _
  cases bundle with
  | none => exact keeps_pure _
  | some bundle =>
    dsimp only
    refine keeps_ite (fun _ => ?_) fun _ => ?_
    · exact (keeps_command ⟨rfl, .inl (retires_failed rfl)⟩).bind fun _ => keeps_pure _
    · exact (keeps_command ⟨rfl, .inr ⟨rfl, rfl, rfl, rfl⟩⟩).bind fun _ => keeps_pure _

theorem buildRetryBundles_stamped {slot : Slot} {metaList : List ExecutionFailureResult}
    (h : ∀ b ∈ slot.bundles, T.bundle b) : ∀ b ∈ buildRetryBundles slot metaList, T.bundle b := by
  intro b hb
  obtain ⟨old, hold, hretried⟩ := List.mem_filterMap.mp hb
  obtain ⟨m, -, rfl⟩ := Option.map_eq_some_iff.mp hretried
  exact T.retries old _ _ (h old hold)

theorem handleSlotFailure_stamped {slot : Slot} (h : ∀ b ∈ slot.bundles, T.bundle b) (error : Err) :
    Keeps (Op.Stamped T) (Req.Stamped T) (handleSlotFailure cfg slot error) := by
  have hp := permits_stamped (T := T)
  unfold handleSlotFailure
  split
  · refine Task.Uses.bind (Task.Uses.forEach fun id _ => ?_) fun _ =>
      emitExecutionFailed_keeps hp slot _ _
    exact failInsufficientFees_keeps (fun _ _ hdata => .inl (retires_failed hdata)) _ id
  · refine (keeps_run hp.now).bind fun now => ?_
    refine (emitExecutionFailed_keeps hp slot _ _).bind fun _ => ?_
    refine Task.Uses.bind ((Task.Uses.collect fun id _ =>
      failBundleExecution_stamped _ _ id).bind fun _ => keeps_pure _) fun metaList => ?_
    exact keeps_ite (fun _ => reAddBundles_stamped (buildRetryBundles_stamped h))
      fun _ => keeps_pure _

/-- The bundles that are handed over are those of the slot. -/
theorem executeSlot_stamped {slot : Slot} (h : ∀ b ∈ slot.bundles, T.bundle b) :
    Keeps (Op.Stamped T) (Req.Stamped T) (executeSlot cfg slot) := by
  have hp := maySubmit_stamped (T := T)
  unfold executeSlot
  split
  · exact keeps_reject _
  rename_i first _
  refine keeps_ite (fun _ => keeps_reject _) fun _ => keeps_ite (fun _ => keeps_reject _) fun _ => ?_
  refine (prepareSlot_keeps hp.rpc cfg _ _).bind fun prepared => ?_
  have hhanded : Op.Stamped T (.note (.handed first.channelContractId first.ppPublicKey
      slot.getBundles)) := h
  refine (keeps_run hhanded).bind fun _ => ?_
  refine (submitTransactionToNetwork_keeps hp.rpc cfg _ _ _ _).bind fun hash => ?_
  refine (keeps_run (hp.returned _ _)).bind fun _ => ?_
  refine (createTransactionRecord_keeps hp.toReads hp.createTransaction hp.createLink cfg _ _).bind
    fun _ => ?_
  exact emitForBundles_keeps hp.toPermits _ _

theorem processSlot_stamped {slot : Slot} (h : ∀ b ∈ slot.bundles, T.bundle b) :
    Keeps (Op.Stamped T) (Req.Stamped T) (processSlot cfg slot) := by
  refine Task.Uses.bind_yields
    (expireSlotBundlesPastTtl_keeps permits_stamped.toAnnounces (fun _ => rfl) slot)
    (expireSlotBundlesPastTtl_yields slot) fun left hsub => ?_
  have hleft : ∀ b ∈ left.bundles, T.bundle b := fun b hb => h b (hsub.subset hb)
  exact keeps_ite (fun _ => keeps_pure _) fun _ =>
    (executeSlot_stamped hleft).recover fun e => handleSlotFailure_stamped hleft e

theorem executeNext_stamps : Stamps T O ok l (executeNext cfg) fun _ => True := by
  refine Task.Returning.bind (stamps_uses (keeps_run trivial)) fun isProcessing _ => ?_
  split
  · exact Task.Returning.pure trivial
  refine Task.Returning.bind (stamps_uses (keeps_run trivial)) fun _ _ => ?_
  have hpull : Stamps T O ok l (run .removeFirstSlot) fun found =>
      ∀ slot, found = some slot → ∀ b ∈ slot.bundles, T.bundle b :=
    Task.Returning.op fun p _ hs _ => by
      refine ⟨fun slot hslot b hb => ?_, State.Stamped.runOp hs trivial⟩
      have hpulled : p.1.memory.mempool.removeFirstSlot.1 = some slot := hslot
      refine State.Stamped.queued hs b ?_
      rw [Mempool.queued_of_removeFirstSlot hpulled]
      exact List.mem_append_left _ hb
  refine Task.Triple.ensure (Task.Returning.bind hpull fun found hfound => ?_) ?_
  · cases found with
    | none => exact Task.Returning.pure trivial
    | some slot =>
      dsimp only
      split
      · exact Task.Returning.pure trivial
      · exact stamps_uses (processSlot_stamped (hfound slot rfl))
  · exact fun p _ hs _ => State.Stamped.runOp hs trivial

/-! ### Every call -/

theorem mayVerify_stamped : MayVerify (Op.Stamped T) (Req.Stamped T) where
  toPermits := permits_stamped
  updateTransaction _ _ := trivial
  complete _ := .inl ⟨.completed, rfl, by decide⟩
  failure _ _ hdata := .inl (retires_failed hdata)

/-- The calls of an operated provider keep the stamps, if its requests do. -/
theorem Call.program_stamps (fuel : Nat)
    (hservice : l = .launch ∨ (l.isService || l.isPurge) = true)
    (hrequests : ∀ input, l = .addOperationsBundle input →
      Stamps T O ok l (ProviderPlatform.addOperationsBundle cfg input) fun _ => True) :
    Stamps T O ok l (l.program cfg fuel) fun _ => True := by
  cases l with
  | launch =>
    exact Task.Returning.bind (initializeMempool_stamps fuel) fun _ _ =>
      stamps_uses (keeps_run trivial)
  | addOperationsBundle input =>
    exact Task.Returning.bind (hrequests input rfl) fun _ _ => Task.Returning.pure trivial
  | executeNext => exact executeNext_stamps
  | verifyTransactions => exact stamps_uses (verifyTransactions_keeps mayVerify_stamped cfg)
  | expireBundles =>
    exact stamps_uses (Mempool.expireBundles_keeps permits_stamped.toAnnounces trivial
      fun _ => .inl retires_expired)
  | purgeBundles ids =>
    exact Task.Returning.bind (stamps_uses (keeps_run trivial)) fun _ _ =>
      Task.Returning.pure trivial
  | expireByIds ids =>
    exact Task.Returning.bind (stamps_uses (keeps_command trivial)) fun _ _ =>
      Task.Returning.pure trivial
  | addBundle _ | reAddBundles _ | removeFirstSlot =>
    simp [Call.isService, Call.isPurge] at hservice

end Tasks

/-! ## Runs -/

/-- **The stamps last.** If every request that may be made stamps what it admits,
the stamps are on all that waits and all that was handed over, in every run. -/
theorem stamped_reachable {cfg : Config} {fuel : Nat} {μ : Type} {T : Stamp cfg}
    {O : Observer platform State Call μ} {ok : μ → Prop} {allowed : State → Call → Bool}
    {s : State} {c : ProviderPool} {m₀ m : μ} (hback : O.Looksback ok)
    (hallowed : ∀ s l, allowed s l = true → (l.isService || l.isPurge) = true)
    (hrequests : ∀ s input, allowed s (.addOperationsBundle input) = true →
      Stamps T O ok (.addOperationsBundle input) (addOperationsBundle cfg input) fun _ => True)
    (h0 : s.Stamped T)
    (h : (process cfg fuel allowed).Observed O Machine.Free ((process cfg fuel allowed).init s) m₀
      c m) (hm : ok m) : c.state.Stamped T := by
  have hboot : Stamps T O ok .launch (Call.launch.program cfg fuel) fun _ => True :=
    Call.program_stamps fuel (.inl rfl) fun _ => nofun
  have hshares : Shares (host.observe O) (stamping T O ok) (fun p _ => p.1.Stamped T)
      (fun _ _ _ => True) (c.state, m) c.tasks := by
    refine h.shares_within (K := stamping T O ok) (fun _ => rfl) hback
      (fun _ _ _ _ h => h) (fun _ _ _ _ h => h) (fun _ _ _ => trivial)
      (hboot.mono fun _ _ _ => trivial) (fun s' l hl => ?_) (fun s' _ d _ hs => hs.drift d)
      (fun s' _ _ hs => hs.reboot) ?_ hm
    · refine (Call.program_stamps fuel (.inr (hallowed s' l hl)) fun input he => ?_).mono
        fun _ _ _ => trivial
      subst he
      exact hrequests s' input hl
    · exact shares_single (hboot.mono fun _ _ _ => trivial) h0
  obtain ⟨-, hc⟩ := hshares.holds
  exact hc

end ProviderPlatform
