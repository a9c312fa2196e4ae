import ProviderPlatform.Provider

/-! # What each call may do

For each function, the operations and requests on its paths, whatever the
answers. The statements are over any predicate that permits the reads; the
writes a function makes are its hypotheses. -/
namespace ProviderPlatform
open Async

/-- Reads and the clock are permitted. -/
structure Reads (okOp : Op → Prop) (okReq : Req → Prop) : Prop where
  query : ∀ q, okReq (.query q)
  rpc : ∀ r, okReq (.rpc r)
  now : okOp .now

/-- Reads, the clock and the events of one bundle are permitted. -/
structure Announces (okOp : Op → Prop) (okReq : Req → Prop) : Prop extends Reads okOp okReq where
  notice : ∀ scope payload, payload.fannedOut = [] → okOp (.emit scope payload)
  isDisabled : ∀ channel, okOp (.isDisabled channel)

/-- Reads, the clock and events are permitted. -/
structure Permits (okOp : Op → Prop) (okReq : Req → Prop) : Prop extends Announces okOp okReq where
  emit : ∀ scope payload, okOp (.emit scope payload)
  notice := fun scope payload _ => emit scope payload

variable {α β : Type} {okOp : Op → Prop} {okReq : Req → Prop}

/-- `t` does only what the predicates allow. -/
abbrev Keeps (okOp : Op → Prop) (okReq : Req → Prop) (t : Promise α) : Prop :=
  Task.Uses (I := platform) okOp okReq t

theorem keeps_query (h : Reads okOp okReq) (q : Query) : Keeps okOp okReq (query q) :=
  Task.Uses.call (h.query q)

theorem keeps_rpc (h : Reads okOp okReq) (r : Rpc) : Keeps okOp okReq (rpc r) :=
  Task.Uses.call (h.rpc r)

theorem keeps_command {c : Command} (h : okReq (.command c)) : Keeps okOp okReq (command c) :=
  Task.Uses.call h

theorem keeps_run {o : Op} (h : okOp o) : Keeps okOp okReq (run o) := Task.Uses.op h

theorem keeps_reject (e : Err) : Keeps okOp okReq (reject (α := α) e) := trivial

theorem keeps_pure (a : α) : Keeps okOp okReq (pure a : Promise α) := trivial

theorem keeps_done (r : Except Err α) : Keeps okOp okReq (Task.done (I := platform) r) := trivial

theorem keeps_ite {c : Prop} [Decidable c] {t u : Promise α} (ht : c → Keeps okOp okReq t)
    (hu : ¬c → Keeps okOp okReq u) : Keeps okOp okReq (if c then t else u) := by
  split
  · exact ht ‹_›
  · exact hu ‹_›

/-! ## Events -/

section Emit
variable {payload : EventPayload} (hscope : ∀ pp, okReq (.query (.resolveScopeForPp pp)))
  (he : ∀ scope, okOp (.emit scope payload))
include hscope he

theorem emitInScope_uses (pp : PublicKey) : Keeps okOp okReq (emitInScope payload pp) := by
  refine Task.Uses.bind (Task.Uses.call (hscope _)) fun scope => ?_
  cases scope with
  | none => exact keeps_pure _
  | some scope => exact keeps_run (he scope)

theorem emitForPp_uses (pp : PublicKey) : Keeps okOp okReq (emitForPp pp payload) :=
  keeps_ite (fun _ => keeps_pure _) fun _ =>
    (emitInScope_uses hscope he pp).recover fun _ => keeps_pure _

theorem emitForBundles_uses (hpps : ∀ ids, okReq (.query (.findBundlePps ids)))
    (ids : List BundleId) : Keeps okOp okReq (emitForBundles ids payload) := by
  refine keeps_ite (fun _ => keeps_pure _) fun _ => ?_
  refine Task.Uses.recover (Task.Uses.bind (Task.Uses.call (hpps _)) fun rows => ?_) fun _ => keeps_pure _
  exact Task.Uses.forEach fun pk _ => emitInScope_uses hscope he pk

end Emit

theorem emitForPp_keeps (h : Announces okOp okReq) (pp : PublicKey) {payload : EventPayload}
    (hone : payload.fannedOut = []) : Keeps okOp okReq (emitForPp pp payload) :=
  emitForPp_uses (fun _ => h.query _) (fun _ => h.notice _ _ hone) pp

theorem emitForBundles_keeps (h : Permits okOp okReq) (ids : List BundleId)
    (payload : EventPayload) : Keeps okOp okReq (emitForBundles ids payload) :=
  emitForBundles_uses (fun _ => h.query _) (fun _ => h.emit _ _) (fun _ => h.query _) ids

/-! ## The mempool -/

theorem lookupSubmitter_keeps (h : Reads okOp okReq) (pubkey : Option AccountId) :
    Keeps okOp okReq (lookupSubmitter pubkey) := by
  unfold lookupSubmitter
  split
  · exact keeps_pure _
  · refine (keeps_query h _).bind fun account => ?_
    cases account with
    | none => exact keeps_pure _
    | some account =>
      refine (keeps_query h _).bind fun entity => ?_
      cases entity <;> exact keeps_pure _

theorem createSlotBundleFromEntity_keeps (h : Reads okOp okReq) (cfg : Config)
    (bundle : OperationsBundle) : Keeps okOp okReq (createSlotBundleFromEntity cfg bundle) := by
  refine (keeps_done _).bind fun operations => ?_
  refine (keeps_run h.now).bind fun now => ?_
  exact (lookupSubmitter_keeps h _).bind fun _ => keeps_pure _

theorem unlessSubmitted_keeps (h : Reads okOp okReq) (bundle : OperationsBundle) :
    Keeps okOp okReq (unlessSubmitted bundle) :=
  keeps_ite (fun _ => (keeps_query h _).bind fun _ => keeps_pure _) fun _ => keeps_pure _

theorem loadPendingBundlesFromDB_keeps (h : Reads okOp okReq) (cfg : Config) :
    Keeps okOp okReq (loadPendingBundlesFromDB cfg) := by
  refine (keeps_query h _).bind fun bundles => ?_
  refine (Task.Uses.collect fun b _ => unlessSubmitted_keeps h b).bind fun _ => ?_
  exact Task.Uses.collect fun b _ => createSlotBundleFromEntity_keeps h cfg b

namespace Mempool

theorem markExpired_keeps (h : Announces okOp okReq)
    (hexp : ∀ id, okReq (.command (.updateBundle id { status := some .expired })))
    (bundle : SlotBundle) : Keeps okOp okReq (markExpired bundle) :=
  (keeps_command (hexp _)).bind fun _ => emitForPp_keeps h _ rfl

theorem activate_keeps
    (hact : ∀ id, okReq (.command (.updateStatusIfActive id .processing BundleStatus.active)))
    (hpurge : ∀ ids, okOp (.purgeBundles ids)) (bundle : SlotBundle) :
    Keeps okOp okReq (activate bundle) := by
  refine Task.Uses.recover ((keeps_command (hact _)).bind fun updated => ?_) fun e => ?_
  · exact keeps_ite (fun _ => keeps_pure _) fun _ =>
      (keeps_run (hpurge _)).bind fun _ => keeps_pure _
  · exact (keeps_run (hpurge _)).bind fun _ => keeps_reject e

/-- What `addBundle` writes. -/
structure MayAdd (okOp : Op → Prop) (okReq : Req → Prop) : Prop extends Announces okOp okReq where
  place : ∀ b, okOp (.place b)
  purge : ∀ ids, okOp (.purgeBundles ids)
  expire : ∀ id, okReq (.command (.updateBundle id { status := some .expired }))
  activate : ∀ id, okReq (.command (.updateStatusIfActive id .processing BundleStatus.active))

theorem addBundle_keeps (h : MayAdd okOp okReq) (cfg : Config) (bundle : SlotBundle) :
    Keeps okOp okReq (addBundle cfg bundle) := by
  refine (keeps_run h.now).bind fun now => ?_
  refine keeps_ite (fun _ => markExpired_keeps h.toAnnounces h.expire bundle) fun _ => ?_
  refine (keeps_run (h.place _)).bind fun placement => ?_
  have hadded (newSlot : Bool) : Keeps okOp okReq (do
      emitForPp bundle.ppPublicKey (bundleAddedPayload bundle newSlot)
      Mempool.activate bundle) :=
    (emitForPp_keeps h.toAnnounces _ rfl).bind fun _ => activate_keeps h.activate h.purge bundle
  cases placement with
  | existingSlot => exact hadded false
  | newSlot => exact hadded true
  | slotFull => exact keeps_reject _

theorem reAddBundles_keeps (h : MayAdd okOp okReq) (cfg : Config) (bundles : List SlotBundle) :
    Keeps okOp okReq (reAddBundles cfg bundles) :=
  Task.Uses.forEach fun b _ => (addBundle_keeps h cfg b).recover fun _ => keeps_pure _

theorem expireBundles_keeps (h : Announces okOp okReq) (htake : okOp .takeExpired)
    (hexp : ∀ id, okReq (.command (.updateBundle id { status := some .expired }))) :
    Keeps okOp okReq expireBundles :=
  (keeps_run htake).bind fun _ => Task.Uses.forEach fun b _ => markExpired_keeps h hexp b

theorem expireStale_keeps
    (hstale : ∀ t n, okReq (.command (.expireOlderThan t BundleStatus.active n)))
    (cutoff : Time) : ∀ fuel, Keeps okOp okReq (expireStale cutoff fuel)
  | 0 => keeps_reject _
  | fuel + 1 => (keeps_command (hstale _ _)).bind fun _ =>
    keeps_ite (fun _ => expireStale_keeps hstale cutoff fuel) fun _ => keeps_pure _

theorem startupExpiry_keeps (h : Reads okOp okReq)
    (hstale : ∀ t n, okReq (.command (.expireOlderThan t BundleStatus.active n)))
    (cfg : Config) (fuel : Nat) : Keeps okOp okReq (startupExpiry cfg fuel) :=
  keeps_ite (fun _ => (keeps_run h.now).bind fun _ => expireStale_keeps hstale _ fuel)
    fun _ => keeps_pure _

theorem initializeMempool_keeps (h : MayAdd okOp okReq)
    (hstale : ∀ t n, okReq (.command (.expireOlderThan t BundleStatus.active n)))
    (cfg : Config) (fuel : Nat) : Keeps okOp okReq (initializeMempool cfg fuel) := by
  refine (startupExpiry_keeps h.toReads hstale cfg fuel).bind fun _ => ?_
  refine (loadPendingBundlesFromDB_keeps h.toReads cfg).bind fun bundles => ?_
  exact Task.Uses.forEach fun b _ => addBundle_keeps h cfg b

end Mempool

/-! ## Admission -/

theorem withAdmissionTimeout_keeps {t : Promise α} (channel : ContractId)
    (ht : Keeps okOp okReq t) : Keeps okOp okReq (withAdmissionTimeout channel t) := by
  refine ht.recover fun e => ?_
  split <;> exact keeps_reject _

theorem rejectSubmitter_keeps
    (hrec : ∀ pp account, okReq (.command (.recordInteraction pp account)))
    (pp : PublicKey) (account : AccountId) :
    Keeps okOp okReq (rejectSubmitter (α := α) pp account) :=
  ((keeps_command (hrec _ _)).recover fun _ => keeps_pure _).bind fun _ => keeps_reject _

theorem validateSubmitter_keeps (hquery : ∀ q, okReq (.query q))
    (hrec : ∀ pp account, okReq (.command (.recordInteraction pp account)))
    (pp : PublicKey) (sessionId : String) :
    Keeps okOp okReq (validateSubmitter pp sessionId) := by
  have hcall (q : Query) : Keeps okOp okReq (query q) := Task.Uses.call (hquery q)
  refine Task.Uses.bind ((hcall _).bind fun session => ?_) fun session => ?_
  · cases session
    · exact keeps_reject _
    · exact keeps_pure _
  refine (hcall _).bind fun account => ?_
  cases account with
  | none => exact rejectSubmitter_keeps hrec _ _
  | some account =>
    refine (hcall _).bind fun approval => ?_
    refine keeps_ite (fun _ => ?_) fun _ => rejectSubmitter_keeps hrec _ _
    exact (hcall _).bind fun _ => keeps_pure _

theorem assertBundleIsExpired_keeps (hquery : ∀ q, okReq (.query q)) (id : BundleId) :
    Keeps okOp okReq (assertBundleIsExpired id) := by
  refine Task.Uses.bind (Task.Uses.call (hquery _)) fun existing => ?_
  cases existing with
  | none => exact keeps_pure _
  | some row => exact keeps_ite (fun _ => keeps_pure _) fun _ => keeps_reject _

theorem fetchUtxoBalances_keeps (hrpc : ∀ r, okReq (.rpc r)) (client : ContractId)
    (utxos : List UtxoId) : Keeps okOp okReq (fetchUtxoBalances client utxos) :=
  keeps_ite (fun _ => keeps_pure _) fun _ => Task.Uses.call (hrpc _)

theorem calculateFeeAndTtl_keeps (h : Reads okOp okReq) (channel client : ContractId)
    (classified : ClassifiedOperations) :
    Keeps okOp okReq (calculateFeeAndTtl channel client classified) := by
  refine Task.Uses.bind (withAdmissionTimeout_keeps _
    ((fetchUtxoBalances_keeps h.rpc _ _).bind fun _ => keeps_pure _)) fun amounts => ?_
  refine keeps_ite (fun _ => keeps_reject _) fun _ => ?_
  refine (withAdmissionTimeout_keeps _ (keeps_rpc h _)).bind fun _ => ?_
  exact (keeps_run h.now).bind fun _ => keeps_pure _

theorem checkRequest_keeps (h : Announces okOp okReq)
    (hrec : ∀ pp account, okReq (.command (.recordInteraction pp account)))
    (cfg : Config) (input : BundleRequest) : Keeps okOp okReq (checkRequest cfg input) := by
  refine keeps_ite (fun _ => keeps_reject _) fun _ => keeps_ite (fun _ => keeps_reject _) fun _ => ?_
  refine (withAdmissionTimeout_keeps _ (keeps_rpc h.toReads _)).bind fun ctx => ?_
  refine (validateSubmitter_keeps h.query hrec _ _).bind fun submitter => ?_
  refine (assertBundleIsExpired_keeps h.query _).bind fun _ => ?_
  refine (keeps_done _).bind fun operations => (keeps_done _).bind fun _ => ?_
  refine (keeps_run (h.isDisabled _)).bind fun _ => ?_
  refine keeps_ite (fun _ => keeps_reject _) fun _ => ?_
  exact (calculateFeeAndTtl_keeps h.toReads _ _ _).bind fun _ => keeps_pure _

theorem persistBundle_keeps (h : Reads okOp okReq) {input : BundleRequest} {adm : Admission}
    (hreset : ∀ data, data.status = some .pending → data.failureDetail = none →
      okReq (.command (.updateBundle adm.bundleId data)))
    (hcreate : ∀ data, data.id = adm.bundleId → data.status = .pending →
      okReq (.command (.createBundle data))) :
    Keeps okOp okReq (persistBundle input adm) :=
  keeps_ite (fun _ => (keeps_command (hreset _ rfl rfl)).bind fun _ => keeps_pure _) fun _ =>
    (keeps_run h.now).bind fun _ => (keeps_command (hcreate _ rfl rfl)).bind fun _ => keeps_pure _

theorem persistCreateOperations_keeps (h : Reads okOp okReq)
    (hcreate : ∀ data, okReq (.command (.createUtxo data))) (ops : List CreateOperation)
    (bundleId : Option BundleId) (account : AccountId) :
    Keeps okOp okReq (persistCreateOperations ops bundleId account) := by
  refine Task.Uses.forEach fun op _ => (keeps_query h _).bind fun utxo => ?_
  cases utxo with
  | some utxo => exact keeps_pure _
  | none =>
    exact (keeps_run h.now).bind fun _ => (keeps_command (hcreate _)).bind fun _ => keeps_pure _

theorem persistSpendOperations_keeps (h : Reads okOp okReq)
    (hupdate : ∀ id data, okReq (.command (.updateUtxo id data))) (ops : List SpendOperation)
    (bundleId : Option BundleId) (account : AccountId) (client channel : ContractId) :
    Keeps okOp okReq (persistSpendOperations ops bundleId account client channel) := by
  refine keeps_ite (fun _ => keeps_pure _) fun _ => ?_
  refine (withAdmissionTimeout_keeps _ (fetchUtxoBalances_keeps h.rpc _ _)).bind fun balances => ?_
  refine Task.Uses.forEach fun op _ => (keeps_query h _).bind fun utxo => ?_
  cases utxo with
  | none => exact keeps_reject _
  | some utxo => exact (keeps_command (hupdate _ _)).bind fun _ => keeps_pure _

theorem enqueueBundle_keeps (h : Mempool.MayAdd okOp okReq)
    (hcreate : ∀ data, okReq (.command (.createUtxo data)))
    (hupdate : ∀ id data, okReq (.command (.updateUtxo id data))) (cfg : Config)
    (input : BundleRequest) (adm : Admission) (entity : Written OperationsBundle) :
    Keeps okOp okReq (enqueueBundle cfg input adm entity) := by
  refine (persistCreateOperations_keeps h.toReads hcreate _ _ _).bind fun _ => ?_
  refine (persistSpendOperations_keeps h.toReads hupdate _ _ _ _ _).bind fun _ => ?_
  refine (keeps_run h.now).bind fun _ => (keeps_done _).bind fun bundle => ?_
  exact Mempool.addBundle_keeps h cfg bundle

/-! ## The executor -/

theorem buildTransactionFromSlot_keeps (hrpc : ∀ r, okReq (.rpc r)) (cfg : Config)
    (bundles : List SlotBundle) (ctx : ChannelContext) :
    Keeps okOp okReq (buildTransactionFromSlot cfg bundles ctx) := by
  refine keeps_ite (fun _ => keeps_reject _) fun _ => (Task.Uses.call (hrpc _)).bind fun reserved => ?_
  rcases reserved with ⟨_ | utxo, n⟩
  · exact keeps_reject _
  · exact (keeps_done _).bind fun _ => keeps_pure _

theorem getTransactionExpiration_keeps (hrpc : ∀ r, okReq (.rpc r)) (cfg : Config) :
    Keeps okOp okReq (getTransactionExpiration cfg) :=
  (Task.Uses.call (hrpc _)).bind fun _ => keeps_pure _

theorem runPreflightOpexFeeCheck_keeps (hrpc : ∀ r, okReq (.rpc r)) (cfg : Config)
    (operations : List MoonlightOperation) (pp : PublicKey) :
    Keeps okOp okReq (runPreflightOpexFeeCheck cfg operations pp) := by
  refine (Task.Uses.call (hrpc _)).bind fun account => (Task.Uses.call (hrpc _)).bind fun _ => ?_
  refine (Task.Uses.call (hrpc _)).bind fun _ => ?_
  exact keeps_ite (fun _ => keeps_reject _) fun _ => keeps_pure _

theorem readAccountSeq_keeps (hrpc : ∀ r, okReq (.rpc r)) (pp : PublicKey) :
    Keeps okOp okReq (readAccountSeq pp) :=
  (Task.Uses.call (hrpc _)).recover fun _ => keeps_pure _

theorem readFailedAccountSeq_keeps (hrpc : ∀ r, okReq (.rpc r)) (cfg : Config) (pp : PublicKey)
    (error : Err) : Keeps okOp okReq (readFailedAccountSeq cfg pp error) :=
  keeps_ite (fun _ => readAccountSeq_keeps hrpc _) fun _ => keeps_pure _

theorem submitTransactionToNetwork_keeps (hrpc : ∀ r, okReq (.rpc r)) (cfg : Config)
    (operations : List MoonlightOperation) (expiration : Nat) (channel : ContractId)
    (pp : PublicKey) :
    Keeps okOp okReq (submitTransactionToNetwork cfg operations expiration channel pp) := by
  refine (Task.Uses.call (hrpc _)).bind fun ctx => (readAccountSeq_keeps hrpc _).bind fun _ => ?_
  refine (Task.Uses.call (hrpc _)).bind fun _ => Task.Uses.recover ?_ fun e => ?_
  · exact (Task.Uses.call (hrpc _)).bind fun hash => (readAccountSeq_keeps hrpc _).bind fun _ => keeps_pure _
  · exact (readFailedAccountSeq_keeps hrpc cfg _ _).bind fun _ => keeps_reject _

theorem createTransactionRecord_keeps (h : Reads okOp okReq)
    (hcreate : ∀ data, data.status = .unverified → okReq (.command (.createTransaction data)))
    (hlink : ∀ data, okReq (.command (.createLink data))) (cfg : Config) (hash : TxHash)
    (ids : List BundleId) : Keeps okOp okReq (createTransactionRecord cfg hash ids) := by
  refine (keeps_rpc h _).bind fun _ => (keeps_run h.now).bind fun _ => ?_
  refine (keeps_command (hcreate _ rfl)).bind fun _ => Task.Uses.forEach fun id _ => ?_
  exact (keeps_run h.now).bind fun _ => (keeps_command (hlink _)).bind fun _ => keeps_pure _

theorem expireSlotBundlesPastTtl_keeps (h : Announces okOp okReq)
    (hexp : ∀ id, okReq (.command (.updateStatusIfActive id .expired BundleStatus.active)))
    (slot : Slot) : Keeps okOp okReq (expireSlotBundlesPastTtl slot) := by
  refine (keeps_run h.now).bind fun now => Task.Uses.bind ?_ fun _ => keeps_pure _
  refine Task.Uses.forEach fun b _ => Task.Uses.recover ?_ fun _ => keeps_pure _
  exact (keeps_command (hexp _)).bind fun _ => emitForPp_keeps h _ rfl

/-- The gated updates of a failed execution; only a terminal one carries a
failure detail. -/
def FailureUpdate (okReq : Req → Prop) : Prop :=
  ∀ id data, data.status = some .failed ∨ data.status = some .pending ∧ data.failureDetail = none →
    okReq (.command (.updateIfStatusIn id data BundleStatus.active))

theorem failBundleExecution_keeps (h : Reads okOp okReq) (hfail : FailureUpdate okReq)
    (cfg : Config) (error : Err) (reason : FailureReason) (id : BundleId) :
    Keeps okOp okReq (failBundleExecution cfg error reason id) := by
  refine Task.Uses.recover ((keeps_query h _).bind fun bundle => ?_) fun _ => keeps_pure _
  cases bundle with
  | none => exact keeps_pure _
  | some bundle =>
    dsimp only
    refine keeps_ite (fun _ => ?_) fun _ => ?_
    · exact (keeps_command (hfail _ _ (.inl rfl))).bind fun _ => keeps_pure _
    · exact (keeps_command (hfail _ _ (.inr ⟨rfl, rfl⟩))).bind fun _ => keeps_pure _

theorem emitExecutionFailed_keeps (h : Permits okOp okReq) (slot : Slot) (ids : List BundleId)
    (error : Err) : Keeps okOp okReq (emitExecutionFailed slot ids error) := by
  unfold emitExecutionFailed
  split
  · exact emitForBundles_keeps h _ _
  · exact keeps_pure _

theorem handleExecutionFailure_keeps (h : Reads okOp okReq) (hfail : FailureUpdate okReq)
    (cfg : Config) (error : Err) (ids : List BundleId) (reason : FailureReason) :
    Keeps okOp okReq (handleExecutionFailure cfg error ids reason) :=
  (Task.Uses.collect fun id _ => failBundleExecution_keeps h hfail cfg error reason id).bind
    fun _ => keeps_pure _

theorem failInsufficientFees_keeps
    (hfail : ∀ id data, data.status = some .failed → okReq (.command (.updateBundle id data)))
    (detail : InsufficientFeesDetail) (id : BundleId) :
    Keeps okOp okReq (failInsufficientFees detail id) :=
  ((keeps_command (hfail _ _ rfl)).bind fun _ => keeps_pure _).recover fun _ => keeps_pure _

/-- What the submission of a slot writes and traces. -/
structure MaySubmit (okOp : Op → Prop) (okReq : Req → Prop) : Prop extends Permits okOp okReq where
  returned : ∀ hash ids, okOp (.note (.returned hash ids))
  createTransaction : ∀ data, data.status = .unverified → okReq (.command (.createTransaction data))
  createLink : ∀ data, okReq (.command (.createLink data))

/-- What the slot of a tick writes and traces. -/
structure MayProcess (okOp : Op → Prop) (okReq : Req → Prop) : Prop
    extends Mempool.MayAdd okOp okReq, MaySubmit okOp okReq where
  evict : ∀ id, okReq (.command (.updateStatusIfActive id .expired BundleStatus.active))
  failure : FailureUpdate okReq
  insufficient : ∀ id data, data.status = some .failed → okReq (.command (.updateBundle id data))

/-- What a tick of the executor writes and traces. -/
structure MayExecute (okOp : Op → Prop) (okReq : Req → Prop) : Prop
    extends MayProcess okOp okReq where
  isProcessing : okOp .isProcessing
  setProcessing : ∀ b, okOp (.setProcessing b)
  removeFirstSlot : okOp .removeFirstSlot

theorem handleSlotFailure_keeps (h : MayProcess okOp okReq) (cfg : Config) (slot : Slot)
    (error : Err) : Keeps okOp okReq (handleSlotFailure cfg slot error) := by
  unfold handleSlotFailure
  split
  · refine (Task.Uses.forEach fun id _ => failInsufficientFees_keeps h.insufficient _ id).bind
      fun _ => ?_
    exact emitExecutionFailed_keeps h.toPermits slot _ _
  · refine (keeps_run h.now).bind fun now => ?_
    refine (emitExecutionFailed_keeps h.toPermits slot _ _).bind fun _ => ?_
    refine (handleExecutionFailure_keeps h.toReads h.failure cfg _ _ _).bind fun results => ?_
    exact keeps_ite (fun _ => Mempool.reAddBundles_keeps h.toMayAdd cfg _) fun _ => keeps_pure _

theorem prepareSlot_keeps (hrpc : ∀ r, okReq (.rpc r)) (cfg : Config) (slot : Slot)
    (first : SlotBundle) : Keeps okOp okReq (prepareSlot cfg slot first) := by
  refine (Task.Uses.call (hrpc _)).bind fun ctx => ?_
  refine (buildTransactionFromSlot_keeps hrpc cfg _ _).bind fun build => ?_
  refine (getTransactionExpiration_keeps hrpc cfg).bind fun expiration => ?_
  exact (runPreflightOpexFeeCheck_keeps hrpc cfg _ _).bind fun _ => keeps_pure _

/-- A tick traces the bundles it hands over. -/
def MayHand (okOp : Op → Prop) : Prop :=
  ∀ channel pp bundles, okOp (.note (.handed channel pp bundles))

theorem submitSlot_keeps (h : MaySubmit okOp okReq) (hh : MayHand okOp) (cfg : Config)
    (slot : Slot) (first : SlotBundle) (build : TransactionBuildResult) (expiration : Nat) :
    Keeps okOp okReq (submitSlot cfg slot first build expiration) := by
  refine (keeps_run (hh _ _ _)).bind fun _ => ?_
  refine (submitTransactionToNetwork_keeps h.rpc cfg _ _ _ _).bind fun hash => ?_
  refine (keeps_run (h.returned _ _)).bind fun _ => ?_
  refine (createTransactionRecord_keeps h.toReads h.createTransaction h.createLink cfg _ _).bind
    fun _ => ?_
  exact emitForBundles_keeps h.toPermits _ _

theorem executeSlot_keeps (h : MaySubmit okOp okReq) (hh : MayHand okOp) (cfg : Config)
    (slot : Slot) : Keeps okOp okReq (executeSlot cfg slot) := by
  unfold executeSlot
  split
  · exact keeps_reject _
  refine keeps_ite (fun _ => keeps_reject _) fun _ => keeps_ite (fun _ => keeps_reject _) fun _ => ?_
  exact (prepareSlot_keeps h.rpc cfg _ _).bind fun _ => submitSlot_keeps h hh cfg _ _ _ _

theorem processSlot_keeps (h : MayProcess okOp okReq) (hh : MayHand okOp) (cfg : Config)
    (slot : Slot) : Keeps okOp okReq (processSlot cfg slot) := by
  refine (expireSlotBundlesPastTtl_keeps h.toAnnounces h.evict slot).bind fun slot => ?_
  exact keeps_ite (fun _ => keeps_pure _) fun _ =>
    (executeSlot_keeps h.toMaySubmit hh cfg slot).recover fun e => handleSlotFailure_keeps h cfg slot e

theorem executeNext_keeps (h : MayExecute okOp okReq) (hh : MayHand okOp) (cfg : Config) :
    Keeps okOp okReq (executeNext cfg) := by
  refine (keeps_run h.isProcessing).bind fun isProcessing => ?_
  refine keeps_ite (fun _ => keeps_pure _) fun _ => (keeps_run (h.setProcessing _)).bind fun _ => ?_
  refine Task.Uses.ensure ((keeps_run h.removeFirstSlot).bind fun slot => ?_) (h.setProcessing _)
  cases slot with
  | none => exact keeps_pure _
  | some slot =>
    exact keeps_ite (fun _ => keeps_pure _) fun _ => processSlot_keeps h.toMayProcess hh cfg slot

/-! ## The verifier -/

theorem verifyTransactionOnNetwork_keeps (h : Reads okOp okReq) (hash : TxHash) :
    Keeps okOp okReq (verifyTransactionOnNetwork hash) := by
  refine Task.Uses.recover ((keeps_rpc h _).bind fun response => ?_) fun _ => keeps_pure _
  split <;> exact keeps_pure _

theorem findFirstBundleChannel_keeps (h : Reads okOp okReq) :
    ∀ ids, Keeps okOp okReq (findFirstBundleChannel ids)
  | [] => keeps_pure _
  | id :: ids => by
    refine (keeps_query h _).bind fun bundle => ?_
    split
    · exact keeps_pure _
    · exact findFirstBundleChannel_keeps h ids

theorem emitCompleted_keeps (h : Permits okOp okReq) (cfg : Config) (txId : TxHash)
    (ids : List BundleId) (channel : Option ContractId) :
    Keeps okOp okReq (emitCompleted cfg txId ids channel) := by
  cases channel with
  | none => exact keeps_pure _
  | some channel =>
    refine (emitForBundles_keeps h _ _).bind fun _ => Task.Uses.forEach fun id _ => ?_
    refine (keeps_query h.toReads _).bind fun bundle => Task.Uses.forEach fun mlxdr _ => ?_
    unfold emitForOperation
    split
    · exact emitForBundles_keeps h _ _
    · exact emitForBundles_keeps h _ _
    · exact keeps_pure _

theorem emitFailed_keeps (h : Permits okOp okReq) (txId : TxHash) (ids : List BundleId)
    (reason : String) (channel : Option ContractId) :
    Keeps okOp okReq (emitFailed txId ids reason channel) := by
  cases channel with
  | none => exact keeps_pure _
  | some channel => exact emitForBundles_keeps h _ _

theorem handleVerificationSuccess_keeps (h : Permits okOp okReq) (cfg : Config)
    {txId : TxHash} {ids : List BundleId}
    (hverified : okReq (.command (.updateTransaction txId .verified)))
    (hcomplete : ∀ id ∈ ids, okReq (.command (.updateBundle id { status := some .completed }))) :
    Keeps okOp okReq (handleVerificationSuccess cfg txId ids) := by
  refine (findFirstBundleChannel_keeps h.toReads ids).bind fun channel => ?_
  refine ((keeps_command hverified).bind fun _ => keeps_pure _).bind fun _ => ?_
  refine Task.Uses.bind (Task.Uses.forEach fun id hid => ?_) fun _ =>
    emitCompleted_keeps h cfg txId ids channel
  exact ((keeps_command (hcomplete id hid)).bind fun _ => keeps_pure _).recover fun _ =>
    keeps_pure _

/-- The verifier only ever asks for a terminal failure. -/
theorem failBundleVerification_keeps (h : Reads okOp okReq) (cfg : Config) (txId : TxHash)
    (reason : String) (detail : StructuredFailureDetail) {id : BundleId}
    (hfail : ∀ data, data.status = some .failed → okReq (.command (.updateBundle id data))) :
    Keeps okOp okReq (failBundleVerification cfg txId reason true detail id) := by
  refine Task.Uses.recover ((keeps_query h _).bind fun bundle => ?_) fun _ => keeps_pure _
  cases bundle with
  | none => exact keeps_pure _
  | some bundle =>
    refine (keeps_run h.now).bind fun now => ?_
    exact (keeps_command (hfail _ (by simp))).bind fun _ => keeps_pure _

/-- A terminal failure leaves nothing to retry. -/
theorem failBundleVerification_yields (cfg : Config) (txId : TxHash) (reason : String)
    (detail : StructuredFailureDetail) (id : BundleId) :
    (failBundleVerification cfg txId reason true detail id).Yields (· = none) := by
  refine Task.Yields.recover ((Task.yields_any _).bind fun bundle _ => ?_) fun _ => .pure rfl
  cases bundle with
  | none => exact .pure rfl
  | some bundle =>
    refine (Task.yields_any _).bind fun now _ => ?_
    exact (Task.yields_any _).bind fun _ _ => .pure (by simp)

/-- So the verifier adds nothing to the mempool. -/
theorem handleVerificationFailure_keeps (h : Reads okOp okReq) (cfg : Config)
    {txId : TxHash} (reason : String) {ids : List BundleId} (detail : StructuredFailureDetail)
    (hfailed : okReq (.command (.updateTransaction txId .failed)))
    (hfail : ∀ id ∈ ids, ∀ data, data.status = some .failed →
      okReq (.command (.updateBundle id data))) :
    Keeps okOp okReq (handleVerificationFailure cfg txId reason ids true detail) := by
  refine ((keeps_command hfailed).bind fun _ => keeps_pure _).bind fun _ => ?_
  refine Task.Uses.bind_yields
    (Task.Uses.collect fun id hid => failBundleVerification_keeps h cfg _ _ _ (hfail id hid))
    (.collect fun id _ => failBundleVerification_yields cfg _ _ _ id) fun retryable hnone => ?_
  have hempty : retryable.filterMap id = [] := by
    rw [List.filterMap_eq_nil_iff]
    exact fun r hr => by rw [hnone r hr]; rfl
  rw [hempty]
  exact keeps_pure _

/-- What a verifier cycle writes. -/
structure MayVerify (okOp : Op → Prop) (okReq : Req → Prop) : Prop extends Permits okOp okReq where
  updateTransaction : ∀ id status, okReq (.command (.updateTransaction id status))
  complete : ∀ id, okReq (.command (.updateBundle id { status := some .completed }))
  failure : ∀ id data, data.status = some .failed → okReq (.command (.updateBundle id data))

theorem settleTransaction_keeps (h : MayVerify okOp okReq) (cfg : Config) (tx : Transaction)
    (ids : List BundleId) (result : VerificationResult) :
    Keeps okOp okReq (settleTransaction cfg tx ids result) := by
  have hfailure (reason detail) :
      Keeps okOp okReq (handleVerificationFailure cfg tx.id reason ids true detail) :=
    handleVerificationFailure_keeps h.toReads cfg reason detail (h.updateTransaction _ _)
      fun id _ => h.failure id
  cases result with
  | verified =>
    exact handleVerificationSuccess_keeps h.toPermits cfg (h.updateTransaction _ _) fun id _ =>
      h.complete id
  | failed reason =>
    refine (findFirstBundleChannel_keeps h.toReads _).bind fun channel => ?_
    refine (hfailure _ _).bind fun _ => ?_
    exact emitFailed_keeps h.toPermits _ _ _ _
  | pending =>
    refine (keeps_run h.now).bind fun now => ?_
    exact keeps_ite (fun _ => hfailure _ _) fun _ => keeps_pure _

theorem verifyTransaction_keeps (h : MayVerify okOp okReq) (cfg : Config) (tx : Transaction) :
    Keeps okOp okReq (verifyTransaction cfg tx) := by
  refine Task.Uses.recover ((keeps_query h.toReads _).bind fun links => ?_) fun _ => keeps_pure _
  refine keeps_ite (fun _ => keeps_pure _) fun _ => ?_
  refine (verifyTransactionOnNetwork_keeps h.toReads _).bind fun result => ?_
  exact settleTransaction_keeps h cfg tx _ result

theorem verifyTransactions_keeps (h : MayVerify okOp okReq) (cfg : Config) :
    Keeps okOp okReq (verifyTransactions cfg) := by
  refine Task.Uses.recover ((keeps_query h.toReads _).bind fun txs => ?_) fun _ => keeps_pure _
  exact Task.Uses.forEach fun tx _ => verifyTransaction_keeps h cfg tx

/-! ## The writers

Which call does what to the memory, and which writes what. The bulk and the
gated updates always pass the active statuses; the update by id is not gated,
and each caller of it writes its own status. -/

def Call.mayRun (l : Call) : Op → Prop
  | .isProcessing | .setProcessing _ | .note _ => l = .executeNext
  | .removeFirstSlot => l = .executeNext ∨ l = .removeFirstSlot
  | .setStarted => l = .launch
  | _ => True

def Call.mayWrite (l : Call) : Command → Prop
  | .createBundle data => (∃ input, l = .addOperationsBundle input) ∧ data.status = .pending
  | .updateBundle _ data =>
    data.status = some .expired ∨
    (∃ input, l = .addOperationsBundle input) ∧ data.status = some .pending ∨
    (l = .executeNext ∨ l = .verifyTransactions) ∧ data.status = some .failed ∨
    l = .verifyTransactions ∧ data.status = some .completed
  | .updateStatusIfActive _ _ activeStatuses => activeStatuses = BundleStatus.active
  | .updateIfStatusIn _ _ activeStatuses => activeStatuses = BundleStatus.active
  | .expireOlderThan _ statuses _ => statuses = BundleStatus.active
  | .expireByIds _ activeStatuses => activeStatuses = BundleStatus.active
  | .createUtxo _ => ∃ input, l = .addOperationsBundle input
  | .updateUtxo _ _ => ∃ input, l = .addOperationsBundle input
  | .createTransaction data => l = .executeNext ∧ data.status = .unverified
  | .createLink _ => l = .executeNext
  | .updateTransaction _ _ => l = .verifyTransactions
  | .recordInteraction _ _ => ∃ input, l = .addOperationsBundle input

def Call.mayAwait (l : Call) : Req → Prop
  | .query _ => True
  | .rpc _ => True
  | .command c => l.mayWrite c

theorem Call.permits (l : Call) : Permits l.mayRun l.mayAwait where
  query _ := trivial
  rpc _ := trivial
  now := trivial
  emit _ _ := trivial
  isDisabled _ := trivial

theorem Call.mayAdd (l : Call) : Mempool.MayAdd l.mayRun l.mayAwait where
  toAnnounces := l.permits.toAnnounces
  place _ := trivial
  purge _ := trivial
  expire _ := .inl rfl
  activate _ := rfl

theorem mayExecute : MayExecute Call.executeNext.mayRun Call.executeNext.mayAwait where
  toMayAdd := Call.mayAdd _
  emit _ _ := trivial
  isProcessing := rfl
  setProcessing _ := rfl
  removeFirstSlot := .inl rfl
  returned _ _ := rfl
  evict _ := rfl
  failure _ _ _ := rfl
  insufficient _ _ h := .inr (.inr (.inl ⟨.inl rfl, h⟩))
  createTransaction _ h := ⟨rfl, h⟩
  createLink _ := rfl

theorem mayVerify : MayVerify Call.verifyTransactions.mayRun Call.verifyTransactions.mayAwait where
  toPermits := Call.permits _
  updateTransaction _ _ := rfl
  complete _ := .inr (.inr (.inr ⟨rfl, rfl⟩))
  failure _ _ h := .inr (.inr (.inl ⟨.inr rfl, h⟩))

theorem addOperationsBundle_keeps (cfg : Config) (input : BundleRequest) :
    Keeps (Call.addOperationsBundle input).mayRun (Call.addOperationsBundle input).mayAwait
      (addOperationsBundle cfg input) := by
  have h := (Call.addOperationsBundle input).mayAdd
  refine (checkRequest_keeps h.toAnnounces (fun _ _ => ⟨input, rfl⟩) cfg input).bind fun adm => ?_
  refine (persistBundle_keeps h.toReads (fun _ hd _ => .inr (.inl ⟨⟨input, rfl⟩, hd⟩))
    fun _ _ hd => ⟨⟨input, rfl⟩, hd⟩).bind fun entity => ?_
  refine (enqueueBundle_keeps h (fun _ => ⟨input, rfl⟩) (fun _ _ => ⟨input, rfl⟩) cfg input adm
    entity).bind fun _ => ?_
  exact keeps_pure _

/-- **Every call keeps to its footprint.** -/
theorem Call.program_keeps (cfg : Config) (fuel : Nat) (l : Call) :
    Keeps l.mayRun l.mayAwait (l.program cfg fuel) := by
  cases l with
  | launch =>
    exact (Mempool.initializeMempool_keeps (Call.mayAdd _) (fun _ _ => rfl) cfg fuel).bind fun _ =>
      keeps_run rfl
  | addOperationsBundle input =>
    exact (addOperationsBundle_keeps cfg input).bind fun _ => keeps_pure _
  | executeNext => exact executeNext_keeps mayExecute (fun _ _ _ => rfl) cfg
  | verifyTransactions => exact verifyTransactions_keeps mayVerify cfg
  | expireBundles =>
    exact Mempool.expireBundles_keeps (Call.permits _).toAnnounces trivial fun _ => .inl rfl
  | addBundle bundle => exact Mempool.addBundle_keeps (Call.mayAdd _) cfg bundle
  | reAddBundles bundles => exact Mempool.reAddBundles_keeps (Call.mayAdd _) cfg bundles
  | purgeBundles ids => exact (keeps_run trivial).bind fun _ => keeps_pure _
  | removeFirstSlot => exact (keeps_run (.inr rfl)).bind fun _ => keeps_pure _
  | expireByIds ids =>
    have h : (Call.expireByIds ids).mayWrite (.expireByIds ids BundleStatus.active) := rfl
    exact (keeps_command h).bind fun _ => keeps_pure _

end ProviderPlatform
