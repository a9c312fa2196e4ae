import ProviderPlatform.Executor.Service
import ProviderPlatform.Mempool.Process

/-! # The executor

`Executor.executeNext` and the handlers of its failures. The slot it pulled is
its own until it ends; a throw anywhere after the TTL gate lands in one
handler. -/
namespace ProviderPlatform
open Async

/-! ## The TTL gate -/

/-- Persist EXPIRED for an evicted bundle; errors are logged there. -/
def persistEviction (bundle : SlotBundle) : Promise Unit :=
  Task.recover (I := platform)
    (do
      let _ ← command (.updateStatusIfActive bundle.bundleId .expired BundleStatus.active)
      emitForPp bundle.ppPublicKey (Mempool.bundleExpiredPayload bundle))
    fun _ => pure ()

/-- Removes every expired bundle from a pulled slot, marking each EXPIRED.
Returns what is left of the slot. -/
def expireSlotBundlesPastTtl (slot : Slot) : Promise Slot := do
  let now : Time ← run .now
  let expired := slot.getBundles.filter (isBundleExpired now)
  Task.forEach (I := platform) persistEviction expired
  pure (slot.removeWhere (isBundleExpired now))

/-! ## Failures -/

structure ExecutionFailureResult where
  bundleId : BundleId
  nextRetryCount : Nat
  lastFailureReason : FailureReason
  deriving DecidableEq

/-- What the helper is given beside the bundles: the maximum of attempts, whether
the failure will repeat, and the identity that is persisted. -/
structure FailureDeps where
  maxRetryAttempts : Nat
  deterministic : Bool
  failureDetail : StructuredFailureDetail

/-- What a failed execution does to the row of one bundle; `some` if the bundle
is still eligible for retry. -/
def failBundleWith (deps : FailureDeps) (lastFailureReason : FailureReason)
    (bundleId : BundleId) : Promise (Option ExecutionFailureResult) :=
  Task.recover (I := platform)
    (do
      let bundle : Option OperationsBundle ← query (.findBundleById bundleId)
      match bundle with
      | none => pure none
      | some bundle =>
        let nextRetryCount := bundle.retryCount + 1
        let hasReachedMaxAttempts := decide (nextRetryCount ≥ deps.maxRetryAttempts)
        if deps.deterministic || hasReachedMaxAttempts then do
          let _ ← command (.updateIfStatusIn bundleId {
              status := some .failed
              retryCount := some nextRetryCount
              lastFailureReason := some lastFailureReason
              failureDetail := some (.structured deps.failureDetail) }
            BundleStatus.active)
          pure none
        else do
          let updated : Bool ← command (.updateIfStatusIn bundleId {
              status := some .pending
              retryCount := some nextRetryCount
              lastFailureReason := some lastFailureReason }
            BundleStatus.active)
          pure (if updated then some ⟨bundleId, nextRetryCount, lastFailureReason⟩ else none))
    fun _ => pure none

/-- Handles execution failure by updating bundle statuses. -/
def handleExecutionFailureWith (deps : FailureDeps) (bundleIds : List BundleId)
    (lastFailureReason : FailureReason) : Promise (List ExecutionFailureResult) := do
  let results ← Task.collect (I := platform) (failBundleWith deps lastFailureReason) bundleIds
  pure (results.filterMap id)

/-- What the executor gives it for an error. -/
def failureDeps (cfg : Config) (error : Err) : FailureDeps where
  maxRetryAttempts := cfg.maxRetryAttempts
  deterministic := isDeterministic error
  failureDetail := buildFailureDetail error

/-- The helper for one bundle, as the executor calls it. -/
def failBundleExecution (cfg : Config) (error : Err) (lastFailureReason : FailureReason)
    (bundleId : BundleId) : Promise (Option ExecutionFailureResult) :=
  failBundleWith (failureDeps cfg error) lastFailureReason bundleId

/-- Delegates to the helper. -/
def handleExecutionFailure (cfg : Config) (error : Err) (bundleIds : List BundleId)
    (lastFailureReason : FailureReason) : Promise (List ExecutionFailureResult) :=
  handleExecutionFailureWith (failureDeps cfg error) bundleIds lastFailureReason

/-- The metadata of a bundle; the last entry of an id counts. -/
def retryMeta (metaList : List ExecutionFailureResult) (bundleId : BundleId) :
    Option ExecutionFailureResult :=
  metaList.reverse.find? (·.bundleId == bundleId)

/-- The bundles of the slot that are retried, with their updated metadata. -/
def buildRetryBundles (slot : Slot) (metaList : List ExecutionFailureResult) : List SlotBundle :=
  slot.getBundles.filterMap fun bundle =>
    (retryMeta metaList bundle.bundleId).map fun m =>
      { bundle with
        retryCount := m.nextRetryCount
        lastFailureReason := some m.lastFailureReason }

/-- Terminal failure of one bundle of an underfunded fee payer; the update is
not gated on the status. -/
def failInsufficientFees (detail : InsufficientFeesDetail) (bundleId : BundleId) : Promise Unit :=
  Task.recover (I := platform)
    (do
      let _ ← command (.updateBundle bundleId {
        status := some .failed
        lastFailureReason := some (.message (.insufficientFees detail))
        failureDetail := some (.insufficientFees detail) })
      pure ())
    fun _ => pure ()

/-- The channel of the first bundle of a slot. -/
def firstChannel (slot : Slot) : Option ContractId :=
  (slot.getBundles.head?.map (·.channelContractId)).filter (· != "")

/-- Announce a failed execution on the channel of the slot, if it has one. -/
def emitExecutionFailed (slot : Slot) (bundleIds : List BundleId) (error : Err) : Promise Unit :=
  match firstChannel slot with
  | some channelContractId =>
    emitForBundles bundleIds (.executionFailed bundleIds channelContractId error)
  | none => pure ()

/-- The phase of the failure context of an error. -/
def failurePhase : Err → String
  | .executionError _ phase => phase
  | _ => "slotExecution"

/-- The `catch` of `executeNext` for any error but an underfunded fee payer:
update the rows and re-add what is still eligible. -/
def retrySlot (cfg : Config) (slot : Slot) (bundleIds : List BundleId) (error : Err) :
    Promise Unit := do
  let now : Time ← run .now
  let lastFailureReason : FailureReason := .slotExecution now (failurePhase error) error
    slot.getBundleCount slot.getTotalWeight bundleIds
  emitExecutionFailed slot bundleIds error
  let bundlesToRetryMeta ← handleExecutionFailure cfg error bundleIds lastFailureReason
  let bundlesToRetry := buildRetryBundles slot bundlesToRetryMeta
  if bundlesToRetry.length > 0 then Mempool.reAddBundles cfg bundlesToRetry else pure ()

/-- The `catch` of `executeNext`. -/
def handleSlotFailure (cfg : Config) (slot : Slot) (error : Err) : Promise Unit :=
  let bundleIds := slot.getBundles.map (·.bundleId)
  match error with
  | .insufficientFees detail => do
    Task.forEach (I := platform) (failInsufficientFees detail) bundleIds
    emitExecutionFailed slot bundleIds error
  | error => retrySlot cfg slot bundleIds error

/-! ## The tick -/

/-- Build the transaction of a slot and check that its fee payer can pay for
it. The channel and the PP are those of the first bundle. -/
def prepareSlot (cfg : Config) (slot : Slot) (first : SlotBundle) :
    Promise (TransactionBuildResult × Nat) := do
  let channelCtx : ChannelContext ←
    rpc (.resolveChannelContext first.channelContractId first.ppPublicKey)
  let build ← buildTransactionFromSlot cfg slot.getBundles channelCtx
  let expiration ← getTransactionExpiration cfg
  let _ ← runPreflightOpexFeeCheck cfg build.operations first.ppPublicKey
  pure (build, expiration)

/-- Submit the transaction of a slot and record it. -/
def submitSlot (cfg : Config) (slot : Slot) (first : SlotBundle) (build : TransactionBuildResult)
    (expiration : Nat) : Promise Unit := do
  run (.note (.handed first.channelContractId first.ppPublicKey slot.getBundles))
  let transactionHash ← submitTransactionToNetwork cfg build.operations expiration
    first.channelContractId first.ppPublicKey
  run (.note (.returned transactionHash build.bundleIds))
  createTransactionRecord cfg transactionHash build.bundleIds
  emitForBundles build.bundleIds
    (.transactionSubmitted transactionHash build.bundleIds first.channelContractId)

/-- Build, submit and record the transaction of a slot. -/
def executeSlot (cfg : Config) (slot : Slot) : Promise Unit :=
  match slot.getBundles.head? with
  | none => reject (.error "Bundle missing channelContractId")
  | some first =>
    if first.channelContractId = "" then reject (.error "Bundle missing channelContractId")
    else if first.ppPublicKey = "" then reject (.error "Bundle missing ppPublicKey")
    else do
      let prepared ← prepareSlot cfg slot first
      submitSlot cfg slot first prepared.1 prepared.2

/-- Execute a slot that holds bundles. -/
def processSlot (cfg : Config) (pulled : Slot) : Promise Unit := do
  let slot ← expireSlotBundlesPastTtl pulled
  if slot.isEmpty then pure ()
  else (executeSlot cfg slot).recover (handleSlotFailure cfg slot)

/-- Executes the next slot from the mempool, unless a tick is running. -/
def executeNext (cfg : Config) : Promise Unit := do
  let isProcessing : Bool ← run .isProcessing
  if isProcessing then pure ()
  else do
    run (.setProcessing true)
    Task.ensure (I := platform)
      (do
        let slot : Option Slot ← run .removeFirstSlot
        match slot with
        | none => pure ()
        | some slot => if slot.isEmpty then pure () else processSlot cfg slot)
      (.setProcessing false)

end ProviderPlatform
