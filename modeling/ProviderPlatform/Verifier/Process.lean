import ProviderPlatform.Mempool.Process

/-! # The verifier

`Verifier.verifyTransactions` and the two settlements of a transaction. The
row of the transaction is made final before the rows of its bundles. -/
namespace ProviderPlatform
open Async

inductive VerificationResult
  | verified
  | failed (reason : String)
  | pending
  deriving DecidableEq

/-- The outcome of a transaction on the network; a thrown RPC error is not
evidence of a failure. -/
def verifyTransactionOnNetwork (txHash : TxHash) : Promise VerificationResult :=
  Task.recover (I := platform)
    (do
      let txResponse : Option TxResponse ← rpc (.getTransaction txHash)
      match txResponse with
      | some .success => pure .verified
      | some (.failed resultXdr) =>
        pure (.failed ("Transaction failed with result code: " ++ resultXdr.getD "unknown"))
      | _ => pure .pending)
    fun _ => pure .pending

/-- The channel of the first of the bundles that has one. -/
def findFirstBundleChannel : List BundleId → Promise (Option ContractId)
  | [] => pure none
  | bundleId :: bundleIds => do
    let bundle : Option OperationsBundle ← query (.findBundleById bundleId)
    match (bundle.bind (·.channelContractId)).filter (· != "") with
    | some channelContractId => pure (some channelContractId)
    | none => findFirstBundleChannel bundleIds

def updateTransactionStatus (txId : TxHash) (status : TransactionStatus) : Promise Unit := do
  let _ ← command (.updateTransaction txId status)
  pure ()

/-! ## Success -/

/-- Mark one bundle COMPLETED; an error is logged and the loop goes on. -/
def completeBundle (bundleId : BundleId) : Promise Unit :=
  Task.recover (I := platform)
    (do
      let _ ← command (.updateBundle bundleId { status := some .completed })
      pure ())
    fun _ => pure ()

/-- One event for a deposit or a withdraw. -/
def emitForOperation (cfg : Config) (txId : TxHash) (bundleId : BundleId)
    (channelContractId : ContractId) (mlxdr : MLXDR) : Promise Unit :=
  match cfg.fromMLXDR mlxdr with
  | some (.deposit op) =>
    emitForBundles [bundleId]
      (.depositCompleted bundleId txId channelContractId op.publicKey op.amount)
  | some (.withdraw op) =>
    emitForBundles [bundleId]
      (.withdrawCompleted bundleId txId channelContractId op.publicKey op.amount)
  | _ => pure ()

/-- The events of one bundle, from its stored operations. -/
def emitBundleEvents (cfg : Config) (txId : TxHash) (channelContractId : ContractId)
    (bundleId : BundleId) : Promise Unit := do
  let bundle : Option OperationsBundle ← query (.findBundleById bundleId)
  let operationsMLXDR := (bundle.map (·.operationsMLXDR)).getD []
  Task.forEach (I := platform) (emitForOperation cfg txId bundleId channelContractId)
    operationsMLXDR

def emitDepositAndWithdrawEvents (cfg : Config) (txId : TxHash) (channelContractId : ContractId)
    (bundleIds : List BundleId) : Promise Unit :=
  Task.forEach (I := platform) (emitBundleEvents cfg txId channelContractId) bundleIds

/-- The events of a verified transaction. -/
def emitCompleted (cfg : Config) (txId : TxHash) (bundleIds : List BundleId)
    (channelContractId : Option ContractId) : Promise Unit :=
  match channelContractId with
  | none => pure ()
  | some channelContractId => do
    emitForBundles bundleIds (.bundleCompleted txId bundleIds channelContractId)
    emitDepositAndWithdrawEvents cfg txId channelContractId bundleIds

def handleVerificationSuccess (cfg : Config) (txId : TxHash) (bundleIds : List BundleId) :
    Promise Unit := do
  let channelContractId ← findFirstBundleChannel bundleIds
  updateTransactionStatus txId .verified
  Task.forEach (I := platform) completeBundle bundleIds
  emitCompleted cfg txId bundleIds channelContractId

/-! ## Failure -/

/-- What a failed verification does to the row of one bundle; `some` if the
bundle is to be retried. The update is not gated on the status. -/
def failBundleVerification (cfg : Config) (txId : TxHash) (reason : String) (terminal : Bool)
    (failureDetail : StructuredFailureDetail) (bundleId : BundleId) :
    Promise (Option BundleId) :=
  Task.recover (I := platform)
    (do
      let bundle : Option OperationsBundle ← query (.findBundleById bundleId)
      match bundle with
      | none => pure none
      | some bundle => do
        let nextRetryCount := bundle.retryCount + 1
        let hasReachedMaxAttempts := decide (nextRetryCount ≥ cfg.maxRetryAttempts)
        let isTerminal := terminal || hasReachedMaxAttempts
        let now : Time ← run .now
        let _ ← command (.updateBundle bundleId {
          status := some (if isTerminal then .failed else .pending)
          retryCount := some nextRetryCount
          lastFailureReason := some (.verification now reason txId bundleId)
          failureDetail := if isTerminal then some (.structured failureDetail) else none })
        pure (if isTerminal then none else some bundleId))
    fun _ => pure none

/-- The slot bundle of a bundle to retry, if its row can be read and parsed. -/
def rebuildForRetry (cfg : Config) (bundleId : BundleId) : Promise (Option SlotBundle) :=
  Task.recover (I := platform)
    (do
      let updated : Option OperationsBundle ← query (.findBundleById bundleId)
      match updated with
      | none => pure none
      | some updated => do
        let slotBundle ← createSlotBundleFromEntity cfg updated
        pure (some slotBundle))
    fun _ => pure none

/-- Re-add to the mempool what is not terminal. -/
def retryAfterVerification (cfg : Config) (retryableBundleIds : List BundleId) : Promise Unit :=
  if retryableBundleIds.isEmpty then pure ()
  else do
    let slotBundles ← Task.collect (I := platform) (rebuildForRetry cfg) retryableBundleIds
    if (slotBundles.filterMap id).isEmpty then pure ()
    else Mempool.reAddBundles cfg (slotBundles.filterMap id)

def handleVerificationFailure (cfg : Config) (txId : TxHash) (reason : String)
    (bundleIds : List BundleId) (terminal : Bool) (failureDetail : StructuredFailureDetail) :
    Promise Unit := do
  updateTransactionStatus txId .failed
  let retryable ← Task.collect (I := platform)
    (failBundleVerification cfg txId reason terminal failureDetail) bundleIds
  retryAfterVerification cfg (retryable.filterMap id)

def onchainTxFailed : StructuredFailureDetail :=
  ⟨"ONCHAIN_TX_FAILED", "onchain", "The transaction failed on-chain.", none⟩

def providerTxTimeout : StructuredFailureDetail :=
  ⟨"PROVIDER_TX_TIMEOUT", "provider", "The transaction was not confirmed in time.", none⟩

/-! ## The cycle -/

/-- The event of a transaction that failed on-chain. -/
def emitFailed (txId : TxHash) (bundleIds : List BundleId) (reason : String)
    (channelContractId : Option ContractId) : Promise Unit :=
  match channelContractId with
  | none => pure ()
  | some channelContractId =>
    emitForBundles bundleIds (.bundleFailed txId bundleIds channelContractId reason)

/-- Settle a transaction by its outcome. -/
def settleTransaction (cfg : Config) (transaction : Transaction) (bundleIds : List BundleId)
    (result : VerificationResult) : Promise Unit :=
  match result with
  | .verified => handleVerificationSuccess cfg transaction.id bundleIds
  | .failed reason => do
    let channelContractId ← findFirstBundleChannel bundleIds
    handleVerificationFailure cfg transaction.id reason bundleIds true onchainTxFailed
    emitFailed transaction.id bundleIds reason channelContractId
  | .pending => do
    let now : Time ← run .now
    if now > transaction.timeout then
      handleVerificationFailure cfg transaction.id
        ("Confirmation timeout: not observed on-network by " ++ toString transaction.timeout)
        bundleIds true providerTxTimeout
    else pure ()

/-- Verifies a single transaction; errors are logged there. -/
def verifyTransaction (cfg : Config) (transaction : Transaction) : Promise Unit :=
  Task.recover (I := platform)
    (do
      let bundleTransactions : List BundleTransaction ←
        query (.findLinksByTransactionId transaction.id)
      let bundleIds := bundleTransactions.map (·.bundleId)
      if bundleIds.isEmpty then pure ()
      else do
        let result ← verifyTransactionOnNetwork transaction.id
        settleTransaction cfg transaction bundleIds result)
    fun _ => pure ()

/-- Verifies all unverified transactions. -/
def verifyTransactions (cfg : Config) : Promise Unit :=
  Task.recover (I := platform)
    (do
      let unverifiedTransactions : List Transaction ← query (.findTransactionsByStatus .unverified)
      Task.forEach (I := platform) (verifyTransaction cfg) unverifiedTransactions)
    fun _ => pure ()

end ProviderPlatform
