import ProviderPlatform.Events.Emit
import ProviderPlatform.Bundle.Service

/-! # Building, paying for and submitting a transaction

What the executor does with a slot before and after the network accepts its
transaction, and the identity of a failure. -/
namespace ProviderPlatform
open Async

/-! ## Building -/

/-- The operations of a bundle, in the order they are added. -/
def bundleOperations (bundle : SlotBundle) : List MoonlightOperation :=
  bundle.operations.deposit.map .deposit ++ bundle.operations.create.map .create ++
    bundle.operations.spend.map .spend ++ bundle.operations.withdraw.map .withdraw

/-- `addOperation` for each operation in order; the builder may refuse one. -/
def addOperations (cfg : Config) :
    List MoonlightOperation → List MoonlightOperation → Except Err (List MoonlightOperation)
  | added, [] => .ok added
  | added, op :: ops =>
    if cfg.acceptsOperation added op then addOperations cfg (added ++ [op]) ops
    else .error (.error "addOperation")

/-- A CREATE requires a positive amount. -/
def createFeeOperation (utxo : UtxoId) (totalFee : Int) : Except Err MoonlightOperation :=
  if totalFee > 0 then .ok (.create ⟨utxo, totalFee⟩) else .error (.error "create amount")

/-- The fees of the bundles of a slot. -/
def totalFee (bundles : List SlotBundle) : Int := (bundles.map (·.fee)).sum

/-- The builder's operations for a slot, once a UTXO for the fee is reserved. -/
def slotOperations (cfg : Config) (bundles : List SlotBundle) (utxo : UtxoId) :
    Except Err (List MoonlightOperation) :=
  match createFeeOperation utxo (totalFee bundles) with
  | .error e => .error e
  | .ok feeOperation => addOperations cfg [] (feeOperation :: bundles.flatMap bundleOperations)

/-- Builds a transaction from a slot containing multiple bundles. -/
def buildTransactionFromSlot (cfg : Config) (bundles : List SlotBundle) (ctx : ChannelContext) :
    Promise TransactionBuildResult :=
  if bundles.isEmpty then reject (.error "Cannot build transaction from empty slot")
  else do
    let reserved : Option UtxoId × Nat ← rpc (.reserveUTXOs ctx)
    match reserved.1 with
    | none =>
      reject (.error ("Insufficient UTXOs. Required: 1, Available: " ++ toString reserved.2))
    | some utxo => do
      let operations ← Task.done (I := platform) (slotOperations cfg bundles utxo)
      pure ⟨operations, totalFee bundles, bundles.map (·.bundleId)⟩

/-! ## The fee payer -/

structure PreflightResult where
  feePayerPubkey : PublicKey
  availableXlmStroops : Int
  requiredXlmStroops : Int
  shortfallStroops : Int
  deriving DecidableEq

def computePreflightResult (feePayerPubkey : PublicKey)
    (balanceStroops numSubEntries baseReserveStroops baseInclusionFeeStroops
      minResourceFeeStroops : Int) : PreflightResult :=
  let reserveStroops := (2 + numSubEntries) * baseReserveStroops
  let availableXlmStroops := balanceStroops - reserveStroops
  let requiredXlmStroops := baseInclusionFeeStroops + minResourceFeeStroops
  ⟨feePayerPubkey, availableXlmStroops, requiredXlmStroops,
    requiredXlmStroops - availableXlmStroops⟩

def toInsufficientFeesDetail (result : PreflightResult) : InsufficientFeesDetail :=
  ⟨result.feePayerPubkey, result.availableXlmStroops, result.requiredXlmStroops,
    result.shortfallStroops⟩

/-- Rejects if the fee payer cannot cover the fee after reserves. -/
def runPreflightOpexFeeCheck (cfg : Config) (operations : List MoonlightOperation)
    (feePayerPubkey : PublicKey) : Promise PreflightResult := do
  let accountState : Option AccountState ← rpc (.fetchFeePayerAccountState feePayerPubkey)
  let balanceStroops := (accountState.map (·.balanceStroops)).getD 0
  let numSubEntries := (accountState.map (·.numSubEntries)).getD 0
  let _ ← rpc (.getFeePayerSequence feePayerPubkey)
  let minResourceFeeStroops : Int ← rpc (.simulateTransaction operations feePayerPubkey)
  let result := computePreflightResult feePayerPubkey balanceStroops numSubEntries
    cfg.baseReserveStroops cfg.networkFee minResourceFeeStroops
  if result.shortfallStroops > 0 then reject (.insufficientFees (toInsufficientFeesDetail result))
  else pure result

/-! ## Submitting -/

/-- Gets transaction expiration from latest ledger. -/
def getTransactionExpiration (cfg : Config) : Promise Nat := do
  let latestLedger : Nat ← rpc .getLatestLedger
  pure (latestLedger + cfg.transactionExpirationOffset)

/-- The account read before and after a submission, for the trace only. -/
def readAccountSeq (source : PublicKey) : Promise Unit :=
  (rpc (.getAccount source)).recover fun _ => pure ()

/-- The account read after a submission that failed with a network envelope. -/
def readFailedAccountSeq (cfg : Config) (source : PublicKey) (error : Err) : Promise Unit :=
  if cfg.hasNetworkContext error then readAccountSeq source else pure ()

/-- Submits the transaction with the context of the channel and the PP. -/
def submitTransactionToNetwork (cfg : Config) (operations : List MoonlightOperation)
    (expiration : Nat) (channelContractId : ContractId) (ppPublicKey : PublicKey) :
    Promise TxHash := do
  let ctx : ChannelContext ← rpc (.resolveChannelContext channelContractId ppPublicKey)
  readAccountSeq ctx.signer
  rpc (.signWithProvider ctx.signer expiration)
  Task.recover (I := platform)
    (do
      let hash : TxHash ← rpc (.invokeRaw ctx operations)
      readAccountSeq ctx.signer
      pure hash)
    fun error => do
      readFailedAccountSeq cfg ctx.signer error
      reject (.executionError error "submitTransactionToNetwork")

/-! ## Recording -/

/-- Link one bundle to a transaction. -/
def createLink (txHash : TxHash) (bundleId : BundleId) : Promise Unit := do
  let now : Time ← run .now
  let _ ← command (.createLink {
    bundleId := bundleId
    transactionId := txHash
    createdAt := now
    createdBy := "system" })
  pure ()

/-- Creates the transaction row and links the bundles to it. -/
def createTransactionRecord (cfg : Config) (txHash : TxHash) (bundleIds : List BundleId) :
    Promise Unit := do
  let latestLedger : Nat ← rpc .getLatestLedger
  let now : Time ← run .now
  let _ ← command (.createTransaction {
    id := txHash
    status := .unverified
    timeout := now + cfg.transactionExpirationOffset * stellarLedgerCloseTimeMs
    ledgerSequence := toString latestLedger
    createdAt := now
    createdBy := "system" })
  Task.forEach (I := platform) (createLink txHash) bundleIds

/-! ## The identity of a failure -/

/-- The contract error in the chain of causes. -/
def decodeContractError : Err → Option (Nat × String × String)
  | .contractError code name details => some (code, name, details)
  | .executionError cause _ => decodeContractError cause
  | _ => none

/-- Whether a failure will repeat identically on retry. -/
def isDeterministic (error : Err) : Bool := (decodeContractError error).isSome

def buildFailureDetail (error : Err) : StructuredFailureDetail :=
  match decodeContractError error with
  | some (code, name, details) => {
      code := "SOROBAN_" ++ toString code
      source := "onchain"
      name := some name
      message := if details = "" then "On-chain rejection " ++ name else details }
  | none => {
      code := "PROVIDER_EXECUTION_FAILED"
      source := "provider"
      message := "The bundle could not be submitted to the network." }

end ProviderPlatform
