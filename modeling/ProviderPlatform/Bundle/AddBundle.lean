import ProviderPlatform.Mempool.Process

/-! # Admission

`P_AddOperationsBundle`: the checks of a request, the write of its row in
`operations_bundles`, the writes of its UTXOs, and the mempool. -/
namespace ProviderPlatform
open Async

/-- The parts of a request that admission reads; an absent PP is empty. -/
structure BundleRequest where
  operationsMLXDR : List MLXDR
  channelContractId : ContractId
  sessionId : String
  ppPublicKey : PublicKey
  deriving DecidableEq

/-- Bounded calls to the chain: a timeout fast-fails the admission. -/
def withAdmissionTimeout {α : Type} (channelContractId : ContractId) (t : Promise α) : Promise α :=
  t.recover fun
    | .timeout _ => reject (.channelRpcUnavailable channelContractId)
    | e => reject e

/-! ## Checks -/

def validateSession (sessionId : String) : Promise Session := do
  let userSession : Option Session ← query (.findSessionById sessionId)
  match userSession with
  | none => reject (.invalidSession sessionId)
  | some userSession => pure userSession

/-- Best-effort record of a pubkey that hit the approval gate. -/
def recordRejectedSubmitter (ppPublicKey : PublicKey) (accountPubkey : AccountId) :
    Promise Unit :=
  (command (.recordInteraction ppPublicKey accountPubkey)).recover fun _ => pure ()

def rejectSubmitter {α : Type} (ppPublicKey : PublicKey) (accountId : AccountId) : Promise α := do
  recordRejectedSubmitter ppPublicKey accountId
  reject (.submitterNotApproved accountId)

/-- The account of the session and its entity, if the PP approved it. -/
def validateSubmitter (ppPublicKey : PublicKey) (sessionId : String) :
    Promise (AccountId × Option Entity) := do
  let userSession ← validateSession sessionId
  let submitterAccount : Option Account ← query (.findAccountById userSession.accountId)
  match submitterAccount with
  | none => rejectSubmitter ppPublicKey userSession.accountId
  | some submitterAccount => do
    let approval : Option PpEntityApproval ←
      query (.findByPpAndAccount ppPublicKey submitterAccount.id)
    if approval.map (·.status) = some .approved then do
      let submitterEntity : Option Entity ← query (.findEntityById submitterAccount.entityId)
      pure (userSession.accountId, submitterEntity)
    else rejectSubmitter ppPublicKey userSession.accountId

/-- Whether the bundle exists and may be reused. -/
def assertBundleIsExpired (bundleId : BundleId) : Promise Bool := do
  let existingBundle : Option OperationsBundle ← query (.findBundleById bundleId)
  match existingBundle with
  | none => pure false
  | some existingBundle =>
    if existingBundle.status = .expired ∨ existingBundle.status = .failed then pure true
    else reject (.bundleAlreadyExists bundleId)

def validateSpendOperations (operations : List SpendOperation) : Except Err Unit :=
  match operations.findIdx? fun op => !op.isSignedByUtxo with
  | some i => .error (.spendOperationNotSigned i)
  | none => .ok ()

/-- The on-chain balances of UTXOs; nothing is read for an empty list. -/
def fetchUtxoBalances (channelClient : ContractId) (utxos : List UtxoId) : Promise (List Int) :=
  if utxos.isEmpty then pure [] else rpc (.utxoBalances channelClient utxos)

def calculateOperationAmounts (channelClient : ContractId) (classified : ClassifiedOperations) :
    Promise OperationAmounts := do
  let spendBalances ← fetchUtxoBalances channelClient (classified.spend.map (·.utxo))
  pure (operationAmounts classified spendBalances)

/-- What the checks of a request establish. -/
structure Admission where
  accountId : AccountId
  entity : Option Entity
  channelClient : ContractId
  bundleId : BundleId
  isBundleExpired : Bool
  classified : ClassifiedOperations
  fee : Int
  ttl : Time
  deriving DecidableEq

/-- Fee and TTL of a classified bundle. -/
def calculateFeeAndTtl (channelContractId channelClient : ContractId)
    (classified : ClassifiedOperations) : Promise (Int × Time) := do
  let amounts ← withAdmissionTimeout channelContractId
    (calculateOperationAmounts channelClient classified)
  let feeCalculation := calculateFee amounts
  if feeCalculation.fee < 1 then
    reject (.insufficientBalance (feeCalculation.fee + feeCalculation.totalOutflows)
      feeCalculation.totalOutflows)
  else do
    let latestLedger : Nat ← withAdmissionTimeout channelContractId (rpc .getLatestLedger)
    let now : Time ← run .now
    pure (feeCalculation.fee, calculateBundleTtl now classified latestLedger)

/-- Everything `P_AddOperationsBundle` does before it writes the bundle. -/
def checkRequest (cfg : Config) (input : BundleRequest) : Promise Admission :=
  if input.operationsMLXDR.length > cfg.bundleMaxOperations then
    reject (.tooManyOperations input.operationsMLXDR.length cfg.bundleMaxOperations)
  else if input.ppPublicKey = "" then reject .ppPublicKeyRequired
  else do
    let channelCtx : ChannelContext ← withAdmissionTimeout input.channelContractId
      (rpc (.resolveChannelContext input.channelContractId input.ppPublicKey))
    let submitter ← validateSubmitter input.ppPublicKey input.sessionId
    let bundleId := generateBundleId cfg input.operationsMLXDR
    let isBundleExpired ← assertBundleIsExpired bundleId
    let operations ← Task.done (I := platform) (parseOperations cfg input.operationsMLXDR)
    let classified := classifyOperations operations
    Task.done (I := platform) (validateSpendOperations classified.spend)
    let isDisabled : Bool ← run (.isDisabled input.channelContractId)
    if isDisabled && !isWithdrawOnlyBundle classified then
      reject (.channelDisabled input.channelContractId)
    else do
      let feeAndTtl ← calculateFeeAndTtl input.channelContractId channelCtx.channelClient classified
      pure {
        accountId := submitter.1
        entity := submitter.2
        channelClient := channelCtx.channelClient
        bundleId := bundleId
        isBundleExpired := isBundleExpired
        classified := classified
        fee := feeAndTtl.1
        ttl := feeAndTtl.2 }

/-! ## Persistence -/

/-- What a repository's write hands back: `create` one row, `update` the array
of the rows it wrote. The caller types both as one entity. -/
inductive Written (ρ : Type)
  | row (r : ρ)
  | array (rs : List ρ)
  deriving DecidableEq

/-- Read a column; on an array it is `undefined`. -/
def Written.get {ρ α : Type} (column : ρ → α) : Written ρ → Option α
  | .row r => some (column r)
  | .array _ => none

/-- Write the row of the bundle: reset an expired or failed one, or create it. -/
def persistBundle (input : BundleRequest) (adm : Admission) : Promise (Written OperationsBundle) :=
  if adm.isBundleExpired then do
    let updated : List OperationsBundle ← command (.updateBundle adm.bundleId {
      status := some .pending
      channelContractId := some input.channelContractId
      operationsMLXDR := some input.operationsMLXDR
      fee := some adm.fee
      ttl := some adm.ttl
      retryCount := some 0
      ppPublicKey := some input.ppPublicKey
      updatedBy := some adm.accountId })
    pure (.array updated)
  else do
    let now : Time ← run .now
    let created : OperationsBundle ← command (.createBundle {
      id := adm.bundleId
      status := .pending
      channelContractId := input.channelContractId
      ttl := adm.ttl
      operationsMLXDR := input.operationsMLXDR
      fee := adm.fee
      ppPublicKey := input.ppPublicKey
      createdBy := adm.accountId
      createdAt := now })
    pure (.row created)

/-- Create the row of one CREATE, unless the UTXO is known. -/
def persistCreateOperation (bundleId : Option BundleId) (accountId : AccountId)
    (operation : CreateOperation) : Promise Unit := do
  let utxo : Option Utxo ← query (.findUtxoById operation.utxo)
  match utxo with
  | some _ => pure ()
  | none => do
    let now : Time ← run .now
    let _ ← command (.createUtxo {
      id := operation.utxo
      accountId := accountId
      amount := operation.amount
      createdAt := now
      createdBy := accountId
      createdAtBundleId := bundleId })
    pure ()

def persistCreateOperations (operations : List CreateOperation) (bundleId : Option BundleId)
    (accountId : AccountId) : Promise Unit :=
  Task.forEach (I := platform) (persistCreateOperation bundleId accountId) operations

/-- Debit the row of one SPEND by the balance read for it. -/
def persistSpendOperation (bundleId : Option BundleId) (accountId : AccountId)
    (spend : SpendOperation × Int) : Promise Unit := do
  let utxo : Option Utxo ← query (.findUtxoById spend.1.utxo)
  match utxo with
  | none => reject (.utxoNotFound spend.1.utxo)
  | some utxo => do
    let _ ← command (.updateUtxo utxo.id {
      amount := utxo.amount - spend.2
      updatedBy := accountId
      spentAtBundleId := bundleId
      spentByAccountId := accountId })
    pure ()

/-- Each spend with its balance, zero where none was returned. -/
def withBalances (operations : List SpendOperation) (balances : List Int) :
    List (SpendOperation × Int) :=
  operations.zipIdx.map fun p => (p.1, balances.getD p.2 0)

def persistSpendOperations (operations : List SpendOperation) (bundleId : Option BundleId)
    (accountId : AccountId) (channelClient channelContractId : ContractId) : Promise Unit :=
  if operations.isEmpty then pure ()
  else do
    let balances ← withAdmissionTimeout channelContractId
      (fetchUtxoBalances channelClient (operations.map (·.utxo)))
    Task.forEach (I := platform) (persistSpendOperation bundleId accountId)
      (withBalances operations balances)

/-! ## The slot bundle -/

/-- The slot bundle of the entity that was written. On an array the `ttl` is
`undefined` and has no `getTime`. -/
def createSlotBundle (cfg : Config) (now : Time) (bundleEntity : Written OperationsBundle)
    (classified : ClassifiedOperations) (entityName : Option String)
    (jurisdictions : List String) : Except Err SlotBundle :=
  match bundleEntity with
  | .array _ =>
    .error (.typeError "Cannot read properties of undefined (reading \x27getTime\x27)")
  | .row bundleEntity => .ok {
      bundleId := bundleEntity.id
      channelContractId := bundleEntity.channelContractId.getD ""
      operationsMLXDR := bundleEntity.operationsMLXDR
      operations := classified
      fee := bundleEntity.fee
      weight := calculateBundleWeight classified cfg.weightConfig
      ttl := bundleEntity.ttl
      createdAt := bundleEntity.createdAt
      priorityScore :=
        calculatePriorityScore now bundleEntity.fee bundleEntity.ttl bundleEntity.createdAt
      retryCount := bundleEntity.retryCount
      lastFailureReason := bundleEntity.lastFailureReason
      ppPublicKey := bundleEntity.ppPublicKey.getD ""
      entityName := entityName
      jurisdictions := jurisdictions
      amount := aggregateBundleAmount classified }

/-- Everything `P_AddOperationsBundle` does after the bundle row is written. -/
def enqueueBundle (cfg : Config) (input : BundleRequest) (adm : Admission)
    (bundleEntity : Written OperationsBundle) : Promise Unit := do
  persistCreateOperations adm.classified.create (bundleEntity.get (·.id)) adm.accountId
  persistSpendOperations adm.classified.spend (bundleEntity.get (·.id)) adm.accountId
    adm.channelClient input.channelContractId
  let now : Time ← run .now
  let slotBundle ← Task.done (I := platform) (createSlotBundle cfg now bundleEntity adm.classified
    (adm.entity.bind (·.name)) ((adm.entity.bind (·.jurisdictions)).getD []))
  Mempool.addBundle cfg slotBundle

/-- Admission of one request; returns `operationsBundleId`. -/
def addOperationsBundle (cfg : Config) (input : BundleRequest) : Promise (Option BundleId) := do
  let adm ← checkRequest cfg input
  let bundleEntity ← persistBundle input adm
  enqueueBundle cfg input adm bundleEntity
  pure (bundleEntity.get (·.id))

end ProviderPlatform
