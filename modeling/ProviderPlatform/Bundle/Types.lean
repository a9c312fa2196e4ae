import Mathlib.Data.Rat.Defs

/-! # Operations, bundles and errors

The values the bundle service, the mempool, the executor and the verifier
hand to each other. A `bigint` is an `Int`, a `Date` is its `getTime()`, and
the priority score is an exact rational. -/
namespace ProviderPlatform

abbrev BundleId := String
abbrev AccountId := String
abbrev PublicKey := String
abbrev ContractId := String
abbrev UtxoId := String
abbrev TxHash := String
/-- One serialized operation. -/
abbrev MLXDR := String
/-- Milliseconds since the epoch. -/
abbrev Time := Int

/-! ## Operations -/

structure CreateOperation where
  utxo : UtxoId
  amount : Int
  deriving DecidableEq

/-- The signature of a spend by the owner of its UTXO; `exp` is the ledger it
is valid until. -/
structure UtxoSignature where
  exp : Nat
  deriving DecidableEq

/-- A spend carries no amount: its value is the on-chain balance. -/
structure SpendOperation where
  utxo : UtxoId
  utxoSignature : Option UtxoSignature
  deriving DecidableEq

def SpendOperation.isSignedByUtxo (op : SpendOperation) : Bool := op.utxoSignature.isSome

structure DepositOperation where
  publicKey : PublicKey
  amount : Int
  deriving DecidableEq

structure WithdrawOperation where
  publicKey : PublicKey
  amount : Int
  deriving DecidableEq

inductive MoonlightOperation
  | create (op : CreateOperation)
  | spend (op : SpendOperation)
  | deposit (op : DepositOperation)
  | withdraw (op : WithdrawOperation)
  deriving DecidableEq

/-- Operations classified by type. -/
structure ClassifiedOperations where
  create : List CreateOperation
  spend : List SpendOperation
  deposit : List DepositOperation
  withdraw : List WithdrawOperation
  deriving DecidableEq

/-- Breakdown of operation amounts by type. -/
structure OperationAmounts where
  totalDepositAmount : Int
  totalCreateAmount : Int
  totalWithdrawAmount : Int
  totalSpendAmount : Int
  deriving DecidableEq

structure FeeCalculation where
  fee : Int
  totalInflows : Int
  totalOutflows : Int
  breakdown : OperationAmounts
  deriving DecidableEq

structure WeightConfig where
  expensiveOpWeight : Nat
  cheapOpWeight : Nat

/-! ## Failures -/

/-- The amounts of an underfunded fee payer, in stroops. -/
structure InsufficientFeesDetail where
  feePayerPubkey : PublicKey
  availableXlm : Int
  requiredXlm : Int
  shortfallXlm : Int
  deriving DecidableEq

/-- Everything a promise of the platform rejects with. `executionError` wraps
the cause of a failed submission; `contractError` is what the SDK decodes
from an on-chain revert. -/
inductive Err
  | tooManyOperations (received max : Nat)
  | ppPublicKeyRequired
  | invalidSession (sessionId : String)
  | submitterNotApproved (pubkey : PublicKey)
  | bundleAlreadyExists (bundleId : BundleId)
  | invalidMlxdr (mlxdr : MLXDR)
  | spendOperationNotSigned (operationIndex : Nat)
  | channelDisabled (channelContractId : ContractId)
  | channelRpcUnavailable (channelContractId : ContractId)
  | insufficientBalance (availableStroops requiredStroops : Int)
  | utxoNotFound (utxoId : UtxoId)
  | slotFull (slotWeight capacity : Nat)
  | insufficientFees (detail : InsufficientFeesDetail)
  | executionError (cause : Err) (phase : String)
  | contractError (code : Nat) (name details : String)
  | timeout (opName : String)
  | typeError (message : String)
  | database (message : String)
  | error (message : String)
  deriving DecidableEq

/-- Structured, safe failure identity persisted to a bundle. -/
structure StructuredFailureDetail where
  code : String
  source : String
  message : String
  name : Option String := none
  deriving DecidableEq

inductive FailureDetail
  | structured (detail : StructuredFailureDetail)
  | insufficientFees (detail : InsufficientFeesDetail)
  deriving DecidableEq

/-- What `lastFailureReason` records, before it is serialized: the payload of
the executor's catch block, the verifier's, or a bare message. -/
inductive FailureReason
  | slotExecution (occurredAt : Time) (phase : String) (cause : Err) (bundleCount totalWeight : Nat)
      (bundleIds : List BundleId)
  | verification (occurredAt : Time) (reason : String) (txId : TxHash) (bundleId : BundleId)
  | message (cause : Err)
  deriving DecidableEq

/-! ## Slot bundles -/

/-- Bundle structure for mempool slots. -/
structure SlotBundle where
  bundleId : BundleId
  channelContractId : ContractId
  operationsMLXDR : List MLXDR
  operations : ClassifiedOperations
  fee : Int
  weight : Nat
  ttl : Time
  createdAt : Time
  priorityScore : Rat
  retryCount : Nat
  lastFailureReason : Option FailureReason
  /-- The PP that owns this bundle. -/
  ppPublicKey : PublicKey
  entityName : Option String
  jurisdictions : List String
  amount : Option String
  deriving DecidableEq

/-- The environment the platform reads at start, and the pure functions of its
libraries that it calls: `fromMLXDR` is `none` where the parser throws,
`acceptsOperation` says whether a transaction builder takes one more
operation, `hasNetworkContext` whether an error carries a network envelope. -/
structure Config where
  slotCapacity : Nat
  weightConfig : WeightConfig
  startupMaxBundleAgeMs : Nat
  maxRetryAttempts : Nat
  bundleMaxOperations : Nat
  transactionExpirationOffset : Nat
  networkFee : Int
  baseReserveStroops : Int
  fromMLXDR : MLXDR → Option MoonlightOperation
  sha256Hash : List MLXDR → BundleId
  acceptsOperation : List MoonlightOperation → MoonlightOperation → Bool
  hasNetworkContext : Err → Bool

end ProviderPlatform
