import ProviderPlatform.Bundle.Types
import ProviderPlatform.Store.Table

/-! # Entities

The rows of the tables the bundle pipeline reads and writes, and the
database. An absent column of a patch is a key that is left `undefined`:
the update does not mention it. -/
namespace ProviderPlatform
open Store

inductive BundleStatus
  | pending
  | processing
  | expired
  | completed
  | failed
  deriving DecidableEq

/-- `[PENDING, PROCESSING]`, the statuses the gated updates pass. -/
def BundleStatus.active : List BundleStatus := [.pending, .processing]

inductive TransactionStatus
  | unverified
  | verified
  | failed
  deriving DecidableEq

inductive EntityStatus
  | unverified
  | approved
  | pending
  | blocked
  deriving DecidableEq

/-- Audit and soft delete fields. -/
structure BaseColumns where
  createdAt : Time
  updatedAt : Time
  createdBy : Option AccountId := none
  updatedBy : Option AccountId := none
  deletedAt : Option Time := none
  deriving DecidableEq

/-! ## Bundles -/

structure OperationsBundle extends BaseColumns where
  id : BundleId
  status : BundleStatus
  channelContractId : Option ContractId
  ttl : Time
  operationsMLXDR : List MLXDR
  fee : Int
  retryCount : Nat := 0
  lastFailureReason : Option FailureReason := none
  failureDetail : Option FailureDetail := none
  ppPublicKey : Option PublicKey
  deriving DecidableEq

/-- Not soft deleted, and in one of the statuses. -/
def OperationsBundle.isIn (statuses : List BundleStatus) (row : OperationsBundle) : Bool :=
  row.deletedAt.isNone && statuses.contains row.status

structure OperationsBundlePatch where
  status : Option BundleStatus := none
  channelContractId : Option ContractId := none
  ttl : Option Time := none
  operationsMLXDR : Option (List MLXDR) := none
  fee : Option Int := none
  retryCount : Option Nat := none
  lastFailureReason : Option FailureReason := none
  failureDetail : Option FailureDetail := none
  ppPublicKey : Option PublicKey := none
  updatedBy : Option AccountId := none
  deriving DecidableEq

/-- Write the columns a patch mentions. -/
def OperationsBundle.set (now : Time) (data : OperationsBundlePatch) (row : OperationsBundle) :
    OperationsBundle :=
  { row with
    status := data.status.getD row.status
    channelContractId := data.channelContractId <|> row.channelContractId
    ttl := data.ttl.getD row.ttl
    operationsMLXDR := data.operationsMLXDR.getD row.operationsMLXDR
    fee := data.fee.getD row.fee
    retryCount := data.retryCount.getD row.retryCount
    lastFailureReason := data.lastFailureReason <|> row.lastFailureReason
    failureDetail := data.failureDetail <|> row.failureDetail
    ppPublicKey := data.ppPublicKey <|> row.ppPublicKey
    updatedBy := data.updatedBy <|> row.updatedBy
    updatedAt := now }

@[simp] theorem OperationsBundle.set_id (now : Time) (data : OperationsBundlePatch)
    (row : OperationsBundle) : (row.set now data).id = row.id := rfl
@[simp] theorem OperationsBundle.set_status (now : Time) (data : OperationsBundlePatch)
    (row : OperationsBundle) : (row.set now data).status = data.status.getD row.status := rfl
@[simp] theorem OperationsBundle.set_deletedAt (now : Time) (data : OperationsBundlePatch)
    (row : OperationsBundle) : (row.set now data).deletedAt = row.deletedAt := rfl

theorem isIn_set {now : Time} {data : OperationsBundlePatch} {row : OperationsBundle}
    {statuses : List BundleStatus} : (row.set now data).isIn statuses =
      (row.deletedAt.isNone && statuses.contains (data.status.getD row.status)) := rfl

/-! ## Transactions and links -/

structure Transaction extends BaseColumns where
  id : TxHash
  status : TransactionStatus
  timeout : Time
  ledgerSequence : String
  deriving DecidableEq

def Transaction.setStatus (now : Time) (status : TransactionStatus) (row : Transaction) :
    Transaction :=
  { row with status := status, updatedAt := now }

@[simp] theorem Transaction.setStatus_id (now : Time) (status : TransactionStatus)
    (row : Transaction) : (row.setStatus now status).id = row.id := rfl

structure BundleTransaction extends BaseColumns where
  bundleId : BundleId
  transactionId : TxHash
  deriving DecidableEq

/-- The composite primary key. -/
def BundleTransaction.key (row : BundleTransaction) : BundleId × TxHash :=
  (row.bundleId, row.transactionId)

/-! ## UTXOs -/

structure Utxo extends BaseColumns where
  id : UtxoId
  amount : Int
  accountId : AccountId
  spentByAccountId : Option AccountId := none
  createdAtBundleId : Option BundleId
  spentAtBundleId : Option BundleId := none
  deriving DecidableEq

structure UtxoPatch where
  amount : Int
  updatedBy : AccountId
  spentAtBundleId : Option BundleId
  spentByAccountId : AccountId
  deriving DecidableEq

def Utxo.set (now : Time) (data : UtxoPatch) (row : Utxo) : Utxo :=
  { row with
    amount := data.amount
    updatedBy := some data.updatedBy
    spentAtBundleId := data.spentAtBundleId <|> row.spentAtBundleId
    spentByAccountId := some data.spentByAccountId
    updatedAt := now }

@[simp] theorem Utxo.set_id (now : Time) (data : UtxoPatch) (row : Utxo) :
    (row.set now data).id = row.id := rfl

/-! ## Who submits, and for which provider -/

structure Session where
  id : String
  accountId : AccountId
  deletedAt : Option Time := none
  deriving DecidableEq

structure Account where
  id : AccountId
  entityId : String
  deletedAt : Option Time := none
  deriving DecidableEq

structure Entity where
  id : String
  name : Option String
  jurisdictions : Option (List String)
  deletedAt : Option Time := none
  deriving DecidableEq

structure PpEntityApproval where
  ppPublicKey : PublicKey
  accountPubkey : AccountId
  status : EntityStatus
  updatedAt : Time
  deletedAt : Option Time := none
  deriving DecidableEq

/-- The unique index of the approvals. -/
def PpEntityApproval.key (row : PpEntityApproval) : PublicKey × AccountId :=
  (row.ppPublicKey, row.accountPubkey)

structure PaymentProvider where
  publicKey : PublicKey
  label : Option String
  deriving DecidableEq

/-- The rows that other endpoints maintain and the pipeline only reads. -/
structure Directory where
  sessions : Table Session.id
  accounts : Table Account.id
  entities : Table Entity.id
  paymentProviders : Table PaymentProvider.publicKey

structure Database where
  operationsBundles : Table OperationsBundle.id
  transactions : Table Transaction.id
  bundlesTransactions : Table BundleTransaction.key
  utxos : Table Utxo.id
  approvals : Table PpEntityApproval.key
  directory : Directory

end ProviderPlatform
