import ProviderPlatform.Persistence.Entities
import Mathlib.Data.List.Sort

/-! # The repositories

One query or command for each repository method that the pipeline awaits.
A query reads one statement's snapshot; a command is one atomic statement.
`BaseRepository.update` returns the array of the rows it wrote. -/
namespace ProviderPlatform
open Store

/-! ## Queries -/

structure EventScope where
  ppPublicKey : PublicKey
  ppLabel : Option String
  deriving DecidableEq

inductive Query
  | findBundleById (id : BundleId)
  | findPendingOrProcessing
  | findBundlePps (ids : List BundleId)
  | findTransactionsByStatus (status : TransactionStatus)
  | findLinksByBundleId (bundleId : BundleId)
  | findLinksByTransactionId (transactionId : TxHash)
  | findUtxoById (id : UtxoId)
  | findSessionById (id : String)
  | findAccountById (id : AccountId)
  | findEntityById (id : String)
  | findByPpAndAccount (ppPublicKey : PublicKey) (accountPubkey : AccountId)
  | resolveScopeForPp (ppPublicKey : PublicKey)

@[reducible] def Query.Ans : Query → Type
  | findBundleById _ => Option OperationsBundle
  | findPendingOrProcessing => List OperationsBundle
  | findBundlePps _ => List (Option PublicKey)
  | findTransactionsByStatus _ => List Transaction
  | findLinksByBundleId _ => List BundleTransaction
  | findLinksByTransactionId _ => List BundleTransaction
  | findUtxoById _ => Option Utxo
  | findSessionById _ => Option Session
  | findAccountById _ => Option Account
  | findEntityById _ => Option Entity
  | findByPpAndAccount _ _ => Option PpEntityApproval
  | resolveScopeForPp _ => Option EventScope

def Query.run (db : Database) : (q : Query) → q.Ans
  | findBundleById id => (db.operationsBundles.find id).filter (·.deletedAt.isNone)
  | findPendingOrProcessing => db.operationsBundles.select (·.isIn BundleStatus.active)
  | findBundlePps ids => (db.operationsBundles.select fun r => ids.contains r.id).map (·.ppPublicKey)
  | findTransactionsByStatus status =>
    db.transactions.select fun r => r.deletedAt.isNone && r.status == status
  | findLinksByBundleId bundleId =>
    db.bundlesTransactions.select fun r => r.deletedAt.isNone && r.bundleId == bundleId
  | findLinksByTransactionId transactionId =>
    db.bundlesTransactions.select fun r => r.deletedAt.isNone && r.transactionId == transactionId
  | findUtxoById id => (db.utxos.find id).filter (·.deletedAt.isNone)
  | findSessionById id => (db.directory.sessions.find id).filter (·.deletedAt.isNone)
  | findAccountById id => (db.directory.accounts.find id).filter (·.deletedAt.isNone)
  | findEntityById id => (db.directory.entities.find id).filter (·.deletedAt.isNone)
  | findByPpAndAccount ppPublicKey accountPubkey =>
    (db.approvals.find (ppPublicKey, accountPubkey)).filter (·.deletedAt.isNone)
  | resolveScopeForPp ppPublicKey =>
    (db.directory.paymentProviders.find ppPublicKey).map fun r => ⟨r.publicKey, r.label⟩

/-! ## Commands -/

structure NewOperationsBundle where
  id : BundleId
  status : BundleStatus
  channelContractId : ContractId
  ttl : Time
  operationsMLXDR : List MLXDR
  fee : Int
  ppPublicKey : PublicKey
  createdBy : AccountId
  createdAt : Time
  deriving DecidableEq

/-- The inserted row, with the column defaults. -/
def NewOperationsBundle.row (now : Time) (data : NewOperationsBundle) : OperationsBundle where
  id := data.id
  status := data.status
  channelContractId := some data.channelContractId
  ttl := data.ttl
  operationsMLXDR := data.operationsMLXDR
  fee := data.fee
  ppPublicKey := some data.ppPublicKey
  createdBy := some data.createdBy
  createdAt := data.createdAt
  updatedAt := now

@[simp] theorem NewOperationsBundle.row_id (now : Time) (data : NewOperationsBundle) :
    (data.row now).id = data.id := rfl

structure NewUtxo where
  id : UtxoId
  accountId : AccountId
  amount : Int
  createdAt : Time
  createdBy : AccountId
  createdAtBundleId : Option BundleId
  deriving DecidableEq

def NewUtxo.row (now : Time) (data : NewUtxo) : Utxo where
  id := data.id
  amount := data.amount
  accountId := data.accountId
  createdAtBundleId := data.createdAtBundleId
  createdBy := some data.createdBy
  createdAt := data.createdAt
  updatedAt := now

structure NewTransaction where
  id : TxHash
  status : TransactionStatus
  timeout : Time
  ledgerSequence : String
  createdAt : Time
  createdBy : AccountId
  deriving DecidableEq

def NewTransaction.row (now : Time) (data : NewTransaction) : Transaction where
  id := data.id
  status := data.status
  timeout := data.timeout
  ledgerSequence := data.ledgerSequence
  createdBy := some data.createdBy
  createdAt := data.createdAt
  updatedAt := now

structure NewBundleTransaction where
  bundleId : BundleId
  transactionId : TxHash
  createdAt : Time
  createdBy : AccountId
  deriving DecidableEq

def NewBundleTransaction.row (now : Time) (data : NewBundleTransaction) : BundleTransaction where
  bundleId := data.bundleId
  transactionId := data.transactionId
  createdBy := some data.createdBy
  createdAt := data.createdAt
  updatedAt := now

inductive Command
  | createBundle (data : NewOperationsBundle)
  | updateBundle (id : BundleId) (data : OperationsBundlePatch)
  | updateStatusIfActive (id : BundleId) (newStatus : BundleStatus)
      (activeStatuses : List BundleStatus)
  | updateIfStatusIn (id : BundleId) (data : OperationsBundlePatch)
      (activeStatuses : List BundleStatus)
  | expireOlderThan (olderThan : Time) (statuses : List BundleStatus) (limit : Nat)
  | expireByIds (ids : List BundleId) (activeStatuses : List BundleStatus)
  | createUtxo (data : NewUtxo)
  | updateUtxo (id : UtxoId) (data : UtxoPatch)
  | createTransaction (data : NewTransaction)
  | updateTransaction (id : TxHash) (status : TransactionStatus)
  | createLink (data : NewBundleTransaction)
  | recordInteraction (ppPublicKey : PublicKey) (accountPubkey : AccountId)

@[reducible] def Command.Ans : Command → Type
  | createBundle _ => OperationsBundle
  | updateBundle _ _ => List OperationsBundle
  | updateStatusIfActive _ _ _ => Bool
  | updateIfStatusIn _ _ _ => Bool
  | expireOlderThan _ _ _ => List BundleId
  | expireByIds _ _ => List BundleId
  | createUtxo _ => Utxo
  | updateUtxo _ _ => List Utxo
  | createTransaction _ => Transaction
  | updateTransaction _ _ => List Transaction
  | createLink _ => BundleTransaction
  | recordInteraction _ _ => Unit

namespace Database

/-- `UPDATE operations_bundles SET … WHERE p`, and the rows it matched. -/
def setBundles (db : Database) (now : Time) (p : OperationsBundle → Bool)
    (data : OperationsBundlePatch) : List OperationsBundle × Database :=
  (db.operationsBundles.select p,
    { db with operationsBundles := db.operationsBundles.update p (·.set now data) fun _ => rfl })

/-- The rows `expireOlderThan` picks: the oldest `limit` that match. -/
def staleIds (db : Database) (olderThan : Time) (statuses : List BundleStatus) (limit : Nat) :
    List BundleId :=
  (((db.operationsBundles.select fun r => r.isIn statuses && decide (r.createdAt < olderThan))
    |>.insertionSort fun a b => a.createdAt ≤ b.createdAt).take limit).map (·.id)

/-- Whether the optional reference to a bundle is to a row. -/
def hasBundle (db : Database) : Option BundleId → Bool
  | none => true
  | some id => (db.operationsBundles.find id).isSome

end Database

/-- A violated primary or foreign key. -/
def constraintViolation : Err := .database "constraint violation"

/-- One command at the time `now`. A violated constraint changes nothing. -/
def Command.run (now : Time) (db : Database) : (c : Command) → Except Err c.Ans × Database
  | createBundle data =>
    match db.operationsBundles.insert? (data.row now) with
    | some t => (.ok (data.row now), { db with operationsBundles := t })
    | none => (.error constraintViolation, db)
  | updateBundle id data =>
    let r := db.setBundles now (·.id == id) data
    (.ok (r.1.map (·.set now data)), r.2)
  | updateStatusIfActive id newStatus activeStatuses =>
    let r := db.setBundles now (fun r => r.id == id && r.isIn activeStatuses)
      { status := some newStatus }
    (.ok (!r.1.isEmpty), r.2)
  | updateIfStatusIn id data activeStatuses =>
    let r := db.setBundles now (fun r => r.id == id && r.isIn activeStatuses) data
    (.ok (!r.1.isEmpty), r.2)
  | expireOlderThan olderThan statuses limit =>
    let r := db.setBundles now (fun r => (db.staleIds olderThan statuses limit).contains r.id)
      { status := some .expired }
    (.ok (r.1.map (·.id)), r.2)
  | expireByIds ids activeStatuses =>
    let r := db.setBundles now (fun r => ids.contains r.id && r.isIn activeStatuses)
      { status := some .expired }
    (.ok (r.1.map (·.id)), r.2)
  | createUtxo data =>
    if (db.directory.accounts.find data.accountId).isSome && db.hasBundle data.createdAtBundleId then
      match db.utxos.insert? (data.row now) with
      | some t => (.ok (data.row now), { db with utxos := t })
      | none => (.error constraintViolation, db)
    else (.error constraintViolation, db)
  | updateUtxo id data =>
    if db.hasBundle data.spentAtBundleId then
      (.ok ((db.utxos.select (·.id == id)).map (·.set now data)),
        { db with utxos := db.utxos.update (·.id == id) (·.set now data) fun _ => rfl })
    else (.error constraintViolation, db)
  | createTransaction data =>
    match db.transactions.insert? (data.row now) with
    | some t => (.ok (data.row now), { db with transactions := t })
    | none => (.error constraintViolation, db)
  | updateTransaction id status =>
    (.ok ((db.transactions.select (·.id == id)).map (·.setStatus now status)),
      { db with transactions :=
          db.transactions.update (·.id == id) (·.setStatus now status) fun _ => rfl })
  | createLink data =>
    if db.hasBundle (some data.bundleId) && (db.transactions.find data.transactionId).isSome then
      match db.bundlesTransactions.insert? (data.row now) with
      | some t => (.ok (data.row now), { db with bundlesTransactions := t })
      | none => (.error constraintViolation, db)
    else (.error constraintViolation, db)
  | recordInteraction ppPublicKey accountPubkey =>
    match db.approvals.insert? ⟨ppPublicKey, accountPubkey, .unverified, now, none⟩ with
    | some t => (.ok (), { db with approvals := t })
    | none =>
      let t := db.approvals.update
        (fun r => r.key == (ppPublicKey, accountPubkey) && r.status == .unverified)
        (fun r => { r with updatedAt := now }) fun _ => rfl
      (.ok (), { db with approvals := t })

end ProviderPlatform
