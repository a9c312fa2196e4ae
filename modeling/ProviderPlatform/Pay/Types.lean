import ProviderPlatform.Async.Pool
import ProviderPlatform.Bundle.Types
import ProviderPlatform.Persistence.Repository
import ProviderPlatform.Store.RowLocks

/-! # Custodial accounts and escrows

The tables of the payment endpoints, and what the handlers ask of the
database. PostgreSQL runs their transactions at READ COMMITTED: a statement
sees the committed rows and the transaction's own changes. A locking select
first scans for candidates and then locks each of them, which waits until no
other transaction holds the row; the row is read again then, and dropped if
the condition no longer holds. A request that has to wait is one that is not
served yet: served too early it fails, as after a lock timeout. -/
namespace ProviderPlatform
open Async Store

/-! ## The rows -/

inductive PayCustodialStatus
  | active
  | suspended
  deriving DecidableEq

structure PayCustodialAccount where
  id : AccountId
  depositAddress : PublicKey
  balance : Int
  status : PayCustodialStatus
  updatedAt : Time
  deriving DecidableEq

inductive PayEscrowStatus
  | held
  | claimed
  | expired
  deriving DecidableEq

inductive PayMode
  | self
  | custodial
  deriving DecidableEq

abbrev EscrowId := String

structure PayEscrow where
  id : EscrowId
  heldForAddress : PublicKey
  senderAddress : PublicKey
  amount : Int
  assetCode : String := "XLM"
  status : PayEscrowStatus
  utxoPublicKeys : Option (List String)
  bundleId : Option String
  mode : PayMode
  createdAt : Time
  updatedAt : Time
  deletedAt : Option Time := none
  deriving DecidableEq

inductive PayKycStatus
  | none
  | pending
  | verified
  deriving DecidableEq

/-- A row is found by its address, which is unique. -/
structure PayKyc where
  address : PublicKey
  status : PayKycStatus
  jurisdiction : Option String
  deletedAt : Option Time
  deriving DecidableEq

inductive PayTransactionType
  | deposit
  | withdraw
  | send
  | receive
  deriving DecidableEq

inductive PayTransactionStatus
  | pending
  | completed
  | failed
  | expired
  deriving DecidableEq

structure PayTransaction where
  id : String
  type : PayTransactionType
  status : PayTransactionStatus
  amount : Int
  assetCode : String
  fromAddress : Option PublicKey
  toAddress : Option PublicKey
  jurisdictionFrom : Option String
  jurisdictionTo : Option String
  accountId : String
  mode : PayMode
  createdAt : Time
  updatedAt : Time
  deriving DecidableEq

/-! ## The ledger

Every change of a balance is written down with its cause, and so is every
escrow that is created or claimed; the entries of a transaction are in the
ledger from its commit on. Nothing in the code reads it. -/

inductive Entry
  /-- A send takes the amount from the account. -/
  | debit (account : AccountId) (amount : Int)
  /-- An escrow of mode custodial is created. -/
  | hold (escrow : EscrowId) (amount : Int)
  /-- A claim adds the amount of the escrow to the account. -/
  | credit (account : AccountId) (escrow : EscrowId) (amount : Int)
  /-- An escrow of mode custodial is no longer HELD. -/
  | release (escrow : EscrowId) (amount : Int)
  deriving DecidableEq

/-- An escrow that the custodial accounts have a claim on. -/
def PayEscrow.IsHeld (escrow : PayEscrow) : Prop :=
  escrow.status = .held ∧ escrow.mode = .custodial

instance (escrow : PayEscrow) : Decidable escrow.IsHeld :=
  inferInstanceAs (Decidable (_ ∧ _))

/-- The entries of the creation, and of the claim, of an escrow. -/
def PayEscrow.created (escrow : PayEscrow) : List Entry :=
  if escrow.IsHeld then [.hold escrow.id escrow.amount] else []

def PayEscrow.released (escrow : PayEscrow) : List Entry :=
  if escrow.IsHeld then [.release escrow.id escrow.amount] else []

/-! ## The process -/

structure PayState where
  accounts : LockedTable PayCustodialAccount.id
  escrows : LockedTable PayEscrow.id
  kyc : Table PayKyc.address
  transactions : Table PayTransaction.id
  /-- The rows that open transactions have inserted. -/
  inserted : List (Nat × PayTransaction)
  nextTx : Nat
  clock : Time
  uuid : Nat → String
  uuids : Nat
  /-- The entries of open transactions. -/
  noted : List (Nat × Entry)
  ledger : List Entry

/-- The conditions that accounts are selected by. -/
inductive AccountWhere
  | id (accountId : AccountId)
  | depositAddress (address : PublicKey)

def AccountWhere.holds : AccountWhere → PayCustodialAccount → Bool
  | id accountId, account => account.id == accountId
  | depositAddress address, account => account.depositAddress == address

/-- HELD, for the address, and not deleted. -/
def PayEscrow.heldFor (address : PublicKey) (escrow : PayEscrow) : Bool :=
  escrow.heldForAddress == address && escrow.status == .held && escrow.deletedAt.isNone

/-- A field of a request body, as far as a handler tells values apart. -/
inductive BodyField
  /-- Missing, `null`, `false` or 0. -/
  | falsy
  | string (text : String)
  | other
  deriving DecidableEq

def BodyField.truthy : BodyField → Bool
  | falsy => false
  | string text => text != ""
  | other => true

/-- The fields `to` and `amount`. -/
structure SendBody where
  toAddress : BodyField
  amount : BodyField

inductive PayOp
  | randomUUID
  | now

@[reducible] def PayOp.Out : PayOp → Type
  | randomUUID => String
  | now => Time

/-- What the handlers wait for. The requests of a transaction carry its number;
the write of a balance carries its cause. -/
inductive PayReq
  | readBody (body : Option SendBody)
  | findKyc (address : PublicKey)
  | createEscrow (escrow : PayEscrow)
  | begin
  | commit (tx : Nat)
  | rollback (tx : Nat)
  | scanAccounts (tx : Nat) (cond : AccountWhere)
  | lockAccount (tx : Nat) (cond : AccountWhere) (id : AccountId)
  | updateBalance (tx : Nat) (id : AccountId) (balance : Int) (updatedAt : Time) (cause : Entry)
  | scanEscrows (tx : Nat) (address : PublicKey)
  | lockEscrow (tx : Nat) (address : PublicKey) (id : EscrowId)
  | markClaimed (tx : Nat) (id : EscrowId) (updatedAt : Time)
  | insertTransaction (tx : Nat) (row : PayTransaction)

@[reducible] def PayReq.Ans : PayReq → Type
  | readBody _ => Option SendBody
  | findKyc _ => Option PayKyc
  | begin => Nat
  | scanAccounts _ _ => List AccountId
  | lockAccount _ _ _ => Option PayCustodialAccount
  | scanEscrows _ _ => List EscrowId
  | lockEscrow _ _ _ => Option PayEscrow
  | _ => Unit

abbrev payPlatform : Interface := ⟨PayOp, PayOp.Out, PayReq, PayReq.Ans, Err⟩

abbrev PayPromise (α : Type) := Task payPlatform α

def runPayOp : (o : PayOp) → PayState → o.Out × PayState
  | .randomUUID, s => (s.uuid s.uuids, { s with uuids := s.uuids + 1 })
  | .now, s => (s.clock, s)

def lockTimeout : Err := .database "lock timeout"

/-- The entries of a transaction. -/
def PayState.notesOf (s : PayState) (tx : Nat) : List Entry :=
  s.noted.filterMap fun p => if p.1 = tx then some p.2 else none

namespace PayState

def findKyc (s : PayState) (address : PublicKey) : Option PayKyc :=
  (s.kyc.find address).filter (·.deletedAt.isNone)

def note (s : PayState) (tx : Nat) (entries : List Entry) : PayState :=
  { s with noted := s.noted ++ entries.map fun entry => (tx, entry) }

/-- Forget what belongs to a transaction. -/
def forget (s : PayState) (tx : Nat) : PayState :=
  { s with
    inserted := s.inserted.filter (·.1 != tx)
    noted := s.noted.filter (·.1 != tx) }

def rollback (s : PayState) (tx : Nat) : PayState :=
  { s.forget tx with
    accounts := s.accounts.release tx
    escrows := s.escrows.release tx }

def commit (s : PayState) (tx : Nat) : PayState :=
  { s.forget tx with
    accounts := s.accounts.commit tx
    escrows := s.escrows.commit tx
    transactions :=
      (s.inserted.filter (·.1 == tx)).foldl (fun rows p => rows.upsert p.2) s.transactions
    ledger := s.ledger ++ s.notesOf tx }

/-- The UPDATE of a balance, with its cause. -/
def updateBalance (s : PayState) (tx : Nat) (id : AccountId) (balance : Int) (updatedAt : Time)
    (cause : Entry) : PayState :=
  { s.note tx [cause] with
    accounts := s.accounts.write tx id
      (fun account => { account with balance := balance, updatedAt := updatedAt }) fun _ => rfl }

def markClaimed (s : PayState) (tx : Nat) (id : EscrowId) (updatedAt : Time) (escrow : PayEscrow) :
    PayState :=
  { s.note tx escrow.released with
    escrows := s.escrows.write tx id
      (fun row => { row with status := .claimed, updatedAt := updatedAt }) fun _ => rfl }

end PayState

/-- What a request does once it is served. An update that finds no row changes
nothing; a row of a transaction that is still open counts as there for an
insert with its key. -/
def servePay : (q : PayReq) → PayState → Except Err q.Ans × PayState
  | .readBody body, s => (.ok body, s)
  | .findKyc address, s => (.ok (s.findKyc address), s)
  | .createEscrow escrow, s =>
    match s.escrows.insert? escrow with
    | some escrows =>
      (.ok (), { s with escrows := escrows, ledger := s.ledger ++ escrow.created })
    | none => (.error constraintViolation, s)
  | .begin, s => (.ok s.nextTx, { s with nextTx := s.nextTx + 1 })
  | .commit tx, s => (.ok (), s.commit tx)
  | .rollback tx, s => (.ok (), s.rollback tx)
  | .scanAccounts tx cond, s => (.ok (((s.accounts.view tx).select cond.holds).map (·.id)), s)
  | .lockAccount tx cond id, s =>
    if s.accounts.Free tx id then
      match (s.accounts.view tx).find id with
      | some account =>
        (.ok (some account |>.filter cond.holds), { s with accounts := s.accounts.lock tx id })
      | none => (.ok none, s)
    else (.error lockTimeout, s)
  | .updateBalance tx id balance updatedAt cause, s =>
    if s.accounts.Free tx id then
      match (s.accounts.view tx).find id with
      | some _ => (.ok (), s.updateBalance tx id balance updatedAt cause)
      | none => (.ok (), s)
    else (.error lockTimeout, s)
  | .scanEscrows tx address, s =>
    (.ok (((s.escrows.view tx).select (·.heldFor address)).map (·.id)), s)
  | .lockEscrow tx address id, s =>
    if s.escrows.Free tx id then
      match (s.escrows.view tx).find id with
      | some escrow =>
        (.ok (some escrow |>.filter (·.heldFor address)),
          { s with escrows := s.escrows.lock tx id })
      | none => (.ok none, s)
    else (.error lockTimeout, s)
  | .markClaimed tx id updatedAt, s =>
    if s.escrows.Free tx id then
      match (s.escrows.view tx).find id with
      | some escrow => (.ok (), s.markClaimed tx id updatedAt escrow)
      | none => (.ok (), s)
    else (.error lockTimeout, s)
  | .insertTransaction tx row, s =>
    if (s.transactions.find row.id).isSome ∨ s.inserted.any (·.2.id == row.id) then
      (.error constraintViolation, s)
    else (.ok (), { s with inserted := s.inserted ++ [(tx, row)] })

def payHost : Host payPlatform PayState where
  runOp := runPayOp
  serve := servePay
  pass n s := { s with clock := s.clock + n }

end ProviderPlatform
