import ProviderPlatform.Async.Pool
import ProviderPlatform.Mempool.Slot
import ProviderPlatform.Persistence.Repository

/-! # The host of the platform's tasks

The state one provider process runs on (its memory, the database, the
network and the clock), the synchronous operations on the memory, and what
is awaited: database statements and calls to the network. Everything the
network answers is a function in `Network`, which may change at any time;
only the list of accepted transactions is fixed by what was submitted. -/
namespace ProviderPlatform
open Async Store

/-! ## Events -/

inductive EventPayload
  | bundleAdded (bundleId : BundleId) (weight : Nat) (channelContractId : ContractId)
      (newSlot : Bool) (entityName : Option String) (jurisdictions : List String)
      (amount : Option String)
  | bundleExpired (bundleId : BundleId) (channelContractId : ContractId)
  | transactionSubmitted (txHash : TxHash) (bundleIds : List BundleId)
      (channelContractId : ContractId)
  | executionFailed (bundleIds : List BundleId) (channelContractId : ContractId) (reason : Err)
  | bundleCompleted (txId : TxHash) (bundleIds : List BundleId) (channelContractId : ContractId)
  | bundleFailed (txId : TxHash) (bundleIds : List BundleId) (channelContractId : ContractId)
      (reason : String)
  | depositCompleted (bundleId : BundleId) (txId : TxHash) (channelContractId : ContractId)
      (depositorAddress : PublicKey) (amount : Int)
  | withdrawCompleted (bundleId : BundleId) (txId : TxHash) (channelContractId : ContractId)
      (recipientAddress : PublicKey) (amount : Int)
  deriving DecidableEq

structure ProviderEvent where
  ts : Time
  scope : EventScope
  payload : EventPayload
  deriving DecidableEq

/-- What a trace of the process shows of its submissions: the bundles of a
transaction passed to `submitTransactionToNetwork` with the channel and the PP
it runs for, the hash it returned, and a transaction row set to FAILED. -/
inductive Submission
  | handed (channelContractId : ContractId) (ppPublicKey : PublicKey) (bundles : List SlotBundle)
  | returned (hash : TxHash) (bundleIds : List BundleId)
  | markedFailed (hash : TxHash)
  deriving DecidableEq

/-! ## The network -/

/-- The signer of a PP and the client of a channel. -/
structure ChannelContext where
  signer : PublicKey
  channelClient : ContractId
  deriving DecidableEq

/-- The operations a transaction builder holds, with the total of the bundle
fees and the ids of the bundles. -/
structure TransactionBuildResult where
  operations : List MoonlightOperation
  totalFee : Int
  bundleIds : List BundleId
  deriving DecidableEq

inductive TxResponse
  | success
  | failed (resultXdr : Option String)
  | notFound
  deriving DecidableEq

structure AccountState where
  balanceStroops : Int
  numSubEntries : Int
  deriving DecidableEq

inductive Rpc
  | resolveChannelContext (channelContractId : ContractId) (ppPublicKey : PublicKey)
  | getLatestLedger
  | utxoBalances (channelClient : ContractId) (utxos : List UtxoId)
  | getTransaction (hash : TxHash)
  | getAccount (publicKey : PublicKey)
  | reserveUTXOs (ctx : ChannelContext)
  | fetchFeePayerAccountState (publicKey : PublicKey)
  | getFeePayerSequence (publicKey : PublicKey)
  | simulateTransaction (operations : List MoonlightOperation) (publicKey : PublicKey)
  | signWithProvider (signer : PublicKey) (expiration : Nat)
  | invokeRaw (ctx : ChannelContext) (operations : List MoonlightOperation)

@[reducible] def Rpc.Ans : Rpc → Type
  | resolveChannelContext _ _ => ChannelContext
  | getLatestLedger => Nat
  | utxoBalances _ _ => List Int
  | getTransaction _ => Option TxResponse
  | getAccount _ => Unit
  | reserveUTXOs _ => Option UtxoId × Nat
  | fetchFeePayerAccountState _ => Option AccountState
  | getFeePayerSequence _ => Int
  | simulateTransaction _ _ => Int
  | signWithProvider _ _ => Unit
  | invokeRaw _ _ => TxHash

structure Network where
  context : ContractId → PublicKey → Except Err ChannelContext
  latestLedger : Nat
  balance : ContractId → UtxoId → Int
  transaction : TxHash → Option TxResponse
  freeUtxos : ChannelContext → List UtxoId
  accountState : PublicKey → Option AccountState
  simulate : List MoonlightOperation → Except Err Int
  invoke : List MoonlightOperation → Except Err TxHash
  /-- The hashes of the transactions the network accepted. -/
  accepted : List TxHash

/-- The network accepts a transaction under a hash it has not given out
before: the sequence number of the source account is part of what is hashed. -/
def Rpc.run (net : Network) : (r : Rpc) → Except Err r.Ans × Network
  | resolveChannelContext channelContractId ppPublicKey =>
    (net.context channelContractId ppPublicKey, net)
  | getLatestLedger => (.ok net.latestLedger, net)
  | utxoBalances channelClient utxos => (.ok (utxos.map (net.balance channelClient)), net)
  | getTransaction hash => (.ok (net.transaction hash), net)
  | getAccount _ => (.ok (), net)
  | reserveUTXOs ctx => (.ok ((net.freeUtxos ctx).head?, (net.freeUtxos ctx).length), net)
  | fetchFeePayerAccountState publicKey => (.ok (net.accountState publicKey), net)
  | getFeePayerSequence _ => (.ok (0 : Int), net)
  | simulateTransaction operations _ => (net.simulate operations, net)
  | signWithProvider _ _ => (.ok (), net)
  | invokeRaw _ operations =>
    match net.invoke operations with
    | .error e => (.error e, net)
    | .ok hash =>
      if net.accepted.contains hash then (.error (.error "duplicate transaction"), net)
      else (.ok hash, { net with accepted := hash :: net.accepted })

/-! ## The state -/

/-- What lives in the process and is lost with it. -/
structure Memory where
  mempool : Mempool
  isProcessing : Bool
  started : Bool
  disabledChannels : List ContractId

/-- A process that has just been launched. -/
def Memory.boot (cfg : Config) : Memory := ⟨.new cfg.slotCapacity, false, false, []⟩

structure State where
  clock : Time
  db : Database
  network : Network
  memory : Memory
  history : List Submission
  events : List ProviderEvent

/-! ## The interface -/

inductive Op
  | now
  | place (bundle : SlotBundle)
  | takeExpired
  | purgeBundles (bundleIds : List BundleId)
  | removeFirstSlot
  | isProcessing
  | setProcessing (b : Bool)
  | isDisabled (channelContractId : ContractId)
  | emit (scope : EventScope) (payload : EventPayload)
  | note (submission : Submission)
  | setStarted

@[reducible] def Op.Out : Op → Type
  | now => Time
  | place _ => Placement
  | takeExpired => List SlotBundle
  | purgeBundles _ => Nat
  | removeFirstSlot => Option Slot
  | isProcessing => Bool
  | setProcessing _ => Unit
  | isDisabled _ => Bool
  | emit _ _ => Unit
  | note _ => Unit
  | setStarted => Unit

inductive Req
  | query (q : Query)
  | command (c : Command)
  | rpc (r : Rpc)

@[reducible] def Req.Ans : Req → Type
  | query q => q.Ans
  | command c => c.Ans
  | rpc r => r.Ans

abbrev platform : Interface := ⟨Op, Op.Out, Req, Req.Ans, Err⟩

/-! ## What they do -/

namespace State

def withMempool (s : State) (m : Mempool) : State :=
  { s with memory := { s.memory with mempool := m } }

@[simp] theorem withMempool_db (s : State) (m : Mempool) : (s.withMempool m).db = s.db := rfl
@[simp] theorem withMempool_history (s : State) (m : Mempool) :
    (s.withMempool m).history = s.history := rfl
@[simp] theorem withMempool_network (s : State) (m : Mempool) :
    (s.withMempool m).network = s.network := rfl
@[simp] theorem withMempool_mempool (s : State) (m : Mempool) :
    (s.withMempool m).memory.mempool = m := rfl
@[simp] theorem withMempool_started (s : State) (m : Mempool) :
    (s.withMempool m).memory.started = s.memory.started := rfl
@[simp] theorem withMempool_clock (s : State) (m : Mempool) :
    (s.withMempool m).clock = s.clock := rfl

end State

def runOp : (o : Op) → State → o.Out × State
  | .now, s => (s.clock, s)
  | .place bundle, s =>
    ((s.memory.mempool.place bundle).1, s.withMempool (s.memory.mempool.place bundle).2)
  | .takeExpired, s =>
    ((s.memory.mempool.takeExpired s.clock).1,
      s.withMempool (s.memory.mempool.takeExpired s.clock).2)
  | .purgeBundles bundleIds, s =>
    ((s.memory.mempool.purgeBundles bundleIds).1,
      s.withMempool (s.memory.mempool.purgeBundles bundleIds).2)
  | .removeFirstSlot, s =>
    (s.memory.mempool.removeFirstSlot.1, s.withMempool s.memory.mempool.removeFirstSlot.2)
  | .isProcessing, s => (s.memory.isProcessing, s)
  | .setProcessing b, s => ((), { s with memory := { s.memory with isProcessing := b } })
  | .isDisabled channelContractId, s => (s.memory.disabledChannels.contains channelContractId, s)
  | .emit scope payload, s => ((), { s with events := s.events ++ [⟨s.clock, scope, payload⟩] })
  | .note submission, s => ((), { s with history := s.history ++ [submission] })
  | .setStarted, s => ((), { s with memory := { s.memory with started := true } })

/-- What a trace shows of a command. -/
def Command.notes (db : Database) : Command → List Submission
  | .updateTransaction id .failed =>
    if (db.transactions.find id).isSome then [.markedFailed id] else []
  | _ => []

def serve : (q : Req) → State → Except Err q.Ans × State
  | .query q, s => (.ok (q.run s.db), s)
  | .command c, s =>
    ((c.run s.clock s.db).1,
      { s with db := (c.run s.clock s.db).2, history := s.history ++ c.notes s.db })
  | .rpc r, s => ((r.run s.network).1, { s with network := (r.run s.network).2 })

def host : Host platform State where
  runOp := runOp
  serve := serve
  pass n s := { s with clock := s.clock + n }

/-! ## What moves outside the process -/

inductive Drift
  | elapse (ms : Nat)
  | network (net : Network)
  | directory (dir : Directory)
  | disabledChannels (channels : List ContractId)
  | reorder (bundles : List OperationsBundle) (transactions : List Transaction)
      (links : List BundleTransaction)

/-- Time passes, the network and the rows of the other endpoints change, the
event watcher moves channels in and out of the withdraw-only gate, and a scan
may return the rows in another order. -/
def drift : Drift → State → State
  | .elapse ms, s => { s with clock := s.clock + ms }
  | .network net, s => { s with network := { net with accepted := s.network.accepted } }
  | .directory dir, s => { s with db := { s.db with directory := dir } }
  | .disabledChannels channels, s =>
    { s with memory := { s.memory with disabledChannels := channels } }
  | .reorder bundles transactions links, s =>
    { s with db := { s.db with
        operationsBundles := s.db.operationsBundles.reorder bundles
        transactions := s.db.transactions.reorder transactions
        bundlesTransactions := s.db.bundlesTransactions.reorder links } }

/-- The process is gone; the database, the network and the trace stay. -/
def reboot (cfg : Config) (s : State) : State := { s with memory := .boot cfg }

end ProviderPlatform
