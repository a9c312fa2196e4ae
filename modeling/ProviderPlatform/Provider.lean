import ProviderPlatform.Bundle.AddBundle
import ProviderPlatform.Executor.Process
import ProviderPlatform.Verifier.Process

/-! # One provider process

The calls a process makes, and the machine that interleaves them. A process
boots by hydrating its mempool; the executor, the verifier, the TTL sweep and
the HTTP server start only after that. -/
namespace ProviderPlatform
open Async Store

/-- A call of the process: the boot, a request, a tick of one of the loops,
and the mempool and repository methods called on their own. -/
inductive Call
  | launch
  | addOperationsBundle (input : BundleRequest)
  | executeNext
  | verifyTransactions
  | expireBundles
  | addBundle (bundle : SlotBundle)
  | reAddBundles (bundles : List SlotBundle)
  | purgeBundles (bundleIds : List BundleId)
  | removeFirstSlot
  | expireByIds (bundleIds : List BundleId)
  deriving DecidableEq

/-- What the HTTP server and the interval timers call. -/
def Call.isService : Call → Bool
  | .addOperationsBundle _ | .executeNext | .verifyTransactions | .expireBundles => true
  | _ => false

/-- The task of a call. `fuel` bounds the batches of the startup expiry. -/
def Call.program (cfg : Config) (fuel : Nat) : Call → Promise Unit
  | .launch => do
    Mempool.initializeMempool cfg fuel
    run .setStarted
  | .addOperationsBundle input => do
    let _ ← ProviderPlatform.addOperationsBundle cfg input
    pure ()
  | .executeNext => ProviderPlatform.executeNext cfg
  | .verifyTransactions => ProviderPlatform.verifyTransactions cfg
  | .expireBundles => Mempool.expireBundles
  | .addBundle bundle => Mempool.addBundle cfg bundle
  | .reAddBundles bundles => Mempool.reAddBundles cfg bundles
  | .purgeBundles bundleIds => do
    let _ ← run (.purgeBundles bundleIds)
    pure ()
  | .removeFirstSlot => do
    let _ ← run .removeFirstSlot
    pure ()
  | .expireByIds bundleIds => do
    let _ ← command (.expireByIds bundleIds BundleStatus.active)
    pure ()

/-- A process that may make the calls `allowed` at any time. -/
def process (cfg : Config) (fuel : Nat) (allowed : State → Call → Bool) :
    Machine platform State Call Drift where
  host := host
  program := Call.program cfg fuel
  startable := allowed
  boot := .launch
  drift := drift
  reboot := reboot cfg

/-- The provider: its services run once the mempool system has started. -/
abbrev provider (cfg : Config) (fuel : Nat) : Machine platform State Call Drift :=
  process cfg fuel fun s l => s.memory.started && l.isService

/-- The state a provider is first launched on: no bundle was ever submitted. -/
structure Fresh (cfg : Config) (s : State) : Prop where
  memory : s.memory = .boot cfg
  bundles : s.db.operationsBundles.rows = []
  transactions : s.db.transactions.rows = []
  links : s.db.bundlesTransactions.rows = []
  utxos : s.db.utxos.rows = []
  history : s.history = []

abbrev ProviderPool := Pool platform State Call
abbrev ProviderChoice := Choice platform Call Drift

/-! ## A small installation

One PP, one approved submitter, and a parser of five operations: concrete
inputs for runs that are replayed. -/
namespace Small

def fromMLXDR (mlxdr : MLXDR) : Option MoonlightOperation :=
  [("deposit 10", .deposit ⟨"GDEP", 10⟩), ("create a 4", .create ⟨"a", 4⟩),
    ("create b 4", .create ⟨"b", 4⟩), ("spend a", .spend ⟨"a", some ⟨1000⟩⟩),
    ("withdraw 3", .withdraw ⟨"GWIT", 3⟩)].lookup mlxdr

def config : Config where
  slotCapacity := 10
  weightConfig := ⟨2, 1⟩
  startupMaxBundleAgeMs := 0
  maxRetryAttempts := 3
  bundleMaxOperations := 20
  transactionExpirationOffset := 1
  networkFee := 0
  baseReserveStroops := 0
  fromMLXDR := fromMLXDR
  sha256Hash := String.intercalate ","
  acceptsOperation _ _ := true
  hasNetworkContext _ := false

def network : Network where
  context channel pp := .ok ⟨pp, channel⟩
  latestLedger := 0
  balance _ _ := 0
  transaction _ := some .success
  freeUtxos _ := ["opex"]
  accountState _ := none
  simulate _ := .ok 0
  invoke _ := .ok "tx"
  accepted := []

def database : Database where
  operationsBundles := .empty
  transactions := .empty
  bundlesTransactions := .empty
  utxos := .empty
  approvals := ⟨[⟨"GPP", "GSUB", .approved, 0, none⟩], by decide⟩
  directory := ⟨⟨[⟨"session", "GSUB", none⟩], by decide⟩, ⟨[⟨"GSUB", "entity", none⟩], by decide⟩,
    ⟨[⟨"entity", some "Acme", some [], none⟩], by decide⟩, .empty⟩

def state : State := ⟨0, database, network, .boot config, [], []⟩

/-- Every UTXO holds 5 on-chain. -/
def funded : State := { state with network := { network with balance := fun _ _ => 5 } }

def request (operationsMLXDR : List MLXDR) : BundleRequest :=
  ⟨operationsMLXDR, "channel", "session", "GPP"⟩

/-- A slot bundle of as many deposits as it weighs. -/
def slotBundle (bundleId : BundleId) (weight : Nat) (priorityScore : Rat)
    (ppPublicKey : PublicKey) : SlotBundle where
  bundleId := bundleId
  channelContractId := "channel"
  operationsMLXDR := List.replicate weight "deposit 10"
  operations := classifyOperations (List.replicate weight (.deposit ⟨"GDEP", 10⟩))
  fee := 10 * weight
  weight := weight
  ttl := 1000
  createdAt := 0
  priorityScore := priorityScore
  retryCount := 0
  lastFailureReason := none
  ppPublicKey := ppPublicKey
  entityName := none
  jurisdictions := []
  amount := none

theorem fresh : Fresh config state := ⟨rfl, rfl, rfl, rfl, rfl, rfl⟩

/-- Let task `i` run up to its next await and serve that, `n` times over. -/
def serves (i n : Nat) : List ProviderChoice :=
  (List.replicate n [.resume i, .serve i]).flatten

/-- Slot bundles added one after the other, each up to its first await. -/
def adds (bundles : List SlotBundle) : List ProviderChoice :=
  bundles.zipIdx.flatMap fun p => [.start (.addBundle p.1), .resume p.2]

/-- The boot on an empty database, and the admission of a deposit. -/
def admitted : List ProviderChoice :=
  serves 0 1 ++ [.resume 0, .start (.addOperationsBundle (request ["deposit 10"]))] ++
    serves 1 10 ++ [.resume 1]

/-- The tick that submits it and records the transaction. -/
def submitted : List ProviderChoice := admitted ++ [.start .executeNext] ++ serves 2 16 ++ [.resume 2]

end Small

end ProviderPlatform
