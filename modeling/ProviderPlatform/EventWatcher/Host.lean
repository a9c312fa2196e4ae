import ProviderPlatform.Async.Trace
import ProviderPlatform.EventWatcher.Registry
import ProviderPlatform.Persistence.Repository
import Mathlib.Data.List.Dedup

/-! # The host of the event watcher

The state the watcher's tasks run on: its cursors, the registry, the rows of
the memberships, the RPC server and the councils, and which events were
dispatched. What the RPC and the councils answer is a function of the time. -/
namespace ProviderPlatform
open Async Store

/-! ## The watcher -/

/-- The fields of `EventWatcher`. -/
structure EventWatcher where
  contractIds : List ContractId
  startLedgerBlock : Option Ledger
  liveLedger : Option Ledger
  backfillLedger : Option Ledger
  backfillCeiling : Option Ledger
  lastPollOkAt : Option Time
  lastPollError : Option (Time × String)
  deriving DecidableEq

def EventWatcher.new (contractIds : List ContractId) (startLedgerBlock : Option Ledger) :
    EventWatcher :=
  ⟨contractIds.dedup, startLedgerBlock, none, none, none, none, none⟩

theorem EventWatcher.new_contractIds {contractIds : List ContractId} (h : contractIds.Nodup)
    (startLedgerBlock : Option Ledger) :
    (EventWatcher.new contractIds startLedgerBlock).contractIds = contractIds :=
  List.Nodup.dedup h

/-! ## Memberships -/

inductive CouncilMembershipStatus
  | pending
  | active
  | rejected
  deriving DecidableEq

structure CouncilMembership extends BaseColumns where
  id : String
  councilUrl : String
  councilName : Option String
  channelAuthId : ContractId
  status : CouncilMembershipStatus
  configJson : Option String
  ppPublicKey : PublicKey
  deriving DecidableEq

structure CouncilMembershipPatch where
  status : CouncilMembershipStatus
  configJson : Option (Option String) := none
  councilName : Option (Option String) := none
  deriving DecidableEq

/-- Write the columns a patch mentions. -/
def CouncilMembership.set (now : Time) (data : CouncilMembershipPatch) (row : CouncilMembership) :
    CouncilMembership :=
  { row with
    status := data.status
    configJson := data.configJson.getD row.configJson
    councilName := data.councilName.getD row.councilName
    updatedAt := now }

@[simp] theorem CouncilMembership.set_id (now : Time) (data : CouncilMembershipPatch)
    (row : CouncilMembership) : (row.set now data).id = row.id := rfl
@[simp] theorem CouncilMembership.set_status (now : Time) (data : CouncilMembershipPatch)
    (row : CouncilMembership) : (row.set now data).status = data.status := rfl

/-- The public state of a council; its serialization is what a membership
stores. -/
structure CouncilConfigData where
  json : String
  councilName : Option String
  channels : List (Option ContractId × Option String)
  deriving DecidableEq

/-! ## The state -/

/-- What is announced to the subscribers of a PP. -/
inductive CouncilEvent
  | providerAdded (channelContractId : ContractId)
  | providerRemoved (channelContractId : ContractId)
  deriving DecidableEq

structure WatchState where
  clock : Time
  rpc : Time → RpcView
  watcher : EventWatcher
  registry : ChannelRegistry
  registeredProviders : List PublicKey
  councilMemberships : Table CouncilMembership.id
  paymentProviders : Table PaymentProvider.publicKey
  council : Time → String → ContractId → Option CouncilConfigData
  /-- The events handed to the handlers. -/
  dispatched : List ChannelAuthEvent
  events : List (EventScope × CouncilEvent)

namespace WatchState

def withWatcher (s : WatchState) (w : EventWatcher) : WatchState := { s with watcher := w }
def withRegistry (s : WatchState) (r : ChannelRegistry) : WatchState := { s with registry := r }

@[simp] theorem withWatcher_watcher (s : WatchState) (w : EventWatcher) :
    (s.withWatcher w).watcher = w := rfl
@[simp] theorem withRegistry_registry (s : WatchState) (r : ChannelRegistry) :
    (s.withRegistry r).registry = r := rfl

/-- The state of a process that just started, before any event. -/
def boot (rpc : Time → RpcView) (watcher : EventWatcher) : WatchState where
  clock := 0
  rpc := rpc
  watcher := watcher
  registry := .new []
  registeredProviders := []
  councilMemberships := .empty
  paymentProviders := .empty
  council _ _ _ := none
  dispatched := []
  events := []

/-- The RPC server at the present moment. -/
def rpcNow (s : WatchState) : RpcView := s.rpc s.clock

end WatchState

/-! ## The interface -/

inductive WatchOp
  | now
  | fields
  | setCursors (liveLedger backfillCeiling : Ledger) (backfillLedger : Option Ledger)
  | setLiveLedger (ledger : Option Ledger)
  | setBackfillLedger (ledger : Option Ledger)
  | pollOk
  | pollError (message : String)
  | dispatched (event : ChannelAuthEvent)
  | addContract (contractId : ContractId)
  | removeContract (contractId : ContractId)
  | isRegistered (publicKey : PublicKey)
  | addProvider (publicKey : PublicKey)
  | removeProvider (publicKey : PublicKey)
  | handleEvent (event : ChannelAuthEvent)
  | applyChannelState (channelContractId : ContractId) (enabled : Bool)
  | addChannel (contractId : ContractId)
  | emit (scope : EventScope) (event : CouncilEvent)

@[reducible] def WatchOp.Out : WatchOp → Type
  | now => Time
  | fields => EventWatcher
  | isRegistered _ => Bool
  | _ => Unit

inductive WatchReq
  | getLatestLedger
  | getHealth
  | getEvents (startLedger : Ledger) (filters : List EventFilter)
  | listAllPps
  | getActiveForPp (ppPublicKey : PublicKey)
  | getLastUpdatedForPp (ppPublicKey : PublicKey)
  | updateMembership (id : String) (data : CouncilMembershipPatch)
  | fetchCouncilConfig (councilUrl : String) (channelAuthId : ContractId)
  | resolveScopeForPp (ppPublicKey : PublicKey)

@[reducible] def WatchReq.Ans : WatchReq → Type
  | getLatestLedger => Ledger
  | getHealth => Ledger
  | getEvents _ _ => EventsPage
  | listAllPps => List PaymentProvider
  | getActiveForPp _ => Option CouncilMembership
  | getLastUpdatedForPp _ => Option CouncilMembership
  | updateMembership _ _ => List CouncilMembership
  | fetchCouncilConfig _ _ => Option CouncilConfigData
  | resolveScopeForPp _ => Option EventScope

abbrev watching : Interface := ⟨WatchOp, WatchOp.Out, WatchReq, WatchReq.Ans, WatchErr⟩

/-- An async function of the watcher. -/
abbrev WatchPromise (α : Type) := Task watching α

/-! ## What they do -/

def watchOp : (o : WatchOp) → WatchState → o.Out × WatchState
  | .now, s => (s.clock, s)
  | .fields, s => (s.watcher, s)
  | .setCursors liveLedger backfillCeiling backfillLedger, s =>
    ((), s.withWatcher { s.watcher with
      liveLedger := some liveLedger
      backfillCeiling := some backfillCeiling
      backfillLedger := backfillLedger })
  | .setLiveLedger ledger, s => ((), s.withWatcher { s.watcher with liveLedger := ledger })
  | .setBackfillLedger ledger, s => ((), s.withWatcher { s.watcher with backfillLedger := ledger })
  | .pollOk, s => ((), s.withWatcher { s.watcher with lastPollOkAt := some s.clock })
  | .pollError message, s =>
    ((), s.withWatcher { s.watcher with lastPollError := some (s.clock, message) })
  | .dispatched event, s => ((), { s with dispatched := s.dispatched ++ [event] })
  | .addContract contractId, s =>
    ((), s.withWatcher { s.watcher with
      contractIds := if contractId ∈ s.watcher.contractIds then s.watcher.contractIds
        else s.watcher.contractIds ++ [contractId] })
  | .removeContract contractId, s =>
    ((), s.withWatcher { s.watcher with contractIds := s.watcher.contractIds.erase contractId })
  | .isRegistered publicKey, s => (decide (publicKey ∈ s.registeredProviders), s)
  | .addProvider publicKey, s =>
    ((), { s with registeredProviders := s.registeredProviders.insert publicKey })
  | .removeProvider publicKey, s =>
    ((), { s with registeredProviders := s.registeredProviders.erase publicKey })
  | .handleEvent event, s => ((), s.withRegistry (s.registry.handleEvent event))
  | .applyChannelState channelContractId enabled, s =>
    ((), s.withRegistry (s.registry.applyChannelState channelContractId enabled 0))
  | .addChannel contractId, s => ((), s.withRegistry (s.registry.addChannel contractId))
  | .emit scope event, s => ((), { s with events := s.events ++ [(scope, event)] })

/-- The first of the rows that was updated last. -/
def lastUpdated : List CouncilMembership → Option CouncilMembership
  | [] => none
  | row :: rows => some (rows.foldl
      (fun last current => if last.updatedAt < current.updatedAt then current else last) row)

namespace WatchState

/-- The rows of a PP that are not soft deleted, as a scan returns them. -/
def membershipsOf (s : WatchState) (ppPublicKey : PublicKey) : List CouncilMembership :=
  s.councilMemberships.select fun r => r.ppPublicKey == ppPublicKey && r.deletedAt.isNone

def getActiveForPp (s : WatchState) (ppPublicKey : PublicKey) : Option CouncilMembership :=
  (s.membershipsOf ppPublicKey).find? (·.status == .active)

end WatchState

def watchServe : (q : WatchReq) → WatchState → Except WatchErr q.Ans × WatchState
  | .getLatestLedger, s => (.ok s.rpcNow.latestLedger, s)
  | .getHealth, s => (.ok s.rpcNow.oldestLedger, s)
  | .getEvents startLedger filters, s => (s.rpcNow.getEvents startLedger filters, s)
  | .listAllPps, s => (.ok s.paymentProviders.rows, s)
  | .getActiveForPp ppPublicKey, s => (.ok (s.getActiveForPp ppPublicKey), s)
  | .getLastUpdatedForPp ppPublicKey, s => (.ok (lastUpdated (s.membershipsOf ppPublicKey)), s)
  | .updateMembership id data, s =>
    (.ok ((s.councilMemberships.select (·.id == id)).map (·.set s.clock data)),
      { s with councilMemberships :=
          s.councilMemberships.update (·.id == id) (·.set s.clock data) fun _ => rfl })
  | .fetchCouncilConfig councilUrl channelAuthId, s =>
    (.ok (s.council s.clock councilUrl channelAuthId), s)
  | .resolveScopeForPp ppPublicKey, s =>
    (.ok ((s.paymentProviders.find ppPublicKey).map fun r => ⟨r.publicKey, r.label⟩), s)

def watchHost : Host watching WatchState where
  runOp := watchOp
  serve := watchServe
  pass n s := { s with clock := s.clock + n }

def watchRun (o : WatchOp) : WatchPromise o.Out := Task.op (I := watching) o
def watchCall (q : WatchReq) : WatchPromise q.Ans := Task.call (I := watching) q

end ProviderPlatform
