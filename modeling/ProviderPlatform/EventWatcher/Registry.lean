import ProviderPlatform.EventWatcher.Types
import ProviderPlatform.Runtime.Host
import ProviderPlatform.Store.Table

/-! # The channel registry

What the process knows of its councils and of their asset channels, one record
for each contract. The handlers write what an event says; none of them looks at
the ledger of the record it overwrites. -/
namespace ProviderPlatform
open Store

inductive ChannelState
  | active
  | pending
  | inactive
  | disabled
  deriving DecidableEq

structure ChannelRecord where
  contractId : ContractId
  state : ChannelState
  registeredAtLedger : Ledger
  removedAtLedger : Option Ledger := none
  deriving DecidableEq

structure ChannelRegistry where
  channels : Table ChannelRecord.contractId
  configuredChannels : List ContractId

namespace ChannelRegistry

def new (configuredChannelIds : List ContractId) : ChannelRegistry :=
  ⟨.empty, configuredChannelIds.dedup⟩

def get (registry : ChannelRegistry) (contractId : ContractId) : Option ChannelRecord :=
  registry.channels.find contractId

/-- `channels.set`. -/
def set (registry : ChannelRegistry) (record : ChannelRecord) : ChannelRegistry :=
  { registry with channels := registry.channels.upsert record }

def configure (registry : ChannelRegistry) (contractId : ContractId) : ChannelRegistry :=
  { registry with configuredChannels := registry.configuredChannels.insert contractId }

/-- Track a contract; it starts active unless it has a record. -/
def addChannel (registry : ChannelRegistry) (contractId : ContractId) : ChannelRegistry :=
  let configured := registry.configure contractId
  match registry.get contractId with
  | some _ => configured
  | none => configured.set ⟨contractId, .active, 0, none⟩

/-- Apply the council's decision about an asset channel. -/
def applyChannelState (registry : ChannelRegistry) (channelContractId : ContractId)
    (enabled : Bool) (ledger : Ledger) : ChannelRegistry :=
  let nextState : ChannelState := if enabled then .active else .disabled
  let existing := registry.get channelContractId
  if existing.map (·.state) = some nextState then registry
  else registry.set {
    contractId := channelContractId
    state := nextState
    registeredAtLedger := (existing.map (·.registeredAtLedger)).getD ledger
    removedAtLedger := existing.bind (·.removedAtLedger) }

def onProviderAdded (registry : ChannelRegistry) (event : ChannelAuthEvent) : ChannelRegistry :=
  registry.set {
    contractId := event.contractId
    state := if event.contractId ∈ registry.configuredChannels then .active else .pending
    registeredAtLedger := event.ledger }

def onProviderRemoved (registry : ChannelRegistry) (event : ChannelAuthEvent) : ChannelRegistry :=
  match registry.get event.contractId with
  | some existing =>
    registry.set { existing with state := .inactive, removedAtLedger := some event.ledger }
  | none => registry.set ⟨event.contractId, .inactive, 0, some event.ledger⟩

/-- Handle an event and update the registry. -/
def handleEvent (registry : ChannelRegistry) (event : ChannelAuthEvent) : ChannelRegistry :=
  match event.type with
  | .providerAdded => registry.onProviderAdded event
  | .providerRemoved => registry.onProviderRemoved event
  | .channelStateChanged =>
    registry.applyChannelState (event.channel.getD event.address) (event.enabled.getD true)
      event.ledger
  | .contractInitialized | .inherited _ => registry

/-- Unknown channels are not disabled. -/
def isDisabled (registry : ChannelRegistry) (channelContractId : ContractId) : Bool :=
  (registry.get channelContractId).map (·.state) == some .disabled

/-- The operator serves the channel. -/
def activateChannel (registry : ChannelRegistry) (contractId : ContractId) : ChannelRegistry :=
  let configured := registry.configure contractId
  match registry.get contractId with
  | some channel =>
    if channel.state = .pending then configured.set { channel with state := .active }
    else configured
  | none => configured

/-- The operator no longer serves the channel. -/
def deactivateChannel (registry : ChannelRegistry) (contractId : ContractId) : ChannelRegistry :=
  let configured :=
    { registry with configuredChannels := registry.configuredChannels.erase contractId }
  match registry.get contractId with
  | some channel =>
    if channel.state = .active then configured.set { channel with state := .pending }
    else configured
  | none => configured

/-- The state of a contract, if it has a record. -/
def stateOf (registry : ChannelRegistry) (contractId : ContractId) : Option ChannelState :=
  (registry.get contractId).map (·.state)

/-! ## What the handlers do to the states -/

theorem stateOf_set (registry : ChannelRegistry) (record : ChannelRecord)
    (contractId : ContractId) :
    (registry.set record).stateOf contractId =
      if record.contractId = contractId then some record.state else registry.stateOf contractId := by
  simp only [stateOf, get, set, Table.find_upsert]
  split
  · rfl
  · rfl

theorem stateOf_applyChannelState (registry : ChannelRegistry) (channelContractId : ContractId)
    (enabled : Bool) (ledger : Ledger) (contractId : ContractId) :
    (registry.applyChannelState channelContractId enabled ledger).stateOf contractId =
      if channelContractId = contractId then some (if enabled then .active else .disabled)
      else registry.stateOf contractId := by
  by_cases hsame : (registry.get channelContractId).map (·.state) =
      some (if enabled then .active else .disabled)
  · have hself : registry.applyChannelState channelContractId enabled ledger = registry := by
      simp only [applyChannelState]
      rw [if_pos hsame]
    rw [hself]
    by_cases hid : channelContractId = contractId
    · rw [if_pos hid, ← hid]
      exact hsame
    · rw [if_neg hid]
  · simp only [applyChannelState]
    rw [if_neg hsame, stateOf_set]

theorem stateOf_onProviderAdded (registry : ChannelRegistry) (event : ChannelAuthEvent)
    (contractId : ContractId) :
    (registry.onProviderAdded event).stateOf contractId =
      if event.contractId = contractId then
        some (if event.contractId ∈ registry.configuredChannels then .active else .pending)
      else registry.stateOf contractId := by
  rw [onProviderAdded, stateOf_set]

theorem stateOf_onProviderRemoved (registry : ChannelRegistry) (event : ChannelAuthEvent)
    (contractId : ContractId) :
    (registry.onProviderRemoved event).stateOf contractId =
      if event.contractId = contractId then some .inactive else registry.stateOf contractId := by
  rw [onProviderRemoved]
  cases hget : registry.get event.contractId with
  | none => rw [stateOf_set]
  | some existing =>
    have hid : existing.contractId = event.contractId := Table.find_key hget
    rw [stateOf_set, hid]

/-! ## What the admission is told -/

/-- The channels that the admission takes withdraws for only. -/
def disabledChannels (registry : ChannelRegistry) : List ContractId :=
  (registry.channels.rows.filter (·.state == .disabled)).map (·.contractId)

theorem contains_disabledChannels (registry : ChannelRegistry) (channelContractId : ContractId) :
    registry.disabledChannels.contains channelContractId = registry.isDisabled channelContractId := by
  rw [Bool.eq_iff_iff, List.contains_iff_mem, isDisabled, beq_iff_eq, get, disabledChannels]
  constructor
  · intro hmem
    obtain ⟨record, hrecord, rfl⟩ := List.mem_map.mp hmem
    obtain ⟨hrecord, hstate⟩ := List.mem_filter.mp hrecord
    rw [Table.find_of_mem hrecord, Option.map_some, eq_of_beq hstate]
  · intro hdisabled
    obtain ⟨record, hfind, hstate⟩ := Option.map_eq_some_iff.mp hdisabled
    obtain rfl := Table.find_key hfind
    exact List.mem_map_of_mem (List.mem_filter.mpr ⟨Table.find_mem hfind, beq_iff_eq.mpr hstate⟩)

/-- The admission is answered what the registry has. -/
theorem runOp_isDisabled (registry : ChannelRegistry) (s : State) (channelContractId : ContractId) :
    (runOp (.isDisabled channelContractId)
      (drift (.disabledChannels registry.disabledChannels) s)).1 =
        registry.isDisabled channelContractId :=
  registry.contains_disabledChannels channelContractId

/-- And that is what the council last decided. -/
theorem isDisabled_applyChannelState (registry : ChannelRegistry) (channelContractId : ContractId)
    (enabled : Bool) (ledger : Ledger) (contractId : ContractId) :
    (registry.applyChannelState channelContractId enabled ledger).isDisabled contractId =
      if channelContractId = contractId then !enabled else registry.isDisabled contractId := by
  have hstate := registry.stateOf_applyChannelState channelContractId enabled ledger contractId
  rw [stateOf] at hstate
  rw [isDisabled, hstate]
  split
  · cases enabled with
    | _ => rfl
  · rfl

/-! ## What the operator's calls do -/

theorem stateOf_addChannel (registry : ChannelRegistry) (contractId other : ContractId) :
    (registry.addChannel contractId).stateOf other =
      if contractId = other then some ((registry.stateOf contractId).getD .active)
      else registry.stateOf other := by
  rw [addChannel]
  cases hget : registry.get contractId with
  | none =>
    have hnone : registry.stateOf contractId = none := by rw [stateOf, hget]; rfl
    rw [stateOf_set, hnone]
    rfl
  | some channel =>
    have hsome : registry.stateOf contractId = some channel.state := by rw [stateOf, hget]; rfl
    by_cases hid : contractId = other
    · rw [if_pos hid, hsome, ← hid]
      exact hsome
    · rw [if_neg hid]
      rfl

theorem stateOf_activateChannel (registry : ChannelRegistry) (contractId other : ContractId) :
    (registry.activateChannel contractId).stateOf other =
      if contractId = other ∧ registry.stateOf contractId = some .pending then some .active
      else registry.stateOf other := by
  rw [activateChannel]
  cases hget : registry.get contractId with
  | none =>
    have hnone : registry.stateOf contractId = none := by rw [stateOf, hget]; rfl
    simp only [hnone, reduceCtorEq, and_false, if_false]
    rfl
  | some channel =>
    have hid : channel.contractId = contractId := Table.find_key hget
    have hsome : registry.stateOf contractId = some channel.state := by rw [stateOf, hget]; rfl
    by_cases hpending : channel.state = .pending
    · simp only [hpending, if_true, stateOf_set, hid, hsome, and_true]
      rfl
    · simp only [hpending, if_false, hsome, Option.some.injEq, and_false]
      rfl

theorem stateOf_deactivateChannel (registry : ChannelRegistry) (contractId other : ContractId) :
    (registry.deactivateChannel contractId).stateOf other =
      if contractId = other ∧ registry.stateOf contractId = some .active then some .pending
      else registry.stateOf other := by
  rw [deactivateChannel]
  cases hget : registry.get contractId with
  | none =>
    have hnone : registry.stateOf contractId = none := by rw [stateOf, hget]; rfl
    simp only [hnone, reduceCtorEq, and_false, if_false]
    rfl
  | some channel =>
    have hid : channel.contractId = contractId := Table.find_key hget
    have hsome : registry.stateOf contractId = some channel.state := by rw [stateOf, hget]; rfl
    by_cases hactive : channel.state = .active
    · simp only [hactive, if_true, stateOf_set, hid, hsome, and_true]
      rfl
    · simp only [hactive, if_false, hsome, Option.some.injEq, and_false]
      rfl

theorem configuredChannels_addChannel (registry : ChannelRegistry) (contractId : ContractId) :
    (registry.addChannel contractId).configuredChannels =
      registry.configuredChannels.insert contractId := by
  rw [addChannel]
  cases registry.get contractId with
  | none => rfl
  | some channel => rfl

theorem configuredChannels_activateChannel (registry : ChannelRegistry)
    (contractId : ContractId) :
    (registry.activateChannel contractId).configuredChannels =
      registry.configuredChannels.insert contractId := by
  rw [activateChannel]
  cases registry.get contractId with
  | none => rfl
  | some channel =>
    dsimp only
    split
    · rfl
    · rfl

theorem configuredChannels_deactivateChannel (registry : ChannelRegistry)
    (contractId : ContractId) :
    (registry.deactivateChannel contractId).configuredChannels =
      registry.configuredChannels.erase contractId := by
  rw [deactivateChannel]
  cases registry.get contractId with
  | none => rfl
  | some channel =>
    dsimp only
    split
    · rfl
    · rfl

/-- An event leaves what the operator serves as it is. -/
theorem configuredChannels_handleEvent (registry : ChannelRegistry) (event : ChannelAuthEvent) :
    (registry.handleEvent event).configuredChannels = registry.configuredChannels := by
  rw [handleEvent]
  cases event.type with
  | providerAdded => rfl
  | providerRemoved =>
    dsimp only [onProviderRemoved]
    cases registry.get event.contractId with
    | none => rfl
    | some existing => rfl
  | channelStateChanged =>
    by_cases hsame : (registry.get (event.channel.getD event.address)).map (·.state) =
        some (if event.enabled.getD true then .active else .disabled)
    · simp only [applyChannelState, hsame, if_true]
    · simp only [applyChannelState, hsame, if_false]
      rfl
  | contractInitialized => rfl
  | inherited => rfl

end ChannelRegistry
end ProviderPlatform
