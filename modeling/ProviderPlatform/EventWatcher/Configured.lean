import ProviderPlatform.EventWatcher.Registry
import Mathlib.Data.List.Dedup
import Mathlib.Data.List.Induction

/-! # Configured and pending

The registry keeps the contracts the operator serves apart from the records. A
record is pending while its contract is registered and not served, and a call
that begins to serve one lifts it: activating does, adding does not where the
record is there already. So the two agree in a run exactly as long as no
contract is added whose record waits. -/
namespace ProviderPlatform

/-! ## The calls -/

inductive RegistryCall
  | addChannel (contractId : ContractId)
  | activateChannel (contractId : ContractId)
  | deactivateChannel (contractId : ContractId)
  | handleEvent (event : ChannelAuthEvent)

namespace RegistryCall

def apply (registry : ChannelRegistry) : RegistryCall → ChannelRegistry
  | .addChannel contractId => registry.addChannel contractId
  | .activateChannel contractId => registry.activateChannel contractId
  | .deactivateChannel contractId => registry.deactivateChannel contractId
  | .handleEvent event => registry.handleEvent event

/-- The event of a call, if it is a join or a leave of the council. -/
def providerEvent (contractId : ContractId) : RegistryCall → Option ChannelAuthEvent
  | .handleEvent event =>
    if event.contractId = contractId ∧
        (event.type = .providerAdded ∨ event.type = .providerRemoved) then some event
    else none
  | _ => none

/-- The call speaks of the contract as of an asset channel. -/
def isAsset (contractId : ContractId) : RegistryCall → Bool
  | .handleEvent event =>
    decide (event.type = .channelStateChanged ∧ event.channel.getD event.address = contractId)
  | _ => false

end RegistryCall

/-- The registry after some calls. -/
def ChannelRegistry.run (configuredChannelIds : List ContractId) (calls : List RegistryCall) :
    ChannelRegistry :=
  calls.foldl RegistryCall.apply (.new configuredChannelIds)

/-- A contract that no call spoke of as of an asset channel. -/
def IsCouncil (calls : List RegistryCall) (contractId : ContractId) : Prop :=
  ∀ call ∈ calls, call.isAsset contractId = false

/-- The latest provider event of the council is a join. -/
def LatestAdded (calls : List RegistryCall) (contractId : ContractId) : Prop :=
  ∃ event, (calls.filterMap (·.providerEvent contractId)).getLast? = some event ∧
    event.type = .providerAdded

/-- A council record is pending only if its contract is not configured, and
active if it is and the council was last joined. -/
structure ConfiguredAgrees (registry : ChannelRegistry) (calls : List RegistryCall) : Prop where
  pending : ∀ contractId, IsCouncil calls contractId →
    registry.stateOf contractId = some .pending → contractId ∉ registry.configuredChannels
  active : ∀ contractId, IsCouncil calls contractId → contractId ∈ registry.configuredChannels →
    LatestAdded calls contractId → registry.stateOf contractId = some .active

/-! ## One contract

What holds of a council whichever calls came, as long as it is not added while
its record waits. -/

structure ConfiguredAt (registry : ChannelRegistry) (joined : Prop) (contractId : ContractId) :
    Prop where
  nodup : registry.configuredChannels.Nodup
  waits : registry.stateOf contractId = some .pending → contractId ∉ registry.configuredChannels
  added : joined → registry.stateOf contractId =
    some (if contractId ∈ registry.configuredChannels then .active else .pending)

section Calls
variable {configuredChannelIds : List ContractId} {registry : ChannelRegistry}
  {calls : List RegistryCall} {call : RegistryCall} {contractId other : ContractId}
  {event : ChannelAuthEvent} {joined : Prop}

theorem ChannelRegistry.run_snoc (configuredChannelIds : List ContractId)
    (calls : List RegistryCall) (call : RegistryCall) :
    ChannelRegistry.run configuredChannelIds (calls ++ [call]) =
      call.apply (.run configuredChannelIds calls) := by
  simp [run]

theorem IsCouncil.before (h : IsCouncil (calls ++ [call]) contractId) :
    IsCouncil calls contractId ∧ call.isAsset contractId = false :=
  ⟨fun c hc => h c (List.mem_append_left _ hc), h call (by simp)⟩

/-- A call other than a provider event of the council leaves its latest one. -/
theorem latestAdded_snoc_none (h : call.providerEvent contractId = none) :
    LatestAdded (calls ++ [call]) contractId ↔ LatestAdded calls contractId := by
  simp [LatestAdded, h]

theorem latestAdded_snoc_some (h : call.providerEvent contractId = some event) :
    LatestAdded (calls ++ [call]) contractId ↔ event.type = .providerAdded := by
  simp [LatestAdded, h]

/-- A new registry has no records. -/
theorem ConfiguredAt.new (contractId : ContractId) :
    ConfiguredAt (.new configuredChannelIds) (LatestAdded [] contractId) contractId where
  nodup := List.nodup_dedup _
  waits h := by cases h
  added h := by
    obtain ⟨event, hlast, -⟩ := h
    cases hlast

/-- Nothing changes for a contract that keeps its record and its place. -/
theorem ConfiguredAt.congr {registry' : ChannelRegistry} (h : ConfiguredAt registry joined contractId)
    (hnodup : registry'.configuredChannels.Nodup)
    (hstate : registry'.stateOf contractId = registry.stateOf contractId)
    (hconfigured : contractId ∈ registry'.configuredChannels ↔
      contractId ∈ registry.configuredChannels) :
    ConfiguredAt registry' joined contractId where
  nodup := hnodup
  waits hpending := by
    rw [hstate] at hpending
    exact fun hmem => h.waits hpending (hconfigured.mp hmem)
  added hjoined := by
    rw [hstate, h.added hjoined]
    simp only [hconfigured]

theorem ConfiguredAt.addChannel (h : ConfiguredAt registry joined contractId)
    (hready : other = contractId → registry.stateOf contractId ≠ some .pending) :
    ConfiguredAt (registry.addChannel other) joined contractId := by
  have hnodup : (registry.addChannel other).configuredChannels.Nodup := by
    rw [ChannelRegistry.configuredChannels_addChannel]
    exact h.nodup.insert
  by_cases hid : other = contractId
  · subst hid
    have hstate := ChannelRegistry.stateOf_addChannel registry other other
    rw [if_pos rfl] at hstate
    have hmem : other ∈ (registry.addChannel other).configuredChannels := by
      rw [ChannelRegistry.configuredChannels_addChannel]
      exact List.mem_insert_self
    refine ⟨hnodup, fun hpending => ?_, fun hjoined => ?_⟩
    · rw [hstate] at hpending
      cases hold : registry.stateOf other with
      | none => simp [hold] at hpending
      | some state =>
        rw [hold] at hpending
        exact absurd (hold.trans hpending) (hready rfl)
    · have hold := h.added hjoined
      have hready := hready rfl
      rw [if_pos hmem, hstate, hold]
      split
      · rfl
      · rename_i hout
        rw [if_neg hout] at hold
        exact absurd hold hready
  · refine h.congr hnodup ?_ ?_
    · rw [ChannelRegistry.stateOf_addChannel, if_neg hid]
    · rw [ChannelRegistry.configuredChannels_addChannel, List.mem_insert_iff]
      exact or_iff_right (Ne.symm hid)

theorem ConfiguredAt.activateChannel (h : ConfiguredAt registry joined contractId) :
    ConfiguredAt (registry.activateChannel other) joined contractId := by
  have hnodup : (registry.activateChannel other).configuredChannels.Nodup := by
    rw [ChannelRegistry.configuredChannels_activateChannel]
    exact h.nodup.insert
  by_cases hid : other = contractId
  · subst hid
    have hstate := ChannelRegistry.stateOf_activateChannel registry other other
    have hmem : other ∈ (registry.activateChannel other).configuredChannels := by
      rw [ChannelRegistry.configuredChannels_activateChannel]
      exact List.mem_insert_self
    by_cases hpending : registry.stateOf other = some .pending
    · rw [if_pos ⟨rfl, hpending⟩] at hstate
      refine ⟨hnodup, fun hwaits => ?_, fun _ => ?_⟩
      · rw [hstate] at hwaits
        cases hwaits
      · rw [if_pos hmem, hstate]
    · rw [if_neg fun hboth => hpending hboth.2] at hstate
      refine ⟨hnodup, fun hwaits => absurd (hstate.symm.trans hwaits) hpending, fun hjoined => ?_⟩
      have hold := h.added hjoined
      rw [if_pos hmem, hstate, hold]
      split
      · rfl
      · rename_i hout
        rw [if_neg hout] at hold
        exact absurd hold hpending
  · refine h.congr hnodup ?_ ?_
    · rw [ChannelRegistry.stateOf_activateChannel, if_neg fun hboth => hid hboth.1]
    · rw [ChannelRegistry.configuredChannels_activateChannel, List.mem_insert_iff]
      exact or_iff_right (Ne.symm hid)

theorem ConfiguredAt.deactivateChannel (h : ConfiguredAt registry joined contractId) :
    ConfiguredAt (registry.deactivateChannel other) joined contractId := by
  have hnodup : (registry.deactivateChannel other).configuredChannels.Nodup := by
    rw [ChannelRegistry.configuredChannels_deactivateChannel]
    exact h.nodup.erase other
  by_cases hid : other = contractId
  · subst hid
    have hstate := ChannelRegistry.stateOf_deactivateChannel registry other other
    have hout : other ∉ (registry.deactivateChannel other).configuredChannels := by
      rw [ChannelRegistry.configuredChannels_deactivateChannel]
      exact h.nodup.not_mem_erase
    refine ⟨hnodup, fun _ => hout, fun hjoined => ?_⟩
    rw [if_neg hout, hstate, h.added hjoined]
    -- served before or not, the record waits from now on
    by_cases hmem : other ∈ registry.configuredChannels
    · simp [hmem]
    · simp [hmem]
  · refine h.congr hnodup ?_ ?_
    · rw [ChannelRegistry.stateOf_deactivateChannel, if_neg fun hboth => hid hboth.1]
    · rw [ChannelRegistry.configuredChannels_deactivateChannel]
      exact List.mem_erase_of_ne (Ne.symm hid)

/-- A provider event of the council is the latest, and its record says so. -/
theorem ConfiguredAt.handleEvent (h : ConfiguredAt registry (LatestAdded calls contractId) contractId)
    (hcouncil : (RegistryCall.handleEvent event).isAsset contractId = false) :
    ConfiguredAt (registry.handleEvent event)
      (LatestAdded (calls ++ [.handleEvent event]) contractId) contractId := by
  have hconfigured := registry.configuredChannels_handleEvent event
  have hnodup : (registry.handleEvent event).configuredChannels.Nodup := by
    rw [hconfigured]
    exact h.nodup
  have hkeep (hnone : (RegistryCall.handleEvent event).providerEvent contractId = none)
      (hstate : (registry.handleEvent event).stateOf contractId = registry.stateOf contractId) :
      ConfiguredAt (registry.handleEvent event)
        (LatestAdded (calls ++ [.handleEvent event]) contractId) contractId := by
    rw [latestAdded_snoc_none hnone]
    exact h.congr hnodup hstate (by rw [hconfigured])
  cases htype : event.type with
  | providerAdded =>
    have hstate := registry.stateOf_onProviderAdded event contractId
    have hhandle : registry.handleEvent event = registry.onProviderAdded event := by
      rw [ChannelRegistry.handleEvent, htype]
    by_cases hid : event.contractId = contractId
    · have hsome : (RegistryCall.handleEvent event).providerEvent contractId = some event := by
        simp [RegistryCall.providerEvent, hid, htype]
      rw [latestAdded_snoc_some hsome]
      rw [← hhandle, if_pos hid, hid] at hstate
      refine ⟨hnodup, fun hpending hmem => ?_, fun _ => by rw [hstate, hconfigured]⟩
      rw [hconfigured] at hmem
      rw [hstate, if_pos hmem] at hpending
      cases hpending
    · refine hkeep (by simp [RegistryCall.providerEvent, hid]) ?_
      rw [hhandle, hstate, if_neg hid]
  | providerRemoved =>
    have hstate := registry.stateOf_onProviderRemoved event contractId
    have hhandle : registry.handleEvent event = registry.onProviderRemoved event := by
      rw [ChannelRegistry.handleEvent, htype]
    by_cases hid : event.contractId = contractId
    · have hsome : (RegistryCall.handleEvent event).providerEvent contractId = some event := by
        simp [RegistryCall.providerEvent, hid, htype]
      rw [latestAdded_snoc_some hsome]
      rw [← hhandle, if_pos hid] at hstate
      refine ⟨hnodup, fun hpending => ?_, fun hadded => ?_⟩
      · rw [hstate] at hpending
        cases hpending
      · rw [htype] at hadded
        cases hadded
    · refine hkeep (by simp [RegistryCall.providerEvent, hid]) ?_
      rw [hhandle, hstate, if_neg hid]
  | channelStateChanged =>
    have hne : event.channel.getD event.address ≠ contractId := by
      simpa [RegistryCall.isAsset, htype] using hcouncil
    refine hkeep (by simp [RegistryCall.providerEvent, htype]) ?_
    have hhandle : registry.handleEvent event = registry.applyChannelState
        (event.channel.getD event.address) (event.enabled.getD true) event.ledger := by
      rw [ChannelRegistry.handleEvent, htype]
    rw [hhandle, ChannelRegistry.stateOf_applyChannelState, if_neg hne]
  | contractInitialized =>
    refine hkeep (by simp [RegistryCall.providerEvent, htype]) ?_
    rw [ChannelRegistry.handleEvent, htype]
  | inherited property =>
    refine hkeep (by simp [RegistryCall.providerEvent, htype]) ?_
    rw [ChannelRegistry.handleEvent, htype]

/-- One call. -/
theorem ConfiguredAt.snoc
    (h : ConfiguredAt registry (LatestAdded calls contractId) contractId)
    (hcouncil : call.isAsset contractId = false)
    (hready : call = .addChannel contractId → registry.stateOf contractId ≠ some .pending) :
    ConfiguredAt (call.apply registry) (LatestAdded (calls ++ [call]) contractId) contractId := by
  cases call with
  | addChannel other =>
    rw [latestAdded_snoc_none rfl]
    exact h.addChannel fun hid => hready (by rw [hid])
  | activateChannel other =>
    rw [latestAdded_snoc_none rfl]
    exact h.activateChannel
  | deactivateChannel other =>
    rw [latestAdded_snoc_none rfl]
    exact h.deactivateChannel
  | handleEvent event => exact h.handleEvent hcouncil

/-- No call adds a council whose record waits. -/
def NoneAddedWaiting (configuredChannelIds : List ContractId) (calls : List RegistryCall) : Prop :=
  ∀ before contractId, before ++ [.addChannel contractId] <+: calls →
    IsCouncil before contractId →
    (ChannelRegistry.run configuredChannelIds before).stateOf contractId ≠ some .pending

/-- A run. -/
theorem ConfiguredAt.run (hready : NoneAddedWaiting configuredChannelIds calls)
    (hcouncil : IsCouncil calls contractId) :
    ConfiguredAt (.run configuredChannelIds calls) (LatestAdded calls contractId) contractId := by
  induction calls using List.reverseRecOn with
  | nil => exact .new contractId
  | append_singleton calls call ih =>
    obtain ⟨hbefore, hasset⟩ := hcouncil.before
    have hearlier : NoneAddedWaiting configuredChannelIds calls := fun before c hinit =>
      hready before c (hinit.trans (List.prefix_append calls [call]))
    rw [ChannelRegistry.run_snoc]
    refine (ih hearlier hbefore).snoc hasset fun hcall => ?_
    exact hready calls contractId (by rw [hcall]) hbefore

/-- **Configured and pending.** In every state of a run the records agree with
what the operator serves exactly if no council is added while its record waits. -/
theorem configured_agrees_iff (configuredChannelIds : List ContractId)
    (calls : List RegistryCall) :
    (∀ before, before <+: calls →
      ConfiguredAgrees (.run configuredChannelIds before) before) ↔
      NoneAddedWaiting configuredChannelIds calls := by
  constructor
  · intro hagrees before contractId hinit hcouncil hpending
    have hafter := hagrees _ hinit
    have hkept : IsCouncil (before ++ [.addChannel contractId]) contractId := by
      intro call hcall
      rcases List.mem_append.mp hcall with hcall | hcall
      · exact hcouncil call hcall
      · rw [List.mem_singleton.mp hcall]
        rfl
    rw [ChannelRegistry.run_snoc] at hafter
    refine hafter.pending contractId hkept ?_ ?_
    · rw [RegistryCall.apply, ChannelRegistry.stateOf_addChannel, if_pos rfl, hpending]
      rfl
    · rw [RegistryCall.apply, ChannelRegistry.configuredChannels_addChannel]
      exact List.mem_insert_self
  · intro hready before hinit
    have hearlier : NoneAddedWaiting configuredChannelIds before := fun b c hb =>
      hready b c (hb.trans hinit)
    refine ⟨fun c hc => (ConfiguredAt.run hearlier hc).waits, fun c hc hmem hjoined => ?_⟩
    rw [(ConfiguredAt.run hearlier hc).added hjoined, if_pos hmem]

end Calls

/-- The join of a council is seen before the operator serves it. -/
def earlyJoin : ChannelAuthEvent :=
  { type := .providerAdded, address := "provider", ledger := 7, contractId := "council" }

/-- Adding that council then leaves its record pending. -/
theorem added_after_join_stays_pending :
    ¬ ConfiguredAgrees (.run [] [.handleEvent earlyJoin, .addChannel "council"])
      [.handleEvent earlyJoin, .addChannel "council"] := by
  intro hagrees
  refine hagrees.pending "council" ?_ (by decide) (by decide)
  intro call hcall
  simp only [List.mem_cons, List.not_mem_nil, or_false] at hcall
  rcases hcall with rfl | rfl
  · decide
  · decide

end ProviderPlatform
