import ProviderPlatform.EventWatcher.Delivery
import ProviderPlatform.Store.Latest

/-! # Which event the registry shows

The live read dispatches the newest events first and the backfill the older
ones after them, and the registry overwrites what it has. It shows the newest
event of a channel or of a council as long as no event comes after a newer one
that says otherwise, and the channels a council reports are as its events say. -/
namespace ProviderPlatform
open Async Task Store

namespace ChannelAuthEvent

/-- The event decides about an asset channel. -/
def isStateOf (channelContractId : ContractId) (event : ChannelAuthEvent) : Bool :=
  event.type == .channelStateChanged && event.channel.getD event.address == channelContractId

/-- The event is about one of our providers in a council. -/
def isProviderOf (registered : List PublicKey) (council : ContractId) (event : ChannelAuthEvent) :
    Bool :=
  (event.type == .providerAdded || event.type == .providerRemoved) &&
    decide (event.address ∈ registered) && event.contractId == council

/-- What the event says of the channel. -/
def isEnabled (event : ChannelAuthEvent) : Bool := event.enabled.getD true

end ChannelAuthEvent

namespace WatchState

/-- The newest dispatched event about an asset channel. -/
def newestState (s : WatchState) (channelContractId : ContractId) : Option ChannelAuthEvent :=
  latest (·.ledger) (·.isStateOf channelContractId) s.dispatched

/-- The newest dispatched event about one of our providers in a council. -/
def newestProvider (s : WatchState) (council : ContractId) : Option ChannelAuthEvent :=
  latest (·.ledger) (·.isProviderOf s.registeredProviders council) s.dispatched

/-- The registry shows the newest dispatched events. -/
structure NewestWins (s : WatchState) : Prop where
  channels : ∀ channelContractId event, s.newestState channelContractId = some event →
    s.registry.stateOf channelContractId = some (if event.isEnabled then .active else .disabled)
  councils : ∀ council, s.registry.stateOf council = some .inactive ↔
    ∃ event, s.newestProvider council = some event ∧ event.type = .providerRemoved

/-! ## The condition -/

/-- The event says what the newest event of its channel or council says, or is
not older; and no contract is both a channel and a council. -/
def Admits (s : WatchState) (event : ChannelAuthEvent) : Prop :=
  (∀ channelContractId, event.isStateOf channelContractId = true →
    s.newestProvider channelContractId = none ∧ ∀ newest,
      s.newestState channelContractId = some newest →
        newest.ledger ≤ event.ledger ∨ newest.isEnabled = event.isEnabled) ∧
  ∀ council, event.isProviderOf s.registeredProviders council = true →
    s.newestState council = none ∧ ∀ newest, s.newestProvider council = some newest →
      newest.ledger ≤ event.ledger ∨ newest.type = event.type

/-- What a council reports of a channel is what the newest event says. -/
def AdmitsReport (s : WatchState) (channelContractId : ContractId) (enabled : Bool) : Prop :=
  s.newestProvider channelContractId = none ∧ ∀ newest,
    s.newestState channelContractId = some newest → newest.isEnabled = enabled

end WatchState

/-- No event comes after a newer one that says otherwise, and no council
reports otherwise. -/
def InOrder : Step watching WatchState → Prop
  | .ran s (.dispatched event) => s.Admits event
  | .ran s (.applyChannelState channelContractId enabled) =>
    s.AdmitsReport channelContractId enabled
  | _ => True

/-! ## What a dispatch preserves -/

namespace WatchState

/-- The event is dispatched. -/
def withDispatched (s : WatchState) (event : ChannelAuthEvent) : WatchState :=
  { s with dispatched := s.dispatched ++ [event] }

theorem decided_ne_inactive (enabled : Bool) :
    (if enabled then .active else .disabled : ChannelState) ≠ .inactive := by
  cases enabled with
  | true => nofun
  | false => nofun

section Dispatch
variable {s : WatchState} {event : ChannelAuthEvent}

/-- A report that agrees changes nothing the newest events say. -/
theorem NewestWins.report (h : s.NewestWins) {channelContractId : ContractId} {enabled : Bool}
    (hreport : s.AdmitsReport channelContractId enabled) (ledger : Ledger) :
    (s.withRegistry (s.registry.applyChannelState channelContractId enabled ledger)).NewestWins := by
  obtain ⟨hcouncil, hagrees⟩ := hreport
  constructor
  · intro k newest hnewest
    simp only [withRegistry_registry, ChannelRegistry.stateOf_applyChannelState]
    by_cases hk : channelContractId = k
    · subst hk
      rw [if_pos rfl, hagrees newest hnewest]
    · rw [if_neg hk]
      exact h.channels k newest hnewest
  · intro council
    simp only [withRegistry_registry, ChannelRegistry.stateOf_applyChannelState]
    by_cases hk : channelContractId = council
    · subst hk
      rw [if_pos rfl]
      constructor
      · intro hinactive
        exact absurd (Option.some.inj hinactive) (decided_ne_inactive enabled)
      · rintro ⟨newest, hnewest, -⟩
        cases hcouncil.symm.trans hnewest
    · rw [if_neg hk]
      exact h.councils council

/-- An event about nothing the registry shows. -/
theorem NewestWins.ignored (h : s.NewestWins)
    (hstate : ∀ channelContractId, event.isStateOf channelContractId = false)
    (hprovider : ∀ council, event.isProviderOf s.registeredProviders council = false) :
    (s.withDispatched event).NewestWins := by
  constructor
  · intro k newest hnewest
    rw [newestState, withDispatched, latest_snoc_of_not (hstate k)] at hnewest
    exact h.channels k newest hnewest
  · intro council
    rw [newestProvider, withDispatched, latest_snoc_of_not (hprovider council)]
    exact h.councils council

/-- An admitted event of a channel. -/
theorem NewestWins.state (h : s.NewestWins) {channelContractId : ContractId}
    (hevent : event.isStateOf channelContractId = true)
    (hunique : ∀ k, event.isStateOf k = true → k = channelContractId)
    (hprovider : ∀ council, event.isProviderOf s.registeredProviders council = false)
    (hcouncil : s.newestProvider channelContractId = none)
    (hadmits : ∀ newest, s.newestState channelContractId = some newest →
      newest.ledger ≤ event.ledger ∨ newest.isEnabled = event.isEnabled) (ledger : Ledger) :
    ((s.withDispatched event).withRegistry
      (s.registry.applyChannelState channelContractId event.isEnabled ledger)).NewestWins := by
  have hproviders : ∀ council,
      ((s.withDispatched event).withRegistry (s.registry.applyChannelState channelContractId
        event.isEnabled ledger)).newestProvider council = s.newestProvider council :=
    fun council => latest_snoc_of_not (hprovider council) s.dispatched
  constructor
  · intro k newest hnewest
    simp only [withRegistry_registry, ChannelRegistry.stateOf_applyChannelState]
    have hsnoc : latest (·.ledger) (·.isStateOf k) (s.dispatched ++ [event]) = some newest := hnewest
    by_cases hk : channelContractId = k
    · subst hk
      rw [if_pos rfl]
      rcases latest_snoc_of (·.ledger) hevent s.dispatched with ⟨-, hlast⟩ | ⟨b, hb, hlt, hlast⟩
      · cases hlast.symm.trans hsnoc
        rfl
      · cases hlast.symm.trans hsnoc
        rcases hadmits newest hb with hle | hsame
        · exact absurd hlt (not_lt.mpr hle)
        · rw [hsame]
    · rw [if_neg hk]
      have hother : event.isStateOf k = false := by
        rw [← Bool.not_eq_true]
        exact fun hk' => hk (hunique k hk').symm
      rw [latest_snoc_of_not hother] at hsnoc
      exact h.channels k newest hsnoc
  · intro council
    rw [hproviders]
    simp only [withRegistry_registry, ChannelRegistry.stateOf_applyChannelState]
    by_cases hk : channelContractId = council
    · subst hk
      rw [if_pos rfl, hcouncil]
      constructor
      · intro hinactive
        exact absurd (Option.some.inj hinactive) (decided_ne_inactive event.isEnabled)
      · rintro ⟨newest, hnewest, -⟩
        cases hnewest
    · rw [if_neg hk]
      exact h.councils council

/-- An admitted event of one of our providers: the record of its council is
inactive exactly if the provider was removed. -/
theorem NewestWins.provider (h : s.NewestWins) {registry : ChannelRegistry}
    (hregistered : event.isProviderOf s.registeredProviders event.contractId = true)
    (hunique : ∀ c, event.isProviderOf s.registeredProviders c = true → c = event.contractId)
    (hstate : ∀ k, event.isStateOf k = false) (hchannel : s.newestState event.contractId = none)
    (hadmits : ∀ newest, s.newestProvider event.contractId = some newest →
      newest.ledger ≤ event.ledger ∨ newest.type = event.type)
    (hothers : ∀ k, event.contractId ≠ k → registry.stateOf k = s.registry.stateOf k)
    (hown : registry.stateOf event.contractId = some .inactive ↔ event.type = .providerRemoved) :
    ((s.withDispatched event).withRegistry registry).NewestWins := by
  constructor
  · intro k newest hnewest
    have hsnoc : latest (·.ledger) (·.isStateOf k) (s.dispatched ++ [event]) = some newest := hnewest
    rw [latest_snoc_of_not (hstate k)] at hsnoc
    have hk : event.contractId ≠ k := by
      rintro rfl
      cases hchannel.symm.trans hsnoc
    rw [withRegistry_registry, hothers k hk]
    exact h.channels k newest hsnoc
  · intro council
    have hsnoc : ((s.withDispatched event).withRegistry registry).newestProvider council =
        latest (·.ledger) (·.isProviderOf s.registeredProviders council)
          (s.dispatched ++ [event]) := rfl
    rw [hsnoc, withRegistry_registry]
    by_cases hc : event.contractId = council
    · subst hc
      rw [hown]
      rcases latest_snoc_of (·.ledger) hregistered s.dispatched with
        ⟨-, hlast⟩ | ⟨b, hb, hlt, hlast⟩
      · rw [hlast]
        constructor
        · exact fun hremoved => ⟨event, rfl, hremoved⟩
        · rintro ⟨newest, hnewest, hremoved⟩
          cases hnewest
          exact hremoved
      · rw [hlast]
        have hsame : b.type = event.type := by
          rcases hadmits b hb with hle | hsame
          · exact absurd hlt (not_lt.mpr hle)
          · exact hsame
        constructor
        · exact fun hremoved => ⟨b, rfl, hsame.trans hremoved⟩
        · rintro ⟨newest, hnewest, hremoved⟩
          cases hnewest
          exact hsame.symm.trans hremoved
    · rw [hothers council hc]
      have hother : event.isProviderOf s.registeredProviders council = false := by
        rw [← Bool.not_eq_true]
        exact fun hc' => hc (hunique council hc').symm
      rw [latest_snoc_of_not hother]
      exact h.councils council

end Dispatch

end WatchState

/-! ## What the handler of an event does -/

theorem ChannelAuthEvent.isStateOf_iff {event : ChannelAuthEvent} {channelContractId : ContractId} :
    event.isStateOf channelContractId = true ↔ event.type = .channelStateChanged ∧
      event.channel.getD event.address = channelContractId := by
  simp [isStateOf]

theorem ChannelAuthEvent.isProviderOf_iff {event : ChannelAuthEvent} {registered : List PublicKey}
    {council : ContractId} :
    event.isProviderOf registered council = true ↔
      (event.type = .providerAdded ∨ event.type = .providerRemoved) ∧
        event.address ∈ registered ∧ event.contractId = council := by
  simp [isProviderOf, and_assoc]

/-- The registry shows the newest events after it handled an admitted one. -/
theorem WatchState.NewestWins.handled {s : WatchState} {event : ChannelAuthEvent}
    (h : s.NewestWins) (hadmits : s.Admits event)
    (hregistered : event.type = .providerAdded ∨ event.type = .providerRemoved →
      event.address ∈ s.registeredProviders) :
    ((s.withDispatched event).withRegistry (s.registry.handleEvent event)).NewestWins := by
  obtain ⟨hstates, hproviders⟩ := hadmits
  have hnoState : event.type ≠ .channelStateChanged → ∀ k, event.isStateOf k = false := by
    intro htype k
    rw [← Bool.not_eq_true, ChannelAuthEvent.isStateOf_iff]
    exact fun hk => htype hk.1
  have hprovider : (event.type = .providerAdded ∨ event.type = .providerRemoved) →
      event.isProviderOf s.registeredProviders event.contractId = true :=
    fun htype => ChannelAuthEvent.isProviderOf_iff.mpr ⟨htype, hregistered htype, rfl⟩
  have hunique : ∀ c, event.isProviderOf s.registeredProviders c = true → c = event.contractId :=
    fun c hc => (ChannelAuthEvent.isProviderOf_iff.mp hc).2.2.symm
  cases htype : event.type with
  | channelStateChanged =>
    have hevent : event.isStateOf (event.channel.getD event.address) = true :=
      ChannelAuthEvent.isStateOf_iff.mpr ⟨htype, rfl⟩
    obtain ⟨hcouncil, hnewest⟩ := hstates _ hevent
    have hregistry : s.registry.handleEvent event = s.registry.applyChannelState
        (event.channel.getD event.address) event.isEnabled event.ledger := by
      rw [ChannelRegistry.handleEvent, htype]
      rfl
    rw [hregistry]
    refine h.state hevent (fun k hk => (ChannelAuthEvent.isStateOf_iff.mp hk).2.symm) ?_ hcouncil hnewest event.ledger
    intro council
    rw [← Bool.not_eq_true, ChannelAuthEvent.isProviderOf_iff, htype]
    rintro ⟨hor | hor, -⟩
    · cases hor
    · cases hor
  | providerAdded =>
    have hmine := hprovider (.inl htype)
    obtain ⟨hchannel, hnewest⟩ := hproviders _ hmine
    have hregistry : s.registry.handleEvent event = s.registry.onProviderAdded event := by
      rw [ChannelRegistry.handleEvent, htype]
    rw [hregistry]
    apply h.provider hmine hunique (hnoState fun he => by cases htype.symm.trans he) hchannel hnewest
    · intro k hk
      rw [ChannelRegistry.stateOf_onProviderAdded, if_neg hk]
    · rw [ChannelRegistry.stateOf_onProviderAdded, if_pos rfl, htype]
      by_cases hconfigured : event.contractId ∈ s.registry.configuredChannels
      · simp [hconfigured]
      · simp [hconfigured]
  | providerRemoved =>
    have hmine := hprovider (.inr htype)
    obtain ⟨hchannel, hnewest⟩ := hproviders _ hmine
    have hregistry : s.registry.handleEvent event = s.registry.onProviderRemoved event := by
      rw [ChannelRegistry.handleEvent, htype]
    rw [hregistry]
    apply h.provider hmine hunique (hnoState fun he => by cases htype.symm.trans he) hchannel hnewest
    · intro k hk
      rw [ChannelRegistry.stateOf_onProviderRemoved, if_neg hk]
    · rw [ChannelRegistry.stateOf_onProviderRemoved, if_pos rfl, htype]
      simp
  | contractInitialized =>
    have hregistry : s.registry.handleEvent event = s.registry := by
      rw [ChannelRegistry.handleEvent, htype]
    rw [hregistry]
    exact h.ignored (hnoState fun he => by cases htype.symm.trans he) fun council => by
      rw [← Bool.not_eq_true, ChannelAuthEvent.isProviderOf_iff, htype]
      simp
  | inherited property =>
    have hregistry : s.registry.handleEvent event = s.registry := by
      rw [ChannelRegistry.handleEvent, htype]
    rw [hregistry]
    exact h.ignored (hnoState fun he => by cases htype.symm.trans he) fun council => by
      rw [← Bool.not_eq_true, ChannelAuthEvent.isProviderOf_iff, htype]
      simp

/-! ## Every poll -/

/-- No request touches the registry. -/
theorem WatchState.NewestWins.serve {s : WatchState} (h : s.NewestWins) {q : WatchReq} :
    (watchServe q s).2.NewestWins := by
  cases q with
  | updateMembership id data => exact ⟨h.channels, h.councils⟩
  | _ => exact h

theorem WatchState.NewestWins.pass {s : WatchState} (h : s.NewestWins) (n : Nat) :
    (watchHost.pass n s).NewestWins := ⟨h.channels, h.councils⟩

/-- What follows a provider event keeps what the registry shows. -/
theorem follow_keeps (event : ChannelAuthEvent) :
    Guided watchHost InOrder WatchState.NewestWins (followProvider event)
      (fun _ => WatchState.NewestWins) WatchState.NewestWins := by
  refine Guided.of_uses ?_ (fun q s _ hs => hs.serve) (fun n s hs => hs.pass n)
    (followProvider_uses event)
  intro o s ho hs hg
  cases o with
  | applyChannelState channelContractId enabled => exact hs.report hg 0
  | emit scope councilEvent => exact ⟨hs.channels, hs.councils⟩
  | removeContract contractId => exact ⟨hs.channels, hs.councils⟩
  | _ => exact ho.elim

/-- A dispatch of the one handler. -/
theorem dispatch_keeps (event : ChannelAuthEvent) :
    Guided watchHost InOrder WatchState.NewestWins (EventWatcher.dispatch watchEvent event)
      (fun _ => WatchState.NewestWins) WatchState.NewestWins := by
  apply Guided.bind (B := fun _ s => ∃ s₀ : WatchState, s = s₀.withDispatched event ∧
    s₀.NewestWins ∧ s₀.Admits event)
  · apply Guided.op
    intro s hs hadmits
    exact ⟨s, rfl, hs, hadmits⟩
  intro _
  refine Guided.recover ?_ (fun _ => .pure fun _ hs => hs) fun _ hs => hs
  have hhandle : Guided watchHost InOrder (fun s => ∃ s₀ : WatchState,
      s = s₀.withDispatched event ∧ s₀.NewestWins ∧ s₀.Admits event ∧
      (event.type = .providerAdded ∨ event.type = .providerRemoved →
        event.address ∈ s₀.registeredProviders)) (watchRun (.handleEvent event))
      (fun _ => WatchState.NewestWins) WatchState.NewestWins := by
    apply Guided.op
    rintro s ⟨s₀, rfl, h₀, hadmits, hregistered⟩ -
    exact h₀.handled hadmits hregistered
  unfold watchEvent
  split
  · rename_i htype
    refine hhandle.mono ?_ (fun _ _ hs => hs) fun _ hs => hs
    rintro s ⟨s₀, rfl, h₀, hadmits⟩
    refine ⟨s₀, rfl, h₀, hadmits, ?_⟩
    rw [htype]
    rintro (hor | hor)
    · cases hor
    · cases hor
  · rename_i htype
    apply Guided.bind (B := fun (registered : Bool) s => ∃ s₀ : WatchState,
      s = s₀.withDispatched event ∧ s₀.NewestWins ∧ s₀.Admits event ∧
      registered = decide (event.address ∈ s₀.registeredProviders))
    · apply Guided.op
      rintro s ⟨s₀, rfl, h₀, hadmits⟩ -
      exact ⟨s₀, rfl, h₀, hadmits, rfl⟩
    · intro registered
      cases registered with
      | true =>
        apply Guided.bind (B := fun _ => WatchState.NewestWins)
        · refine hhandle.mono ?_ (fun _ _ hs => hs) fun _ hs => hs
          rintro s ⟨s₀, rfl, h₀, hadmits, hregistered⟩
          exact ⟨s₀, rfl, h₀, hadmits, fun _ => of_decide_eq_true hregistered.symm⟩
        · intro _
          exact follow_keeps event
      | false =>
        simp only [Bool.false_eq_true, if_false]
        split
        · rename_i hinitialized
          refine hhandle.mono ?_ (fun _ _ hs => hs) fun _ hs => hs
          rintro s ⟨s₀, rfl, h₀, hadmits, -⟩
          refine ⟨s₀, rfl, h₀, hadmits, ?_⟩
          rw [hinitialized]
          rintro (hor | hor)
          · cases hor
          · cases hor
        · apply Guided.pure
          rintro s ⟨s₀, rfl, h₀, -, hregistered⟩
          have hunknown := of_decide_eq_false hregistered.symm
          apply h₀.ignored
          · intro k
            rw [← Bool.not_eq_true, ChannelAuthEvent.isStateOf_iff]
            exact fun hk => htype hk.1
          · intro council
            rw [← Bool.not_eq_true, ChannelAuthEvent.isProviderOf_iff]
            exact fun hc => hunknown hc.2.1

theorem poll_keeps_newest (sdk : Sdk) :
    Guided watchHost InOrder WatchState.NewestWins (EventWatcher.poll sdk watchEvent)
      (fun _ => WatchState.NewestWins) WatchState.NewestWins := by
  apply EventWatcher.poll_keeps
  · intro α t ht
    refine Guided.of_uses ?_ (fun q s _ hs => hs.serve) (fun n s hs => hs.pass n) ht
    intro o s ho hs _
    cases o with
    | fields => exact hs
    | pollOk => exact ⟨hs.channels, hs.councils⟩
    | setCursors l k b => exact ⟨hs.channels, hs.councils⟩
    | setLiveLedger l => exact ⟨hs.channels, hs.councils⟩
    | setBackfillLedger l => exact ⟨hs.channels, hs.councils⟩
    | pollError m => exact ⟨hs.channels, hs.councils⟩
    | _ => exact ho.elim
  · exact dispatch_keeps

/-- **When the newest event wins.** In every sequence of polls in which no event
comes after a newer one about the same contract that says otherwise, and no
council reports otherwise, the registry shows the newest event of every channel
and of every council. -/
theorem newest_event_wins {sdk : Sdk} {s s' : WatchState} (hnone : s.dispatched = [])
    (hregistry : ∀ council, s.registry.stateOf council ≠ some .inactive)
    (h : Rounds watchHost InOrder (EventWatcher.poll sdk watchEvent) s s') : s'.NewestWins := by
  apply h.invariant (poll_keeps_newest sdk) fun n _ hs => hs.pass n
  constructor
  · intro k newest hnewest
    rw [WatchState.newestState, hnone] at hnewest
    cases hnewest
  · intro council
    constructor
    · exact fun hinactive => absurd hinactive (hregistry council)
    · rintro ⟨newest, hnewest, -⟩
      rw [WatchState.newestProvider, hnone] at hnewest
      cases hnewest

/-! ## A channel that is disabled and shown as active -/

/-- The state of an asset channel changes at a ledger. -/
def rawChannelStateChanged (contractId channel : ContractId) (enabled : Bool) (ledger : Ledger) :
    RawEvent :=
  ⟨some [.symbol "channel_state_changed", .xdr channel, .xdr "A"],
    .xdr (if enabled then "true" else "false"), ledger, some contractId⟩

/-- One poll. -/
def polled (s : WatchState) : WatchState :=
  ((EventWatcher.poll plainSdk watchEvent).eval watchHost [] (watchHost.pass 0 s)).2.2

/-- Whether a step dispatches at most the first event. -/
def dispatchesFirst : Step watching WatchState → Bool
  | .ran s (.dispatched _) => s.dispatched.isEmpty
  | .ran _ (.applyChannelState _ _) => false
  | _ => true

/-- The first event is in order. -/
theorem inOrder_of_first {st : Step watching WatchState} (h : dispatchesFirst st = true) :
    InOrder st := by
  have hadmits : ∀ (s : WatchState) (event : ChannelAuthEvent), s.dispatched = [] →
      s.Admits event := by
    intro s event hnone
    have hstate : ∀ k, s.newestState k = none := fun k => by
      rw [WatchState.newestState, hnone]
      rfl
    have hprovider : ∀ c, s.newestProvider c = none := fun c => by
      rw [WatchState.newestProvider, hnone]
      rfl
    constructor
    · intro k _
      refine ⟨hprovider k, ?_⟩
      rw [hstate]
      exact nofun
    · intro c _
      refine ⟨hstate c, ?_⟩
      rw [hprovider]
      exact nofun
  cases st with
  | ran s o =>
    cases o with
    | dispatched event => exact hadmits s event (List.isEmpty_iff.mp h)
    | applyChannelState k enabled => cases h
    | _ => trivial
  | _ => trivial

/-- One poll of a channel that was disabled. -/
theorem newest_event_wins_disabled :
    (polled (.boot (wholeServer [rawChannelStateChanged "C" "X" false 10] 10)
      (.new ["C"] none))).NewestWins := by
  have hfirst : ∀ st ∈ (EventWatcher.poll plainSdk watchEvent).trace watchHost []
      (watchHost.pass 0 (.boot (wholeServer [rawChannelStateChanged "C" "X" false 10] 10)
        (.new ["C"] none))), dispatchesFirst st = true := by decide +kernel
  exact newest_event_wins rfl (by simp [WatchState.boot, ChannelRegistry.new,
    ChannelRegistry.stateOf, ChannelRegistry.get])
    (.round 0 [] (.refl _) (by simp) fun st hst => inOrder_of_first (hfirst st hst))

/-- A channel is enabled and then, at the tip, disabled. -/
def enabledThenDisabled : List RawEvent :=
  [rawChannelStateChanged "C" "X" true 5, rawChannelStateChanged "C" "X" false 10]

/-- A watcher that has just started when the channel is disabled. -/
def freshWatcher : WatchState := .boot (wholeServer enabledThenDisabled 10) (.new ["C"] none)

/-- The live read dispatches the disabling event, the backfill the older
enabling one after it: everything is dispatched, and the channel is active. -/
theorem disabled_channel_active :
    Rounds watchHost (Steady WithinRetention) (EventWatcher.poll plainSdk watchEvent) freshWatcher
      (polled freshWatcher) ∧
    (polled freshWatcher).watcher.backfillLedger = none ∧
    (polled freshWatcher).dispatched.Perm (eventsOf plainSdk enabledThenDisabled ["C"]) ∧
    ((polled freshWatcher).newestState "X").map (·.enabled) = some (some false) ∧
    (polled freshWatcher).registry.stateOf "X" = some .active ∧
    ¬ (polled freshWatcher).NewestWins := by
  have hactive : (polled freshWatcher).registry.stateOf "X" = some .active := by decide +kernel
  have hnewest : ((polled freshWatcher).newestState "X").map (·.isEnabled) = some false := by
    decide +kernel
  refine ⟨.round 0 [] (.refl _) (by simp) (by decide +kernel), by decide +kernel,
    by decide +kernel, by decide +kernel, hactive, ?_⟩
  intro hwins
  obtain ⟨newest, hsome, hdisabled⟩ := Option.map_eq_some_iff.mp hnewest
  have hstate := hwins.channels "X" newest hsome
  rw [hactive, hdisabled] at hstate
  cases hstate

end ProviderPlatform
