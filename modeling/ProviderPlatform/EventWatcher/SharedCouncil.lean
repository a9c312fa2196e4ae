import ProviderPlatform.EventWatcher.Handlers
import ProviderPlatform.Store.Latest

/-! # A council of several providers

The registry has one record for a council and no provider in it, and the one
watcher hands it the joins and the leaves of every registered provider. So the
record says what the last of these events says, whichever provider it is about:
after a provider left, the council is inactive for those still in it. -/
namespace ProviderPlatform
open Async Task Store

/-! ## What the events say -/

/-- The latest event about a provider. -/
def latestOf (events : List ChannelAuthEvent) (publicKey : PublicKey) : Option ChannelAuthEvent :=
  latest (·.ledger) (·.address == publicKey) events

/-- The latest event about any of our providers. -/
def latestOfOurs (events : List ChannelAuthEvent) (registered : List PublicKey) :
    Option ChannelAuthEvent :=
  latest (·.ledger) (fun event => decide (event.address ∈ registered)) events

/-- The joins and leaves of a council in ledger order. -/
structure JoinsAndLeaves (council : ContractId) (events : List ChannelAuthEvent) : Prop where
  council : ∀ event ∈ events, event.contractId = council
  type : ∀ event ∈ events, event.type = .providerAdded ∨ event.type = .providerRemoved
  ordered : events.Pairwise fun a b => a.ledger ≤ b.ledger

/-- The record of a council after some events: not inactive while one of our
providers is in it, and inactive once each that was seen has left. -/
structure ShowsCouncil (registry : ChannelRegistry) (council : ContractId)
    (events : List ChannelAuthEvent) (registered : List PublicKey) : Prop where
  joined : (∃ publicKey ∈ registered, ∃ event, latestOf events publicKey = some event ∧
    event.type = .providerAdded) → registry.stateOf council ≠ some .inactive
  left : (∀ publicKey ∈ registered, ∀ event, latestOf events publicKey = some event →
    event.type = .providerRemoved) → registry.stateOf council = some .inactive

/-- The last event is a join, or nobody is left in the council; without any
event the record was inactive before. -/
def LastSpeaksForAll (inactive : Prop) (events : List ChannelAuthEvent)
    (registered : List PublicKey) : Prop :=
  match latestOfOurs events registered with
  | none => inactive
  | some last => last.type = .providerAdded ∨ ¬ ∃ publicKey ∈ registered, ∃ event,
      latestOf events publicKey = some event ∧ event.type = .providerAdded

/-- The last event is a leave; without any event, what was before. -/
def LastLeaves (inactive : Prop) (events : List ChannelAuthEvent) (registered : List PublicKey) :
    Prop :=
  match latestOfOurs events registered with
  | none => inactive
  | some last => last.type = .providerRemoved

section Events
variable {council : ContractId} {events : List ChannelAuthEvent} {registered : List PublicKey}
  {event : ChannelAuthEvent} {inactive : Prop}

theorem JoinsAndLeaves.prefix {before after : List ChannelAuthEvent}
    (h : JoinsAndLeaves council (before ++ after)) : JoinsAndLeaves council before where
  council e he := h.council e (List.mem_append_left _ he)
  type e he := h.type e (List.mem_append_left _ he)
  ordered := (List.pairwise_append.mp h.ordered).1

theorem JoinsAndLeaves.le_last (h : JoinsAndLeaves council (events ++ [event])) :
    ∀ e ∈ events, e.ledger ≤ event.ledger := fun e he =>
  (List.pairwise_append.mp h.ordered).2.2 e he event List.mem_cons_self

theorem LastLeaves.snoc (h : JoinsAndLeaves council (events ++ [event])) :
    LastLeaves inactive (events ++ [event]) registered ↔
      if event.address ∈ registered then event.type = .providerRemoved
      else LastLeaves inactive events registered := by
  have hlast := latest_snoc_of_ordered (p := fun e => decide (e.address ∈ registered)) h.le_last
  by_cases hmem : event.address ∈ registered
  · simp [LastLeaves, latestOfOurs, hlast, hmem]
  · simp [LastLeaves, latestOfOurs, hlast, hmem]

/-- The last event of all is the last about its provider. -/
theorem latestOf_of_latestOfOurs {last : ChannelAuthEvent} (h : JoinsAndLeaves council events)
    (hlast : latestOfOurs events registered = some last) :
    last.address ∈ registered ∧ latestOf events last.address = some last := by
  induction events using List.reverseRecOn with
  | nil => cases hlast
  | append_singleton events event ih =>
    rw [latestOfOurs, latest_snoc_of_ordered h.le_last] at hlast
    split at hlast
    · rename_i hmem
      cases hlast
      refine ⟨of_decide_eq_true hmem, ?_⟩
      rw [latestOf, latest_snoc_of_ordered h.le_last]
      simp
    · rename_i hmem
      obtain ⟨hregistered, hlatest⟩ := ih h.prefix hlast
      refine ⟨hregistered, ?_⟩
      have hne : event.address ≠ last.address := by
        intro he
        rw [← he] at hregistered
        exact hmem (decide_eq_true hregistered)
      rw [latestOf, latest_snoc_of_ordered h.le_last, if_neg (by simpa using hne)]
      exact hlatest

/-- **One record for all.** A record that says what the last event says is
right exactly if that event speaks for all. -/
theorem showsCouncil_iff {registry : ChannelRegistry} (h : JoinsAndLeaves council events)
    (hstate : registry.stateOf council = some .inactive ↔ LastLeaves inactive events registered) :
    ShowsCouncil registry council events registered ↔
      LastSpeaksForAll inactive events registered := by
  unfold LastLeaves at hstate
  unfold LastSpeaksForAll
  cases hlast : latestOfOurs events registered with
  | none =>
    simp only [hlast] at hstate
    have hunseen (publicKey : PublicKey) (hmem : publicKey ∈ registered) :
        latestOf events publicKey = none := by
      cases hlatest : latestOf events publicKey with
      | none => rfl
      | some event =>
        obtain ⟨he, haddress, -⟩ := latest_spec hlatest
        have hout := latest_eq_none hlast event he
        simp [beq_iff_eq.mp haddress, hmem] at hout
    constructor
    · intro hshows
      refine hstate.mp (hshows.left fun publicKey hmem event hevent => ?_)
      rw [hunseen publicKey hmem] at hevent
      cases hevent
    · intro hinactive
      refine ⟨fun hjoined => ?_, fun _ => hstate.mpr hinactive⟩
      obtain ⟨publicKey, hmem, event, hevent, -⟩ := hjoined
      rw [hunseen publicKey hmem] at hevent
      cases hevent
  | some last =>
    simp only [hlast] at hstate
    obtain ⟨hregistered, hlatest⟩ := latestOf_of_latestOfOurs h hlast
    rcases h.type last (latest_spec hlast).1 with hadded | hremoved
    · refine iff_of_true ⟨fun _ hinactive => ?_, fun hleft => ?_⟩ (.inl hadded)
      · have hleaves := hstate.mp hinactive
        rw [hadded] at hleaves
        cases hleaves
      · have hleaves := hleft last.address hregistered last hlatest
        rw [hadded] at hleaves
        cases hleaves
    · have hinactive := hstate.mpr hremoved
      constructor
      · intro hshows
        exact .inr fun hjoined => hshows.joined hjoined hinactive
      · intro hspeaks
        refine ⟨fun hjoined => ?_, fun _ => hinactive⟩
        rcases hspeaks with hadded | hnone
        · rw [hremoved] at hadded
          cases hadded
        · exact absurd hjoined hnone

end Events

/-! ## What the handler does to the record -/

/-- The record of the council is inactive exactly if `claim` holds. -/
def Records (registered : List PublicKey) (council : ContractId) (claim : Prop) (s : WatchState) :
    Prop :=
  s.registeredProviders = registered ∧ (s.registry.stateOf council = some .inactive ↔ claim)

/-- The process does not stop. -/
def GoesOn (st : Step watching WatchState) : Prop := ∀ s q, st ≠ .stopped s q

section Handler
variable {registered : List PublicKey} {council : ContractId} {claim : Prop}
  {event : ChannelAuthEvent} {g : Step watching WatchState → Prop}

theorem Records.serve {s : WatchState} (h : Records registered council claim s) (q : WatchReq) :
    Records registered council claim (watchServe q s).2 := by
  cases q <;> exact h

/-- What a join is followed by makes no record inactive. -/
theorem joined_follows {s : WatchState} (h : Records registered council claim s) (hclaim : ¬ claim)
    {o : WatchOp} (ho : o.Follows) : Records registered council claim (watchOp o s).2 := by
  cases o with
  | applyChannelState channelContractId enabled =>
    refine ⟨h.1, iff_of_false ?_ hclaim⟩
    have hbefore := fun hinactive => hclaim (h.2.mp hinactive)
    show (s.registry.applyChannelState channelContractId enabled 0).stateOf council ≠ some .inactive
    rw [ChannelRegistry.stateOf_applyChannelState]
    split
    · cases enabled <;> simp
    · exact hbefore
  | emit scope councilEvent => exact h
  | removeContract contractId => exact h
  | _ => exact ho.elim

/-- What a leave is followed by. -/
def WatchOp.FollowsLeave : WatchOp → Prop
  | .emit _ _ | .removeContract _ => True
  | _ => False

theorem left_follows {s : WatchState} (h : Records registered council claim s) {o : WatchOp}
    (ho : o.FollowsLeave) : Records registered council claim (watchOp o s).2 := by
  cases o with
  | emit scope councilEvent => exact h
  | removeContract contractId => exact h
  | _ => exact ho.elim

theorem followProvider_records
    (htype : event.type = .providerAdded ∨ event.type = .providerRemoved) :
    Guided watchHost g (Records registered council (event.type = .providerRemoved))
      (followProvider event) (fun _ => Records registered council (event.type = .providerRemoved))
      (Records registered council (event.type = .providerRemoved)) := by
  rcases htype with hadded | hremoved
  · refine Guided.of_uses (fun o s ho hs _ => ?_) (fun q s _ hs => ?_) (fun _ _ hs => hs)
      (followProvider_uses event)
    · refine joined_follows hs ?_ ho
      rw [hadded]
      nofun
    · exact hs.serve q
  · have huses : (followProvider event).Uses WatchOp.FollowsLeave fun _ => True := by
      rw [followProvider, hremoved]
      exact Task.Uses.bind (deactivateMembership_uses _ trivial) fun _ =>
        emitCouncilEvent_uses _ fun _ => trivial
    refine Guided.of_uses (fun o s ho hs _ => ?_) (fun q s _ hs => ?_) (fun _ _ hs => hs) huses
    · exact left_follows hs ho
    · exact hs.serve q

/-- One event: of our providers it decides, of others it changes nothing. -/
theorem dispatch_records (hcouncil : event.contractId = council)
    (htype : event.type = .providerAdded ∨ event.type = .providerRemoved) :
    Guided watchHost GoesOn (Records registered council claim)
      (EventWatcher.dispatch watchEvent event)
      (fun _ => Records registered council
        (if event.address ∈ registered then event.type = .providerRemoved else claim))
      fun _ => False := by
  have hstate : event.type ≠ .channelStateChanged := by
    rcases htype with h | h <;> simp [h]
  have hinitialized : event.type ≠ .contractInitialized := by
    rcases htype with h | h <;> simp [h]
  refine Guided.bind (B := fun _ => Records registered council claim) ?_ fun _ => ?_
  · exact Guided.op fun s hs _ => hs
  refine Guided.recover_lives (E := Records registered council
    (if event.address ∈ registered then event.type = .providerRemoved else claim))
    (fun s q hg => hg s q rfl) ?_ fun _ => .pure fun _ hs => hs
  unfold watchEvent
  rw [if_neg hstate]
  refine Guided.bind (B := fun mine s => mine = decide (event.address ∈ registered) ∧
    Records registered council claim s) ?_ fun mine => ?_
  · refine Guided.op fun s hs _ => ⟨?_, hs⟩
    rw [← hs.1]
    rfl
  refine Guided.of_state fun s hs => ?_
  obtain ⟨rfl, hs⟩ := hs
  by_cases hmem : event.address ∈ registered
  · simp only [hmem, decide_true, if_true]
    refine Guided.bind (B := fun _ =>
      Records registered council (event.type = .providerRemoved)) ?_ fun _ =>
        followProvider_records htype
    refine Guided.op fun s' hs' _ => ?_
    subst hs'
    refine ⟨hs.1, ?_⟩
    show (s'.registry.handleEvent event).stateOf council = some .inactive ↔ _
    unfold ChannelRegistry.handleEvent
    rcases htype with hadded | hremoved
    · rw [hadded]
      simp only [ChannelRegistry.stateOf_onProviderAdded, hcouncil, if_true]
      split <;> simp
    · rw [hremoved]
      simp [ChannelRegistry.stateOf_onProviderRemoved, hcouncil]
  · simp only [hmem, decide_false, Bool.false_eq_true, if_false, hinitialized]
    exact .pure fun s' hs' => hs' ▸ hs

/-- **The whole sequence.** The record says what the last event says. -/
theorem dispatches_record {events : List ChannelAuthEvent} (h : JoinsAndLeaves council events) :
    Guided watchHost GoesOn (Records registered council claim)
      (Task.forEach (EventWatcher.dispatch watchEvent) events)
      (fun _ => Records registered council (LastLeaves claim events registered))
      fun _ => False := by
  -- `J`: the record says what the last event handled so far says.
  have hloop : Guided watchHost GoesOn
      (fun s => ∃ before, before ++ events = events ∧
        Records registered council (LastLeaves claim before registered) s)
      (Task.forEach (EventWatcher.dispatch watchEvent) events)
      (fun _ s => ∃ before, before ++ [] = events ∧
        Records registered council (LastLeaves claim before registered) s) fun _ => False := by
    refine Guided.forEach (J := fun rest s => ∃ before, before ++ rest = events ∧
      Records registered council (LastLeaves claim before registered) s)
      fun event rest => Guided.of_state fun s hs => ?_
    obtain ⟨before, rfl, hs⟩ := hs
    have hnext : JoinsAndLeaves council (before ++ [event]) := by
      rw [← List.singleton_append, ← List.append_assoc] at h
      exact h.prefix
    have hmem : event ∈ before ++ [event] := by simp
    refine (dispatch_records (hnext.council event hmem) (hnext.type event hmem)).mono
      (fun s' hs' => hs' ▸ hs) (fun _ s' hs' => ⟨before ++ [event], by simp, hs'.1, ?_⟩)
      fun _ hf => hf
    rw [LastLeaves.snoc hnext]
    exact hs'.2
  refine hloop.mono (fun s hs => ⟨[], rfl, hs⟩) (fun _ s hs => ?_) fun _ hf => hf
  obtain ⟨before, rfl, hs⟩ := hs
  rw [List.append_nil]
  exact hs

end Handler

/-- **Registry with several providers.** From every state, under every schedule
without a stop: once the joins and leaves of a council are dispatched, its
record is right for our providers exactly if the last event speaks for all. -/
theorem shared_council_iff (s : WatchState) (council : ContractId)
    (events : List ChannelAuthEvent) (bs : List (Beat WatchErr))
    (hlives : ∀ b ∈ bs, Beat.Lives b) (h : JoinsAndLeaves council events) :
    let ended := (Task.forEach (EventWatcher.dispatch watchEvent) events).eval watchHost bs s
    ended.1 = some (.ok ()) ∧
      (ShowsCouncil ended.2.2.registry council events s.registeredProviders ↔
        LastSpeaksForAll (s.registry.stateOf council = some .inactive) events
          s.registeredProviders) := by
  intro ended
  have hstart : Records s.registeredProviders council (s.registry.stateOf council = some .inactive) s :=
    ⟨rfl, Iff.rfl⟩
  obtain ⟨⟨⟩, hret, hrecord⟩ :=
    (dispatches_record h bs s (Task.trace_lives watchHost _ bs s hlives) hstart).exists_ok
  exact ⟨hret, showsCouncil_iff h hrecord.2⟩

namespace Small

/-- Two of our providers, and no membership. -/
def twoProviders : WatchState :=
  { WatchState.boot (fun _ => ⟨0, 0, fun _ _ => .error ⟨"no events"⟩⟩) (.new ["C"] none) with
    registeredProviders := ["GA", "GB"] }

/-- A join or a leave of the council "C". -/
def moves (type : ChannelAuthEventType) (address : PublicKey) (ledger : Ledger) : ChannelAuthEvent :=
  { type := type, address := address, ledger := ledger, contractId := "C" }

/-- Both join, and the second leaves. -/
def oneStays : List ChannelAuthEvent :=
  [moves .providerAdded "GA" 1, moves .providerAdded "GB" 2, moves .providerRemoved "GB" 3]

theorem oneStays_joinsAndLeaves : JoinsAndLeaves "C" oneStays :=
  ⟨by decide, by decide, by decide⟩

end Small

/-- The first provider is still in the council, and its record is inactive. -/
theorem shared_council_inactive :
    ¬ ∀ (s : WatchState) (council : ContractId) (events : List ChannelAuthEvent),
      JoinsAndLeaves council events →
      ShowsCouncil ((Task.forEach (EventWatcher.dispatch watchEvent) events).eval watchHost [] s).2.2.registry
        council events s.registeredProviders := by
  intro h
  have hshows := h Small.twoProviders "C" Small.oneStays Small.oneStays_joinsAndLeaves
  refine hshows.joined ⟨"GA", by decide, Small.moves .providerAdded "GA" 1, by decide, rfl⟩ ?_
  decide +kernel

/-- The same events, of which the record is not right. -/
theorem shared_council_iff_small :
    let ended := (Task.forEach (EventWatcher.dispatch watchEvent) Small.oneStays).eval watchHost []
      Small.twoProviders
    ended.1 = some (.ok ()) ∧
      (ShowsCouncil ended.2.2.registry "C" Small.oneStays ["GA", "GB"] ↔
        LastSpeaksForAll (Small.twoProviders.registry.stateOf "C" = some .inactive) Small.oneStays
          ["GA", "GB"]) :=
  shared_council_iff Small.twoProviders "C" Small.oneStays [] (fun _ hb => nomatch hb)
    Small.oneStays_joinsAndLeaves

end ProviderPlatform
