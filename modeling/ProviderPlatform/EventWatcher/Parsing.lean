import ProviderPlatform.EventWatcher.Delivery

/-! # When a raw event parses

`parseRawEvent` looks at the arity, the name and the contract of an event before
it decodes anything, but not at the kinds of its topics: a decoder that throws
ends the parse, and with it the fetch of every other event of the poll. A name
that every object inherits passes for a known one. -/
namespace ProviderPlatform
open Async

/-! ## What is decoded -/

/-- An event that has a name that counts as known, a contract and a second topic. -/
structure RecognizedEvent where
  eventType : ChannelAuthEventType
  contractId : ContractId
  address : ScVal
  topics : List ScVal

/-- The checks of `parseRawEvent` before it decodes. -/
def RawEvent.recognized (rawEvent : RawEvent) : Option RecognizedEvent :=
  match rawEvent.topic with
  | some (topic :: address :: topics) =>
    match (decodeTopicSymbol topic).bind knownTopic, rawEvent.contractId.filter (· != "") with
    | some eventType, some contractId => some ⟨eventType, contractId, address, topics⟩
    | _, _ => none
  | _ => none

namespace Sdk
variable (sdk : Sdk)

/-- `Address.fromScVal` does not throw. -/
def IsAddress (value : ScVal) : Prop := ∃ address, sdk.addressFromScVal value = .ok address

/-- The values that are decoded can be: the second topic, and for a change of a
channel's state with a third topic also that one and the data value. -/
def Decodes (rawEvent : RawEvent) : Prop :=
  ∀ r, rawEvent.recognized = some r →
    if r.eventType = .channelStateChanged then
      ∀ third ∈ r.topics.head?, sdk.IsAddress r.address ∧ sdk.IsAddress third ∧
        ∃ enabled, sdk.scValToBoolean rawEvent.value = .ok enabled
    else sdk.IsAddress r.address

end Sdk

/-- The event has the name of a property that every object inherits. -/
def RawEvent.NamesProperty (rawEvent : RawEvent) : Prop :=
  ∃ r property, rawEvent.recognized = some r ∧ r.eventType = .inherited property

/-- The event has one of the four types and the addresses of its topics. -/
structure ParsedFrom (sdk : Sdk) (rawEvent : RawEvent) (event : ChannelAuthEvent) : Prop where
  known : event.type.isKnown = true
  address : ∃ r, rawEvent.recognized = some r ∧ sdk.addressFromScVal r.address = .ok event.address
  changed : event.type = .channelStateChanged →
    event.channel = some event.address ∧ event.asset.isSome = true ∧ event.enabled.isSome = true

/-- The parse does not throw, and gives nothing or an event as it should be. -/
def ParsesTotally (sdk : Sdk) (rawEvent : RawEvent) : Prop :=
  ∃ event, parseRawEvent sdk rawEvent = .ok event ∧ ∀ e ∈ event, ParsedFrom sdk rawEvent e

section Parse
variable {sdk : Sdk} {rawEvent : RawEvent} {r : RecognizedEvent}

theorem parse_unrecognized (h : rawEvent.recognized = none) :
    parseRawEvent sdk rawEvent = .ok none := by
  unfold RawEvent.recognized at h
  unfold parseRawEvent
  split
  · rename_i topic address topics htopic
    rw [htopic] at h
    cases hname : (decodeTopicSymbol topic).bind knownTopic with
    | none => rfl
    | some eventType =>
      cases hcontract : rawEvent.contractId.filter (· != "") with
      | none => rfl
      | some contractId => simp [hname, hcontract] at h
  · rfl

/-- What is decoded once an event is recognized. -/
def RecognizedEvent.decode (sdk : Sdk) (rawEvent : RawEvent) (r : RecognizedEvent) :
    Except WatchErr (Option ChannelAuthEvent) :=
  if r.eventType = .channelStateChanged then
    match r.topics with
    | [] => .ok none
    | third :: _ => do
      let channel ← sdk.addressFromScVal r.address
      let asset ← sdk.addressFromScVal third
      let enabled ← sdk.scValToBoolean rawEvent.value
      pure (some ⟨r.eventType, channel, rawEvent.ledger, r.contractId, some channel, some asset,
        some enabled⟩)
  else do
    let address ← sdk.addressFromScVal r.address
    pure (some ⟨r.eventType, address, rawEvent.ledger, r.contractId, none, none, none⟩)

theorem parse_recognized (h : rawEvent.recognized = some r) :
    parseRawEvent sdk rawEvent = r.decode sdk rawEvent := by
  unfold RawEvent.recognized at h
  unfold parseRawEvent
  split
  · rename_i topic address topics htopic
    rw [htopic] at h
    cases hname : (decodeTopicSymbol topic).bind knownTopic with
    | none => simp [hname] at h
    | some eventType =>
      cases hcontract : rawEvent.contractId.filter (· != "") with
      | none => simp [hname, hcontract] at h
      | some contractId =>
        simp only [hname, hcontract, Option.some.injEq] at h
        subst h
        rfl
  · rename_i hother
    split at h
    · rename_i htopic
      exact absurd htopic (hother _ _ _)
    · cases h

/-- The decoders do not throw exactly if what they are given can be decoded. -/
theorem decode_eq_ok {event : Option ChannelAuthEvent} : r.decode sdk rawEvent = .ok event ↔
    if r.eventType = .channelStateChanged then
      (r.topics = [] ∧ event = none) ∨
      ∃ third topics channel asset enabled, r.topics = third :: topics ∧
        sdk.addressFromScVal r.address = .ok channel ∧ sdk.addressFromScVal third = .ok asset ∧
        sdk.scValToBoolean rawEvent.value = .ok enabled ∧
        event = some ⟨r.eventType, channel, rawEvent.ledger, r.contractId, some channel, some asset,
          some enabled⟩
    else ∃ address, sdk.addressFromScVal r.address = .ok address ∧
      event = some ⟨r.eventType, address, rawEvent.ledger, r.contractId, none, none, none⟩ := by
  unfold RecognizedEvent.decode
  split
  · cases htopics : r.topics with
    | nil => simp [eq_comm]
    | cons third topics =>
      simp only [except_bind_eq_ok]
      constructor
      · rintro ⟨channel, hchannel, asset, hasset, enabled, henabled, hevent⟩
        cases hevent
        exact .inr ⟨third, topics, channel, asset, enabled, rfl, hchannel, hasset, henabled, rfl⟩
      · rintro (⟨hnil, -⟩ | ⟨_, _, channel, asset, enabled, hcons, hchannel, hasset, henabled, rfl⟩)
        · cases hnil
        · cases hcons
          exact ⟨channel, hchannel, asset, hasset, enabled, henabled, rfl⟩
  · simp only [except_bind_eq_ok]
    constructor
    · rintro ⟨address, haddress, hevent⟩
      cases hevent
      exact ⟨address, haddress, rfl⟩
    · rintro ⟨address, haddress, rfl⟩
      exact ⟨address, haddress, rfl⟩

theorem parses_iff : Parses sdk rawEvent ↔ sdk.Decodes rawEvent := by
  unfold Parses Sdk.Decodes
  cases hrecognized : rawEvent.recognized with
  | none => simp [parse_unrecognized hrecognized]
  | some r =>
    simp only [parse_recognized hrecognized, decode_eq_ok, Option.some.injEq, forall_eq']
    split
    · cases r.topics with
      | nil => simp
      | cons third topics =>
        simp only [List.head?_cons, Option.mem_def, Option.some.injEq, forall_eq']
        constructor
        · rintro ⟨event, ⟨hnil, -⟩ | ⟨_, _, channel, asset, enabled, hcons, hchannel, hasset, henabled, -⟩⟩
          · cases hnil
          · cases hcons
            exact ⟨⟨channel, hchannel⟩, ⟨asset, hasset⟩, enabled, henabled⟩
        · rintro ⟨⟨channel, hchannel⟩, ⟨asset, hasset⟩, enabled, henabled⟩
          exact ⟨_, .inr ⟨third, topics, channel, asset, enabled, rfl, hchannel, hasset, henabled, rfl⟩⟩
    · constructor
      · rintro ⟨event, address, haddress, -⟩
        exact ⟨address, haddress⟩
      · rintro ⟨address, haddress⟩
        exact ⟨_, address, haddress, rfl⟩

/-- What an event parses to has its type, and its addresses. -/
theorem parsedFrom_iff (hrecognized : rawEvent.recognized = some r) {event : ChannelAuthEvent}
    (h : parseRawEvent sdk rawEvent = .ok (some event)) :
    ParsedFrom sdk rawEvent event ↔ r.eventType.isKnown = true := by
  rw [parse_recognized hrecognized, decode_eq_ok] at h
  have htype : event.type = r.eventType := by
    split at h
    · obtain ⟨-, hnone⟩ | ⟨_, _, _, _, _, -, -, -, -, hevent⟩ := h
      · cases hnone
      · rw [Option.some.inj hevent]
    · obtain ⟨_, -, hevent⟩ := h
      rw [Option.some.inj hevent]
  refine ⟨fun hparsed => htype ▸ hparsed.known, fun hknown => ⟨htype ▸ hknown, ⟨r, hrecognized, ?_⟩, ?_⟩⟩
  · split at h
    · obtain ⟨-, hnone⟩ | ⟨_, _, channel, _, _, -, hchannel, -, -, hevent⟩ := h
      · cases hnone
      · rw [Option.some.inj hevent]
        exact hchannel
    · obtain ⟨address, haddress, hevent⟩ := h
      rw [Option.some.inj hevent]
      exact haddress
  · intro hchanged
    rw [htype] at hchanged
    rw [if_pos hchanged] at h
    obtain ⟨-, hnone⟩ | ⟨_, _, _, _, _, -, -, -, -, hevent⟩ := h
    · cases hnone
    · rw [Option.some.inj hevent]
      exact ⟨rfl, rfl, rfl⟩

theorem namesProperty_iff (hrecognized : rawEvent.recognized = some r) :
    rawEvent.NamesProperty ↔ r.eventType.isKnown = false := by
  unfold RawEvent.NamesProperty
  simp only [hrecognized, Option.some.injEq]
  constructor
  · rintro ⟨_, property, rfl, htype⟩
    rw [htype]
    rfl
  · intro hknown
    cases htype : r.eventType with
    | inherited property => exact ⟨r, property, rfl, htype⟩
    | _ =>
      rw [htype] at hknown
      cases hknown

theorem parsesTotally_iff :
    ParsesTotally sdk rawEvent ↔ sdk.Decodes rawEvent ∧ ¬ rawEvent.NamesProperty := by
  cases hrecognized : rawEvent.recognized with
  | none =>
    have hproperty : ¬ rawEvent.NamesProperty := by
      rintro ⟨r, -, hr, -⟩
      rw [hrecognized] at hr
      cases hr
    have hdecodes : sdk.Decodes rawEvent := by
      intro r hr
      rw [hrecognized] at hr
      cases hr
    exact iff_of_true ⟨none, parse_unrecognized hrecognized, nofun⟩ ⟨hdecodes, hproperty⟩
  | some r =>
    rw [namesProperty_iff hrecognized, Bool.not_eq_false, ← parses_iff]
    constructor
    · rintro ⟨event, hparse, hparsed⟩
      refine ⟨⟨event, hparse⟩, ?_⟩
      cases event with
      | some event => exact (parsedFrom_iff hrecognized hparse).mp (hparsed event rfl)
      | none =>
        -- only a change of a channel's state without a third topic gives nothing
        rw [parse_recognized hrecognized, decode_eq_ok] at hparse
        split at hparse
        · rename_i hchanged
          rw [hchanged]
          rfl
        · obtain ⟨_, -, hevent⟩ := hparse
          cases hevent
    · rintro ⟨⟨event, hparse⟩, hknown⟩
      refine ⟨event, hparse, ?_⟩
      rintro event rfl
      exact (parsedFrom_iff hrecognized hparse).mpr hknown

end Parse

/-! ## The fetch -/

/-- A fetch whose calls are all answered returns exactly if every event on the
pages decodes. -/
theorem fetch_returns_iff (sdk : Sdk) {contractIds : List ContractId} (hids : contractIds ≠ [])
    (startLedger : Ledger) {bs : List (Beat WatchErr)} (hb : ∀ b ∈ bs, Beat.Serves b)
    {s : WatchState} {pages : List EventsPage}
    (hpages : (fetchCalls contractIds bs s.clock).map (·.answer s.rpc startLedger) =
      pages.map .ok) :
    (∃ fetched, ((fetchChannelAuthEvents sdk contractIds startLedger).eval watchHost bs s).1 =
      some (.ok fetched)) ↔ ∀ page ∈ pages, ∀ rawEvent ∈ page.events, sdk.Decodes rawEvent := by
  have hserved : ∀ b ∈ bs.take (buildEventFilterBatches contractIds).length, Beat.Serves b :=
    fun b hm => hb b (List.mem_of_mem_take hm)
  simp only [fetch_eval_eq_ok sdk startLedger hids, hpages, ← parses_iff]
  constructor
  · rintro ⟨_, -, pages', hsame, hall, -⟩
    obtain rfl : pages = pages' := List.map_injective_iff.mpr (fun _ _ => Except.ok.inj) hsame
    exact hall
  · exact fun hall => ⟨_, hserved, pages, rfl, hall, rfl⟩

/-! ## The cursor -/

/-- The cursor of a watcher that reads from one ledger of one server. -/
structure Held (rpc : Time → RpcView) (contractIds : List ContractId) (ledger : Ledger)
    (s : WatchState) : Prop where
  rpc : s.rpc = rpc
  contractIds : s.watcher.contractIds = contractIds
  liveLedger : s.watcher.liveLedger = some ledger

section Polls
variable {sdk : Sdk} {handler : EventHandler} {rpc : Time → RpcView}
  {contractIds : List ContractId} {ledger : Ledger}

theorem Held.serve {s : WatchState} (h : Held rpc contractIds ledger s) (q : WatchReq) :
    Held rpc contractIds ledger (watchServe q s).2 := by
  cases q <;> exact ⟨h.rpc, h.contractIds, h.liveLedger⟩

/-- The answers to one of the calls from the ledger hold an event that does not
decode. -/
def Malformed (sdk : Sdk) (rpc : Time → RpcView) (contractIds : List ContractId)
    (ledger : Ledger) : Prop :=
  ∃ filters ∈ buildEventFilterBatches contractIds, ∀ now page,
    (rpc now).getEvents ledger filters = .ok page → ∃ rawEvent ∈ page.events, ¬ sdk.Decodes rawEvent

theorem fetch_held (hmalformed : Malformed sdk rpc contractIds ledger) :
    Task.Guided watchHost (Steady WithinRetention) (Held rpc contractIds ledger)
      (fetchChannelAuthEvents sdk contractIds ledger) (fun _ _ => False)
      (Held rpc contractIds ledger) := by
  obtain ⟨filters, hfilters, hpages⟩ := hmalformed
  have hids : contractIds ≠ [] := by
    rintro rfl
    cases hfilters
  have hkept : Task.Guided watchHost (Steady WithinRetention) (Held rpc contractIds ledger)
      (fetchChannelAuthEvents sdk contractIds ledger) (fun _ => Held rpc contractIds ledger)
      (Held rpc contractIds ledger) :=
    Task.Guided.of_uses (fun _ _ ho _ _ => absurd ho not_false) (fun q _ _ h => h.serve q)
      (fun _ _ h => ⟨h.rpc, h.contractIds, h.liveLedger⟩)
      (fetchChannelAuthEvents_uses sdk contractIds ledger)
  intro bs s hg hs
  have hend := hkept bs s hg hs
  have hreturn (fetched) := fetch_eval_eq_ok sdk ledger hids bs s fetched
  revert hend hreturn
  rcases (fetchChannelAuthEvents sdk contractIds ledger).eval watchHost bs s with
    ⟨_ | e | fetched, bs', s'⟩
  · exact fun hend _ => hend
  · exact fun hend _ => hend
  · intro _ hreturn
    obtain ⟨-, pages, hanswers, hall, -⟩ := (hreturn fetched).mp rfl
    have hmem : filters ∈ (fetchCalls contractIds bs s.clock).map (·.filters) := by
      rw [fetchCalls, callsOf_filters]
      exact hfilters
    obtain ⟨call, hcall, rfl⟩ := List.mem_map.mp hmem
    have hanswer : call.answer s.rpc ledger ∈ pages.map .ok := by
      rw [← hanswers]
      exact List.mem_map_of_mem hcall
    obtain ⟨page, hpage, heq⟩ := List.mem_map.mp hanswer
    rw [RpcCall.answer, hs.rpc] at heq
    obtain ⟨rawEvent, hmem, hnot⟩ := hpages _ page heq.symm
    exact (hnot (parses_iff.mp (hall page hpage rawEvent hmem))).elim

theorem readLive_held (hmalformed : Malformed sdk rpc contractIds ledger) :
    Task.Guided watchHost (Steady WithinRetention) (Held rpc contractIds ledger)
      (EventWatcher.readLive sdk handler) (fun _ _ => False) (Held rpc contractIds ledger) := by
  apply guided_fields
  intro s hs
  rw [hs.liveLedger, hs.contractIds]
  have hfetch := fetch_held hmalformed
  refine (hfetch.mono (fun s' h => ?_) (fun _ _ h => h) fun _ h => h).bind fun _ => ?_
  · rw [h]
    exact hs
  · exact fun _ _ _ h => h.elim

theorem initCursors_held : Task.Guided watchHost (Steady WithinRetention)
    (Held rpc contractIds ledger) EventWatcher.initCursors
    (fun _ => Held rpc contractIds ledger) (Held rpc contractIds ledger) := by
  apply guided_fields
  intro s hs
  rw [hs.liveLedger]
  refine .pure ?_
  rintro _ rfl
  exact hs

/-- **A malformed event holds the cursor.** As long as the answers from the live
cursor hold an event that does not decode, no poll moves it. -/
theorem polls_held (hsdk : sdk.Throws WithinRetention)
    (hmalformed : Malformed sdk rpc contractIds ledger) {s s' : WatchState}
    (hs : Held rpc contractIds ledger s)
    (h : Task.Rounds watchHost (Steady WithinRetention) (EventWatcher.poll sdk handler) s s') :
    Held rpc contractIds ledger s' := by
  refine h.invariant ?_ (fun _ _ h => ⟨h.rpc, h.contractIds, h.liveLedger⟩) hs
  refine Task.Guided.settle_throws Steady.lives (fun st hg => hg.rejects st)
    (initCursors_held.bind fun _ => readLive_held hmalformed)
    (initCursors_throws.bind fun _ => readLive_throws liveLedger_null_within hsdk)
    (fun _ _ _ _ h => h.elim) fun e he => ?_
  simp only [show isOutOfRetentionError e = false from he, Bool.false_eq_true, if_false]
  exact .op fun s h _ => ⟨h.rpc, h.contractIds, h.liveLedger⟩

end Polls

/-- **Parsing is total** exactly where what is decoded can be decoded and the name
is not one that every object inherits; and a fetch whose calls are answered
returns exactly where every event on the pages decodes. -/
theorem parsing_total_iff (sdk : Sdk) :
    (∀ rawEvent : RawEvent,
      ParsesTotally sdk rawEvent ↔ sdk.Decodes rawEvent ∧ ¬ rawEvent.NamesProperty) ∧
    ∀ (contractIds : List ContractId) (startLedger : Ledger)
      (bs : List (Beat WatchErr)) (s : WatchState) (pages : List EventsPage), contractIds ≠ [] →
      (∀ b ∈ bs, Beat.Serves b) →
      (fetchCalls contractIds bs s.clock).map (·.answer s.rpc startLedger) = pages.map .ok →
      ((∃ fetched, ((fetchChannelAuthEvents sdk contractIds startLedger).eval watchHost bs s).1 =
          some (.ok fetched)) ↔
        ∀ page ∈ pages, ∀ rawEvent ∈ page.events, sdk.Decodes rawEvent) :=
  ⟨fun _ => parsesTotally_iff,
    fun _ startLedger _ _ _ hids hb hpages => fetch_returns_iff sdk hids startLedger hb hpages⟩

/-- Two well-formed events on one page. -/
theorem parsing_total_iff_twoJoin :
    ∃ fetched, ((fetchChannelAuthEvents plainSdk ["C"] 5).eval watchHost []
      (.boot (wholeServer twoJoin 6) (.new ["C"] none))).1 = some (.ok fetched) := by
  have hdecodes (provider : PublicKey) (ledger : Ledger) :
      plainSdk.Decodes (rawProviderAdded "C" provider ledger) := by
    intro r hr
    have hrecognized : (rawProviderAdded "C" provider ledger).recognized =
        some ⟨.providerAdded, "C", .xdr provider, []⟩ := rfl
    rw [hrecognized] at hr
    cases hr
    exact ⟨provider, rfl⟩
  refine ((parsing_total_iff plainSdk).2 ["C"] 5 [] _ [⟨twoJoin, 6⟩] (by decide) (by simp)
    rfl).mpr ?_
  intro page hpage rawEvent hmem
  rw [List.mem_singleton.mp hpage] at hmem
  simp only [twoJoin, List.mem_cons, List.not_mem_nil, or_false] at hmem
  obtain rfl | rfl := hmem
  · exact hdecodes "P" 5
  · exact hdecodes "Q" 6

/-- `provider_added` of a symbol. -/
def addedSymbol : RawEvent :=
  ⟨some [.symbol "provider_added", .symbol "P"], .xdr "", 5, some "C"⟩

/-- An event with the name of an inherited property. -/
def namedToString : RawEvent := ⟨some [.symbol "toString", .xdr "P"], .xdr "", 5, some "C"⟩

/-- A topic that is no address makes the parse throw, and an inherited name passes
for a type. The first holds the cursor at ledger 5 for ever. -/
theorem added_symbol_holds_cursor :
    (¬ ∀ (sdk : Sdk) (rawEvent : RawEvent), ParsesTotally sdk rawEvent) ∧
    ¬ ParsesTotally plainSdk addedSymbol ∧ ¬ ParsesTotally plainSdk namedToString ∧
    ∀ (handler : EventHandler) (s s' : WatchState), s.rpc = wholeServer [addedSymbol] 5 →
      s.watcher.contractIds = ["C"] → s.watcher.liveLedger = some 5 →
      Task.Rounds watchHost (Steady WithinRetention) (EventWatcher.poll plainSdk handler) s s' →
      s'.watcher.liveLedger = some 5 := by
  have hadded : addedSymbol.recognized = some ⟨.providerAdded, "C", .symbol "P", []⟩ := rfl
  have hnamed : namedToString.recognized = some ⟨.inherited "toString", "C", .xdr "P", []⟩ := rfl
  have hthrows : ¬ plainSdk.Decodes addedSymbol := by
    intro h
    obtain ⟨address, haddress⟩ := h _ hadded
    cases haddress
  have hfirst : ¬ ParsesTotally plainSdk addedSymbol := fun h => hthrows (parsesTotally_iff.mp h).1
  refine ⟨fun h => hfirst (h _ _), hfirst, fun h => ?_, fun handler s s' hrpc hids hlive h => ?_⟩
  · exact (parsesTotally_iff.mp h).2 ⟨_, "toString", hnamed, rfl⟩
  · have hmalformed : Malformed plainSdk (wholeServer [addedSymbol] 5) ["C"] 5 := by
      refine ⟨[⟨["C"]⟩], by decide, fun now page hpage => ⟨addedSymbol, ?_, hthrows⟩⟩
      have hevents : page = ⟨[addedSymbol], 5⟩ := (Except.ok.inj hpage).symm
      simp [hevents]
    exact (polls_held plainSdk_within hmalformed ⟨hrpc, hids, hlive⟩ h).liveLedger

end ProviderPlatform
