import ProviderPlatform.EventWatcher.Host

/-! # Fetching events

`parseRawEvent` and `fetchChannelAuthEvents`: the contracts are asked for in
batches, every batch from the same ledger, and only the first page of each
answer is read. -/
namespace ProviderPlatform
open Async

/-! ## Parsing -/

/-- The names that every object inherits. -/
def objectProperties : List String :=
  ["constructor", "__defineGetter__", "__defineSetter__", "hasOwnProperty", "__lookupGetter__",
    "__lookupSetter__", "isPrototypeOf", "propertyIsEnumerable", "toString", "valueOf",
    "toLocaleString"]

/-- `KNOWN_TOPICS[name]`, if `name in KNOWN_TOPICS`. -/
def knownTopic (name : String) : Option ChannelAuthEventType :=
  if name = "contract_initialized" then some .contractInitialized
  else if name = "provider_added" then some .providerAdded
  else if name = "provider_removed" then some .providerRemoved
  else if name = "channel_state_changed" then some .channelStateChanged
  else if name ∈ objectProperties then some (.inherited name)
  else none

def decodeTopicSymbol : ScVal → Option String
  | .symbol name => some name
  | .xdr _ => none

/-- Parse a raw event; `none` if it is not a known or well-formed one. The
decoders may throw. -/
def parseRawEvent (sdk : Sdk) (rawEvent : RawEvent) : Except WatchErr (Option ChannelAuthEvent) :=
  match rawEvent.topic with
  | some (topic :: address :: topics) =>
    match (decodeTopicSymbol topic).bind knownTopic, rawEvent.contractId.filter (· != "") with
    | some eventType, some contractId =>
      if eventType = .channelStateChanged then
        match topics with
        | [] => .ok none
        | third :: _ => do
          let channel ← sdk.addressFromScVal address
          let asset ← sdk.addressFromScVal third
          let enabled ← sdk.scValToBoolean rawEvent.value
          pure (some {
            type := eventType
            address := channel
            channel := some channel
            asset := some asset
            enabled := some enabled
            ledger := rawEvent.ledger
            contractId := contractId })
      else do
        let address ← sdk.addressFromScVal address
        pure (some {
          type := eventType
          address := address
          ledger := rawEvent.ledger
          contractId := contractId })
    | _, _ => .ok none
  | _ => .ok none

/-- The events of a response that parse; the first throw ends it. -/
def parseEvents (sdk : Sdk) : List RawEvent → Except WatchErr (List ChannelAuthEvent)
  | [] => .ok []
  | rawEvent :: rawEvents => do
    let event ← parseRawEvent sdk rawEvent
    let events ← parseEvents sdk rawEvents
    pure (event.toList ++ events)

/-! ## Filters -/

def maxContractIdsPerFilter : Nat := 5
def maxFiltersPerCall : Nat := 5
def maxContractIdsPerCall : Nat := maxContractIdsPerFilter * maxFiltersPerCall

/-- The chunks of a list, at most so many. -/
def chunks {α : Type} (size : Nat) : Nat → List α → List (List α)
  | 0, _ | _, [] => []
  | n + 1, items => items.take size :: chunks size n (items.drop size)

/-- Split a list into chunks of a size; the last may be shorter. -/
def chunk {α : Type} (items : List α) (size : Nat) : List (List α) :=
  chunks size items.length items

/-- The `filters` of each `getEvents` call for a set of contracts. -/
def buildEventFilterBatches (contractIds : List ContractId) : List (List EventFilter) :=
  chunk ((chunk contractIds maxContractIdsPerFilter).map EventFilter.mk) maxFiltersPerCall

/-! ## Fetching -/

/-- Events in the order of their ledgers; the sort is stable. -/
def sortByLedger (events : List ChannelAuthEvent) : List ChannelAuthEvent :=
  events.insertionSort fun a b => a.ledger ≤ b.ledger

/-- One call: the parsed events of the page and the latest ledger. -/
def fetchBatch (sdk : Sdk) (startLedger : Ledger) (filters : List EventFilter) :
    WatchPromise (List ChannelAuthEvent × Ledger) := do
  let response : EventsPage ← watchCall (.getEvents startLedger filters)
  let parsed ← Task.done (I := watching) (parseEvents sdk response.events)
  pure (parsed, response.latestLedger)

/-- `Math.min` over the responses, of which there is at least one. -/
def leastLatest (startLedger : Ledger) : List Ledger → Ledger
  | [] => startLedger - 1
  | latestLedger :: latestLedgers => latestLedgers.foldl min latestLedger

/-- Fetches the events of the contracts from a ledger on, and the latest ledger
it is safe to advance the cursor past. -/
def fetchChannelAuthEvents (sdk : Sdk) (contractIds : List ContractId) (startLedger : Ledger) :
    WatchPromise (List ChannelAuthEvent × Ledger) :=
  if contractIds.isEmpty then pure ([], startLedger - 1)
  else do
    let responses ← Task.collect (I := watching) (fetchBatch sdk startLedger)
      (buildEventFilterBatches contractIds)
    pure (sortByLedger (responses.flatMap (·.1)), leastLatest startLedger (responses.map (·.2)))

/-- A fetch runs no operation. -/
theorem fetchChannelAuthEvents_uses {okOp : WatchOp → Prop} (sdk : Sdk)
    (contractIds : List ContractId) (startLedger : Ledger) :
    (fetchChannelAuthEvents sdk contractIds startLedger).Uses okOp fun _ => True := by
  unfold fetchChannelAuthEvents
  split
  · exact .pure _
  · apply Task.Uses.bind
    · apply Task.Uses.collect
      intro filters _
      apply Task.Uses.bind (Task.Uses.call trivial)
      intro page
      apply Task.Uses.bind
      · exact trivial
      · exact fun _ => .pure _
    · exact fun _ => .pure _

/-! ## What a fetch is made of -/

/-- The event that a raw event parses to, if it parses to one. -/
def parsedEvent (sdk : Sdk) (rawEvent : RawEvent) : Option ChannelAuthEvent :=
  match parseRawEvent sdk rawEvent with
  | .ok event => event
  | .error _ => none

/-- The decoders do not throw on the raw event. -/
def Parses (sdk : Sdk) (rawEvent : RawEvent) : Prop :=
  ∃ event, parseRawEvent sdk rawEvent = .ok event

/-- A sequence of two computations returns what the second makes of the value
of the first. -/
theorem except_bind_eq_ok {ε α β : Type} {x : Except ε α} {f : α → Except ε β} {b : β} :
    (x >>= f) = .ok b ↔ ∃ a, x = .ok a ∧ f a = .ok b := by
  cases x with
  | error e =>
    constructor
    · intro h
      cases h
    · rintro ⟨a, ha, -⟩
      cases ha
  | ok a =>
    constructor
    · exact fun h => ⟨a, rfl, h⟩
    · rintro ⟨a', ha', h⟩
      cases ha'
      exact h

/-- A sequence throws what its first part throws, or its second. -/
theorem except_bind_eq_error {ε α β : Type} {x : Except ε α} {f : α → Except ε β} {e : ε}
    (h : (x >>= f) = .error e) : x = .error e ∨ ∃ a, x = .ok a ∧ f a = .error e := by
  cases x with
  | error e' =>
    cases h
    exact .inl rfl
  | ok a => exact .inr ⟨a, rfl, h⟩

/-- Parsing keeps the ledger and the contract. -/
theorem parseRawEvent_eq_some {sdk : Sdk} {rawEvent : RawEvent} {event : ChannelAuthEvent}
    (h : parseRawEvent sdk rawEvent = .ok (some event)) :
    event.ledger = rawEvent.ledger ∧ rawEvent.contractId = some event.contractId := by
  unfold parseRawEvent at h
  split at h
  · split at h
    · rename_i eventType contractId _ hcontract
      have hid : rawEvent.contractId = some contractId := (Option.filter_eq_some_iff.mp hcontract).1
      split at h
      · split at h
        · cases h
        · obtain ⟨channel, -, h⟩ := except_bind_eq_ok.mp h
          obtain ⟨asset, -, h⟩ := except_bind_eq_ok.mp h
          obtain ⟨enabled, -, h⟩ := except_bind_eq_ok.mp h
          cases h
          exact ⟨rfl, hid⟩
      · obtain ⟨address, -, h⟩ := except_bind_eq_ok.mp h
        cases h
        exact ⟨rfl, hid⟩
    · cases h
  · cases h

theorem parsedEvent_eq_some {sdk : Sdk} {rawEvent : RawEvent} {event : ChannelAuthEvent} :
    parsedEvent sdk rawEvent = some event ↔ parseRawEvent sdk rawEvent = .ok (some event) := by
  unfold parsedEvent
  cases parseRawEvent sdk rawEvent with
  | error e => simp
  | ok parsed => simp

theorem parsedEvent_ledger {sdk : Sdk} {rawEvent : RawEvent} {event : ChannelAuthEvent}
    (h : parsedEvent sdk rawEvent = some event) : event.ledger = rawEvent.ledger :=
  (parseRawEvent_eq_some (parsedEvent_eq_some.mp h)).1

/-- A response parses exactly if all of its events do, to what they parse to. -/
theorem parseEvents_eq_ok {sdk : Sdk} {rawEvents : List RawEvent}
    {events : List ChannelAuthEvent} :
    parseEvents sdk rawEvents = .ok events ↔
      (∀ rawEvent ∈ rawEvents, Parses sdk rawEvent) ∧
        events = rawEvents.filterMap (parsedEvent sdk) := by
  induction rawEvents generalizing events with
  | nil => simp [parseEvents, eq_comm]
  | cons rawEvent rawEvents ih =>
    rw [parseEvents, except_bind_eq_ok, List.forall_mem_cons, List.filterMap_cons]
    constructor
    · rintro ⟨event, hevent, h⟩
      obtain ⟨rest, hrest, h⟩ := except_bind_eq_ok.mp h
      obtain ⟨hall, rfl⟩ := ih.mp hrest
      cases h
      have hparsed : parsedEvent sdk rawEvent = event := by rw [parsedEvent, hevent]
      refine ⟨⟨⟨event, hevent⟩, hall⟩, ?_⟩
      rw [hparsed]
      cases event <;> rfl
    · rintro ⟨⟨⟨event, hevent⟩, hall⟩, rfl⟩
      have hparsed : parsedEvent sdk rawEvent = event := by rw [parsedEvent, hevent]
      refine ⟨event, hevent, except_bind_eq_ok.mpr ⟨_, ih.mpr ⟨hall, rfl⟩, ?_⟩⟩
      rw [hparsed]
      cases event <;> rfl

/-- The errors of the decoders. -/
structure Sdk.Throws (sdk : Sdk) (E : WatchErr → Prop) : Prop where
  address : ∀ value e, sdk.addressFromScVal value = .error e → E e
  boolean : ∀ value e, sdk.scValToBoolean value = .error e → E e

section Throws
variable {sdk : Sdk} {E : WatchErr → Prop} {e : WatchErr}

theorem Sdk.Throws.parseRawEvent (h : sdk.Throws E) {rawEvent : RawEvent}
    (he : parseRawEvent sdk rawEvent = .error e) : E e := by
  unfold ProviderPlatform.parseRawEvent at he
  split at he
  · split at he
    · split at he
      · split at he
        · cases he
        · rcases except_bind_eq_error he with he | ⟨channel, -, he⟩
          · exact h.address _ e he
          rcases except_bind_eq_error he with he | ⟨asset, -, he⟩
          · exact h.address _ e he
          rcases except_bind_eq_error he with he | ⟨enabled, -, he⟩
          · exact h.boolean _ e he
          cases he
      · rcases except_bind_eq_error he with he | ⟨address, -, he⟩
        · exact h.address _ e he
        cases he
    · cases he
  · cases he

theorem Sdk.Throws.parseEvents (h : sdk.Throws E) {rawEvents : List RawEvent}
    (he : parseEvents sdk rawEvents = .error e) : E e := by
  induction rawEvents with
  | nil => cases he
  | cons rawEvent rawEvents ih =>
    rcases except_bind_eq_error he with he | ⟨event, -, he⟩
    · exact h.parseRawEvent he
    rcases except_bind_eq_error he with he | ⟨events, -, he⟩
    · exact ih he
    cases he

end Throws

theorem sortByLedger_perm (events : List ChannelAuthEvent) : (sortByLedger events).Perm events :=
  List.perm_insertionSort _ events

theorem sortByLedger_ordered (events : List ChannelAuthEvent) :
    (sortByLedger events).Pairwise fun a b => a.ledger ≤ b.ledger := by
  have htotal : Std.Total fun a b : ChannelAuthEvent => a.ledger ≤ b.ledger :=
    ⟨fun a b => le_total a.ledger b.ledger⟩
  have htrans : IsTrans ChannelAuthEvent fun a b => a.ledger ≤ b.ledger :=
    ⟨fun _ _ _ hab hbc => le_trans hab hbc⟩
  exact List.pairwise_insertionSort _ events

/-- The events of one ledger stay in their order. -/
theorem sortByLedger_stable (events : List ChannelAuthEvent) (ledger : Ledger) :
    (sortByLedger events).filter (fun e => decide (e.ledger = ledger)) =
      events.filter fun e => decide (e.ledger = ledger) := by
  let ofLedger := events.filter fun e => decide (e.ledger = ledger)
  have hequal : ofLedger.Pairwise fun a b => a.ledger ≤ b.ledger := by
    refine List.Pairwise.imp_of_mem (fun ha hb _ => ?_)
      (List.pairwise_of_forall (R := fun _ _ => True) fun _ _ => trivial)
    have ha := of_decide_eq_true (List.mem_filter.mp ha).2
    have hb := of_decide_eq_true (List.mem_filter.mp hb).2
    exact (ha.trans hb.symm).le
  have hsub : ofLedger.Sublist (sortByLedger events) :=
    List.sublist_insertionSort hequal List.filter_sublist
  have hfilter : ofLedger.Sublist
      ((sortByLedger events).filter fun e => decide (e.ledger = ledger)) := by
    have hself : ofLedger.filter (fun e => decide (e.ledger = ledger)) = ofLedger :=
      List.filter_eq_self.mpr fun e he => (List.mem_filter.mp he).2
    rw [← hself]
    exact hsub.filter _
  have hlength := ((sortByLedger_perm events).filter fun e => decide (e.ledger = ledger)).length_eq
  exact (hfilter.eq_of_length hlength.symm).symm

/-- The latest ledger is no later than any response reports. -/
theorem le_leastLatest {startLedger ledger : Ledger} {latestLedgers : List Ledger}
    (h : latestLedgers ≠ []) :
    ledger ≤ leastLatest startLedger latestLedgers ↔ ∀ l ∈ latestLedgers, ledger ≤ l := by
  cases latestLedgers with
  | nil => exact absurd rfl h
  | cons latestLedger latestLedgers =>
    rw [leastLatest]
    clear h
    induction latestLedgers generalizing latestLedger with
    | nil => simp
    | cons l ls ih =>
      rw [List.foldl_cons, ih]
      simp [and_assoc]

/-! ## Batches -/

/-- The contracts some filters ask for. -/
def askedFor (filters : List EventFilter) : List ContractId := filters.flatMap (·.contractIds)

theorem chunks_flatten {α : Type} {size : Nat} (hsize : 0 < size) :
    ∀ (n : Nat) (items : List α), items.length ≤ n → (chunks size n items).flatten = items
  | 0, items, h => by
    have hnil : items = [] := List.length_eq_zero_iff.mp (Nat.le_zero.mp h)
    subst hnil
    rfl
  | n + 1, [], _ => rfl
  | n + 1, item :: items, h => by
    have hdrop : ((item :: items).drop size).length ≤ n := by
      simp only [List.length_drop, List.length_cons] at h ⊢
      omega
    have hcons : chunks size (n + 1) (item :: items) =
        (item :: items).take size :: chunks size n ((item :: items).drop size) := rfl
    rw [hcons, List.flatten_cons, chunks_flatten hsize n _ hdrop, List.take_append_drop]

theorem chunk_flatten {α : Type} (items : List α) {size : Nat} (hsize : 0 < size) :
    (chunk items size).flatten = items :=
  chunks_flatten hsize _ items le_rfl

/-- No chunk is empty, and none is too long. -/
theorem chunks_bounds {α : Type} {size : Nat} (hsize : 0 < size) : ∀ (n : Nat) (items : List α),
    ∀ c ∈ chunks size n items, 1 ≤ c.length ∧ c.length ≤ size
  | 0, _, _, h => nomatch h
  | _ + 1, [], _, h => nomatch h
  | n + 1, item :: items, c, h => by
    rcases List.mem_cons.mp h with rfl | h
    · rw [List.length_take, List.length_cons]
      omega
    · exact chunks_bounds hsize n _ c h

theorem chunk_bounds {α : Type} {items c : List α} {size : Nat} (hsize : 0 < size)
    (h : c ∈ chunk items size) : 1 ≤ c.length ∧ c.length ≤ size :=
  chunks_bounds hsize _ _ c h

theorem flatMap_askedFor (batches : List (List EventFilter)) :
    batches.flatMap askedFor = batches.flatten.flatMap (·.contractIds) := by
  induction batches with
  | nil => rfl
  | cons filters batches ih =>
    rw [List.flatMap_cons, ih, List.flatten_cons, List.flatMap_append, askedFor]

/-- The batches ask for the watched contracts, each once. -/
theorem askedFor_batches (contractIds : List ContractId) :
    (buildEventFilterBatches contractIds).flatMap askedFor = contractIds := by
  have hfilters : (chunk contractIds maxContractIdsPerFilter).flatten = contractIds :=
    chunk_flatten contractIds (by decide)
  rw [flatMap_askedFor, buildEventFilterBatches, chunk_flatten _ (by decide), List.flatMap_map,
    List.flatMap_id', hfilters]

/-- Each call has between 1 and 5 filters, and each of them between 1 and 5 contracts. -/
theorem batches_bounds {contractIds : List ContractId} {filters : List EventFilter}
    (h : filters ∈ buildEventFilterBatches contractIds) :
    (1 ≤ filters.length ∧ filters.length ≤ maxFiltersPerCall) ∧
    ∀ filter ∈ filters, 1 ≤ filter.contractIds.length ∧
      filter.contractIds.length ≤ maxContractIdsPerFilter := by
  refine ⟨chunk_bounds (by decide) h, fun filter hfilter => ?_⟩
  have hall : (buildEventFilterBatches contractIds).flatten =
      (chunk contractIds maxContractIdsPerFilter).map EventFilter.mk := chunk_flatten _ (by decide)
  have hmem : filter ∈ (chunk contractIds maxContractIdsPerFilter).map EventFilter.mk := by
    rw [← hall]
    exact List.mem_flatten.mpr ⟨filters, h, hfilter⟩
  obtain ⟨ids, hids, rfl⟩ := List.mem_map.mp hmem
  exact chunk_bounds (by decide) hids

theorem chunks_length_le {α : Type} {size : Nat} : ∀ (n : Nat) (items : List α) (k : Nat),
    items.length ≤ size * k → (chunks size n items).length ≤ k
  | 0, _, _, _ => Nat.zero_le _
  | _ + 1, [], _, _ => Nat.zero_le _
  | n + 1, item :: items, 0, h => by simp at h
  | n + 1, item :: items, k + 1, h => by
    have hdrop : ((item :: items).drop size).length ≤ size * k := by
      rw [List.length_drop]
      rw [Nat.mul_succ] at h
      omega
    exact Nat.succ_le_succ (chunks_length_le n _ k hdrop)

/-- A list that fits one chunk. -/
theorem chunk_eq_singleton {α : Type} {items : List α} {size : Nat} (hne : items ≠ [])
    (h : items.length ≤ size) : chunk items size = [items] := by
  cases items with
  | nil => exact absurd rfl hne
  | cons item items =>
    have hnil : ∀ n, chunks size n ([] : List α) = [] := fun n => by
      cases n with
      | zero => rfl
      | succ n => rfl
    rw [chunk, List.length_cons, chunks, List.take_of_length_le h, List.drop_eq_nil_of_le h, hnil]
    nofun

/-- Up to 25 contracts are asked for in one call. -/
theorem buildEventFilterBatches_single {contractIds : List ContractId} (hne : contractIds ≠ [])
    (h : contractIds.length ≤ maxContractIdsPerCall) :
    ∃ filters, buildEventFilterBatches contractIds = [filters] ∧ askedFor filters = contractIds := by
  have hasked := askedFor_batches contractIds
  have hchunks : (chunk contractIds maxContractIdsPerFilter).length ≤ maxFiltersPerCall :=
    chunks_length_le _ _ _ h
  have hfilters : (chunk contractIds maxContractIdsPerFilter).map EventFilter.mk ≠ [] := by
    intro hnil
    rw [buildEventFilterBatches, hnil] at hasked
    exact hne hasked.symm
  have hsingle : buildEventFilterBatches contractIds =
      [(chunk contractIds maxContractIdsPerFilter).map EventFilter.mk] := by
    rw [buildEventFilterBatches]
    exact chunk_eq_singleton hfilters (by rwa [List.length_map])
  rw [hsingle, List.flatMap_singleton] at hasked
  exact ⟨_, hsingle, hasked⟩

/-- A call returns the page the server answered with, parsed. -/
theorem fetchBatch_settles (sdk : Sdk) (startLedger : Ledger) (filters : List EventFilter)
    (rpc : Time → RpcView) :
    Task.Settles watchHost (fun _ => True) (fun s => s.rpc = rpc)
      (fetchBatch sdk startLedger filters)
      (fun response s => ∃ page, (rpc s.clock).getEvents startLedger filters = .ok page ∧
        response = (page.events.filterMap (parsedEvent sdk), page.latestLedger))
      fun _ => True := by
  apply Task.Settles.bind (B := fun (page : EventsPage) s =>
    (rpc s.clock).getEvents startLedger filters = .ok page)
  · apply Task.Settles.call
    · exact fun _ _ h => h
    · intro s hs
      have hserve : (watchServe (.getEvents startLedger filters) s) =
          ((rpc s.clock).getEvents startLedger filters, s) := by
        simp only [watchServe, WatchState.rpcNow, hs]
      simp only [watchHost]
      rw [hserve]
      cases hanswer : (rpc s.clock).getEvents startLedger filters with
      | error e => trivial
      | ok page => exact hanswer
    · exact fun _ _ _ _ _ => trivial
  · intro page
    apply Task.Settles.bind (B := fun events s =>
      (rpc s.clock).getEvents startLedger filters = .ok page ∧
        events = page.events.filterMap (parsedEvent sdk))
    · apply Task.Settles.done
      · exact fun events s hevents hpage => ⟨hpage, (parseEvents_eq_ok.mp hevents).2⟩
      · exact fun _ _ _ _ => trivial
    · intro events
      apply Task.Settles.pure
      rintro s ⟨hpage, rfl⟩
      exact ⟨page, hpage, rfl⟩

/-- A fetch in one call returns the page that the server answered with. -/
theorem fetchChannelAuthEvents_single (sdk : Sdk) (startLedger : Ledger)
    {contractIds : List ContractId} {filters : List EventFilter}
    (hbatches : buildEventFilterBatches contractIds = [filters]) (rpc : Time → RpcView) :
    Task.Settles watchHost (fun _ => True) (fun s => s.rpc = rpc)
      (fetchChannelAuthEvents sdk contractIds startLedger)
      (fun fetched s => ∃ page, (rpc s.clock).getEvents startLedger filters = .ok page ∧
        fetched.1.Perm (page.events.filterMap (parsedEvent sdk)) ∧
        fetched.2 = page.latestLedger)
      fun _ => True := by
  have hisEmpty : contractIds.isEmpty = false := by
    cases contractIds with
    | nil => cases hbatches
    | cons c cs => rfl
  rw [fetchChannelAuthEvents, hisEmpty, if_neg Bool.false_ne_true, hbatches]
  apply Task.Settles.bind (B := fun responses s => ∃ page,
    (rpc s.clock).getEvents startLedger filters = .ok page ∧
    responses = [(page.events.filterMap (parsedEvent sdk), page.latestLedger)])
  · apply Task.Settles.bind (fetchBatch_settles sdk startLedger filters rpc)
    intro response
    apply Task.Settles.pure
    rintro s ⟨page, hpage, rfl⟩
    exact ⟨page, hpage, rfl⟩
  · intro responses
    apply Task.Settles.pure
    rintro s ⟨page, hpage, rfl⟩
    refine ⟨page, hpage, ?_, rfl⟩
    rw [List.flatMap_singleton]
    exact sortByLedger_perm _

end ProviderPlatform
