import ProviderPlatform.EventWatcher.Fetching

/-! # Fetching from a server that pages

The server answers from one history, with at most `limit` events a response
and the newest ledger it knows. A fetch reads one page of each batch and never
asks for the next one, so what lies beyond a page is lost unless a later fetch
starts below it. -/
namespace ProviderPlatform
open Async Task

/-! ## The server -/

/-- Whether one of the contracts emitted the event. -/
def emittedBy (contractIds : List ContractId) (rawEvent : RawEvent) : Bool :=
  rawEvent.contractId.any fun contractId => decide (contractId ∈ contractIds)

/-- The events of some contracts in a range of ledgers. -/
def eventsIn (history : List RawEvent) (contractIds : List ContractId)
    (startLedger latestLedger : Ledger) : List RawEvent :=
  history.filter fun rawEvent => emittedBy contractIds rawEvent &&
    decide (startLedger ≤ rawEvent.ledger ∧ rawEvent.ledger ≤ latestLedger)

/-- A server that answers with the first page of what it knows. -/
structure PagedServer (history : List RawEvent) (limit : Nat) (rpc : Time → RpcView) : Prop where
  ordered : history.Pairwise fun a b => a.ledger ≤ b.ledger
  getEvents : ∀ now startLedger filters, (rpc now).getEvents startLedger filters = .ok {
    events :=
      (eventsIn history (askedFor filters) startLedger (rpc now).latestLedger).take limit
    latestLedger := (rpc now).latestLedger }

namespace RpcCall
variable (history : List RawEvent) (limit : Nat) (rpc : Time → RpcView) (startLedger : Ledger)

/-- What the server knows that a call asks for. -/
def answerable (call : RpcCall) : List RawEvent :=
  eventsIn history (askedFor call.filters) startLedger (rpc call.answeredAt).latestLedger

/-- The page the call returns. -/
def page (call : RpcCall) : List RawEvent :=
  (call.answerable history rpc startLedger).take limit

/-- What the call leaves for the next page. -/
def beyondPage (call : RpcCall) : List RawEvent :=
  (call.answerable history rpc startLedger).drop limit

end RpcCall

/-! ## The claim about a fetch -/

/-- The event of a well-formed channel-auth event. -/
def channelAuthEvent (sdk : Sdk) (rawEvent : RawEvent) : Option ChannelAuthEvent :=
  (parsedEvent sdk rawEvent).filter (·.type.isKnown)

/-- The fetch returns, with every well-formed event of the contracts from the
start ledger to the latest ledger it returns. -/
def FetchComplete (sdk : Sdk) (history : List RawEvent) (contractIds : List ContractId)
    (startLedger : Ledger) (bs : List (Beat WatchErr)) (s : WatchState) : Prop :=
  ∃ events latestLedger,
    ((fetchChannelAuthEvents sdk contractIds startLedger).eval watchHost bs s).1 =
      some (.ok (events, latestLedger)) ∧
    ((eventsIn history contractIds startLedger latestLedger).filterMap
      (channelAuthEvent sdk)).Subperm events

/-! ## What a fetch returns -/

section Fetch
variable {sdk : Sdk} {history : List RawEvent} {limit : Nat} {rpc : Time → RpcView}
variable {startLedger : Ledger}

/-- The page of a server that pages. -/
theorem PagedServer.answer (hrpc : PagedServer history limit rpc) (call : RpcCall) :
    call.answer rpc startLedger =
      .ok ⟨call.page history limit rpc startLedger, (rpc call.answeredAt).latestLedger⟩ :=
  hrpc.getEvents call.answeredAt startLedger call.filters

/-- A fetch of some contracts returns exactly if every page parses: the parsed
pages by ledger, and the least of the latest ledgers. -/
theorem fetchChannelAuthEvents_eval (sdk : Sdk) (startLedger : Ledger)
    (hrpc : PagedServer history limit rpc) {contractIds : List ContractId}
    (hids : contractIds ≠ []) {bs : List (Beat WatchErr)} {s : WatchState} (hs : s.rpc = rpc)
    (hb : ∀ b ∈ bs, Beat.Serves b) (fetched : List ChannelAuthEvent × Ledger)
    {calls : List RpcCall} (hcalls : calls = fetchCalls contractIds bs s.clock) :
    ((fetchChannelAuthEvents sdk contractIds startLedger).eval watchHost bs s).1 =
        some (.ok fetched) ↔
      (∀ call ∈ calls, ∀ rawEvent ∈ call.page history limit rpc startLedger,
        Parses sdk rawEvent) ∧
      fetched = (sortByLedger (calls.flatMap fun call =>
          (call.page history limit rpc startLedger).filterMap (parsedEvent sdk)),
        leastLatest startLedger (calls.map fun call => (rpc call.answeredAt).latestLedger)) := by
  let pageOf (call : RpcCall) : EventsPage :=
    ⟨call.page history limit rpc startLedger, (rpc call.answeredAt).latestLedger⟩
  have hserved : ∀ b ∈ bs.take (buildEventFilterBatches contractIds).length, Beat.Serves b :=
    fun b hm => hb b (List.mem_of_mem_take hm)
  have hanswers : calls.map (·.answer rpc startLedger) = (calls.map pageOf).map .ok := by
    rw [List.map_map]
    exact List.map_congr_left fun call _ => hrpc.answer call
  rw [fetch_eval_eq_ok sdk startLedger hids, ← hcalls, hs, hanswers]
  constructor
  · rintro ⟨-, pages, hpages, hall, rfl⟩
    obtain rfl : calls.map pageOf = pages := List.map_injective_iff.mpr (fun _ _ => Except.ok.inj) hpages
    rw [List.flatMap_map, List.map_map]
    exact ⟨List.forall_mem_map.mp hall, rfl⟩
  · rintro ⟨hall, rfl⟩
    refine ⟨hserved, calls.map pageOf, rfl, List.forall_mem_map.mpr hall, ?_⟩
    rw [List.flatMap_map, List.map_map]
    rfl

end Fetch

/-! ## Dividing the history among the calls -/

theorem filter_or_perm {α : Type} {p q : α → Bool} {l : List α}
    (h : ∀ a ∈ l, p a = true → q a = false) :
    (l.filter fun a => p a || q a).Perm (l.filter p ++ l.filter q) := by
  induction l with
  | nil => exact List.Perm.refl _
  | cons a l ih =>
    obtain ⟨ha, hl⟩ := List.forall_mem_cons.mp h
    have ih := ih hl
    cases hp : p a with
    | true => simpa [hp, ha hp] using ih
    | false =>
      cases hq : q a with
      | true => simpa [hp, hq] using (ih.cons a).trans List.perm_middle.symm
      | false => simpa [hp, hq] using ih

theorem emittedBy_append (ids ids' : List ContractId) (rawEvent : RawEvent) :
    emittedBy (ids ++ ids') rawEvent = (emittedBy ids rawEvent || emittedBy ids' rawEvent) := by
  cases h : rawEvent.contractId with
  | none => simp [emittedBy, h]
  | some c => simp [emittedBy, h]

/-- Every event of the contracts is asked for by one of the calls, and by no
other. -/
theorem eventsIn_perm (history : List RawEvent) {calls : List RpcCall}
    (h : (calls.flatMap fun call => askedFor call.filters).Nodup) (startLedger latest : Ledger) :
    (eventsIn history (calls.flatMap fun call => askedFor call.filters) startLedger latest).Perm
      (calls.flatMap fun call => eventsIn history (askedFor call.filters) startLedger latest) := by
  induction calls with
  | nil =>
    have hnone : ∀ rawEvent, emittedBy [] rawEvent = false := fun rawEvent => by
      cases hc : rawEvent.contractId with
      | none => simp [emittedBy, hc]
      | some c => simp [emittedBy, hc]
    simp [eventsIn, hnone]
  | cons call calls ih =>
    rw [List.flatMap_cons, List.nodup_append] at h
    obtain ⟨-, hrest, hdisjoint⟩ := h
    rw [List.flatMap_cons, List.flatMap_cons]
    refine List.Perm.trans ?_ ((ih hrest).append_left _)
    simp only [eventsIn, emittedBy_append, Bool.and_or_distrib_right]
    apply filter_or_perm
    intro rawEvent _ hfirst
    cases hc : rawEvent.contractId with
    | none => simp [emittedBy, hc]
    | some c =>
      have hmem : c ∈ askedFor call.filters := by
        simp only [emittedBy, hc, Option.any_some, Bool.and_eq_true, decide_eq_true_eq] at hfirst
        exact hfirst.1
      have hnot : c ∉ calls.flatMap fun call => askedFor call.filters :=
        fun hm => hdisjoint c hmem c hm rfl
      have hout : emittedBy (calls.flatMap fun call => askedFor call.filters) rawEvent = false := by
        rw [emittedBy, hc, Option.any_some, decide_eq_false hnot]
      rw [hout, Bool.false_and]

/-- The well-formed events of a list up to a ledger. -/
def eventsUpTo (sdk : Sdk) (latest : Ledger) (rawEvents : List RawEvent) : List ChannelAuthEvent :=
  (rawEvents.filter fun rawEvent => decide (rawEvent.ledger ≤ latest)).filterMap
    (channelAuthEvent sdk)

theorem eventsUpTo_append (sdk : Sdk) (latest : Ledger) (xs ys : List RawEvent) :
    eventsUpTo sdk latest (xs ++ ys) = eventsUpTo sdk latest xs ++ eventsUpTo sdk latest ys := by
  simp [eventsUpTo]

theorem channelAuthEvent_eq_some {sdk : Sdk} {rawEvent : RawEvent} {event : ChannelAuthEvent}
    (h : channelAuthEvent sdk rawEvent = some event) :
    event.type.isKnown = true ∧ event.ledger = rawEvent.ledger := by
  obtain ⟨hparsed, hknown⟩ := Option.filter_eq_some_iff.mp h
  exact ⟨hknown, parsedEvent_ledger hparsed⟩

/-- They are what a filter of the parsed list finds. -/
theorem filter_parsed (sdk : Sdk) (latest : Ledger) (rawEvents : List RawEvent) :
    (rawEvents.filterMap (parsedEvent sdk)).filter
        (fun event => event.type.isKnown && decide (event.ledger ≤ latest)) =
      eventsUpTo sdk latest rawEvents := by
  rw [eventsUpTo, List.filter_filterMap, List.filterMap_filter]
  apply List.filterMap_congr
  intro rawEvent _
  cases hparsed : parsedEvent sdk rawEvent with
  | none => simp [channelAuthEvent, hparsed]
  | some event =>
    have hledger := parsedEvent_ledger hparsed
    by_cases hle : rawEvent.ledger ≤ latest
    · simp [channelAuthEvent, hparsed, Option.filter_some, hledger, hle]
    · simp [Option.filter_some, hledger, hle]

/-- What the events of a range parse to. -/
theorem parsed_eventsIn (sdk : Sdk) (history : List RawEvent) (contractIds : List ContractId)
    (startLedger latestLedger : Ledger) :
    (eventsIn history contractIds startLedger latestLedger).filterMap (parsedEvent sdk) =
      ((history.filter (emittedBy contractIds)).filterMap (parsedEvent sdk)).filter
        fun event => decide (startLedger ≤ event.ledger ∧ event.ledger ≤ latestLedger) := by
  rw [eventsIn, List.filter_filterMap, List.filterMap_filter, List.filterMap_filter]
  apply List.filterMap_congr
  intro rawEvent _
  cases hemitted : emittedBy contractIds rawEvent with
  | false => simp
  | true =>
    cases hparsed : parsedEvent sdk rawEvent with
    | none => simp
    | some event =>
      have hledger := parsedEvent_ledger hparsed
      by_cases hin : startLedger ≤ rawEvent.ledger ∧ rawEvent.ledger ≤ latestLedger
      · simp [Option.filter_some, hledger, hin]
      · simp [Option.filter_some, hledger, hin]

/-- Up to a ledger the server had reached, a call is asked for exactly its part
of the history. -/
theorem eventsUpTo_answerable (sdk : Sdk) (history : List RawEvent) (rpc : Time → RpcView)
    (startLedger : Ledger) {latest : Ledger} {call : RpcCall}
    (h : latest ≤ (rpc call.answeredAt).latestLedger) :
    eventsUpTo sdk latest (call.answerable history rpc startLedger) =
      (eventsIn history (askedFor call.filters) startLedger latest).filterMap
        (channelAuthEvent sdk) := by
  rw [eventsUpTo, RpcCall.answerable, eventsIn, eventsIn, List.filter_filter]
  congr 1
  apply List.filter_congr
  intro rawEvent _
  by_cases hle : rawEvent.ledger ≤ latest
  · have hle' : rawEvent.ledger ≤ (rpc call.answeredAt).latestLedger := le_trans hle h
    simp [hle, hle']
  · simp [hle]

section Complete
variable (sdk : Sdk) (history : List RawEvent) (limit : Nat) {rpc : Time → RpcView}
variable (startLedger : Ledger) {latest : Ledger} {calls : List RpcCall}

/-- What a fetch should return is what the pages hold and what lies beyond
them. -/
theorem expected_perm (hids : (calls.flatMap fun call => askedFor call.filters).Nodup)
    (hlatest : ∀ call ∈ calls, latest ≤ (rpc call.answeredAt).latestLedger) :
    ((eventsIn history (calls.flatMap fun call => askedFor call.filters) startLedger
        latest).filterMap (channelAuthEvent sdk)).Perm
      ((calls.flatMap fun call => eventsUpTo sdk latest (call.page history limit rpc startLedger)) ++
        calls.flatMap fun call =>
          eventsUpTo sdk latest (call.beyondPage history limit rpc startLedger)) := by
  have hsplit : ∀ call ∈ calls,
      (eventsIn history (askedFor call.filters) startLedger latest).filterMap
          (channelAuthEvent sdk) =
        eventsUpTo sdk latest (call.page history limit rpc startLedger) ++
          eventsUpTo sdk latest (call.beyondPage history limit rpc startLedger) := by
    intro call hcall
    rw [← eventsUpTo_append, RpcCall.page, RpcCall.beyondPage, List.take_append_drop,
      eventsUpTo_answerable sdk history rpc startLedger (hlatest call hcall)]
  have hperm := (eventsIn_perm history hids startLedger latest).filterMap (channelAuthEvent sdk)
  rw [List.filterMap_flatMap] at hperm
  refine hperm.trans ?_
  rw [List.flatMap_congr hsplit]
  exact (List.flatMap_append_perm _ _ _).symm

theorem eventsUpTo_eq_nil {sdk : Sdk} {latest : Ledger} {rawEvents : List RawEvent} :
    eventsUpTo sdk latest rawEvents = [] ↔
      ∀ rawEvent ∈ rawEvents, (channelAuthEvent sdk rawEvent).isSome → latest < rawEvent.ledger := by
  simp only [eventsUpTo, List.filterMap_eq_nil_iff, List.mem_filter, decide_eq_true_eq, and_imp]
  refine forall₂_congr fun rawEvent _ => ?_
  rw [← Option.not_isSome_iff_eq_none, ← not_le]
  exact not_imp_not.symm.trans (by rw [not_not])

/-- The pages hold all that is expected exactly if nothing expected lies beyond
them. -/
theorem expected_subperm_iff (hids : (calls.flatMap fun call => askedFor call.filters).Nodup)
    (hlatest : ∀ call ∈ calls, latest ≤ (rpc call.answeredAt).latestLedger) :
    ((eventsIn history (calls.flatMap fun call => askedFor call.filters) startLedger
        latest).filterMap (channelAuthEvent sdk)).Subperm
      (calls.flatMap fun call =>
        (call.page history limit rpc startLedger).filterMap (parsedEvent sdk)) ↔
    ∀ call ∈ calls, ∀ rawEvent ∈ call.beyondPage history limit rpc startLedger,
      (channelAuthEvent sdk rawEvent).isSome → latest < rawEvent.ledger := by
  have hexpected := expected_perm sdk history limit startLedger hids hlatest
  let due : ChannelAuthEvent → Bool := fun event =>
    event.type.isKnown && decide (event.ledger ≤ latest)
  have hkept : (calls.flatMap fun call =>
      (call.page history limit rpc startLedger).filterMap (parsedEvent sdk)).filter due =
      calls.flatMap fun call => eventsUpTo sdk latest (call.page history limit rpc startLedger) := by
    rw [List.filter_flatMap]
    exact List.flatMap_congr fun call _ => filter_parsed sdk latest _
  have hlost : (calls.flatMap fun call =>
      eventsUpTo sdk latest (call.beyondPage history limit rpc startLedger)) = [] ↔
      ∀ call ∈ calls, ∀ rawEvent ∈ call.beyondPage history limit rpc startLedger,
        (channelAuthEvent sdk rawEvent).isSome → latest < rawEvent.ledger := by
    rw [List.flatMap_eq_nil_iff]
    exact forall₂_congr fun call _ => eventsUpTo_eq_nil
  rw [← hlost]
  constructor
  · intro hsub
    have hall : ∀ event ∈ (eventsIn history (calls.flatMap fun call => askedFor call.filters)
        startLedger latest).filterMap (channelAuthEvent sdk), due event = true := by
      intro event hevent
      obtain ⟨rawEvent, hraw, hauth⟩ := List.mem_filterMap.mp hevent
      obtain ⟨hknown, hledger⟩ := channelAuthEvent_eq_some hauth
      have hle : rawEvent.ledger ≤ latest := by
        have hin := (List.mem_filter.mp hraw).2
        simp only [Bool.and_eq_true, decide_eq_true_eq] at hin
        exact hin.2.2
      simp [due, hknown, hledger, hle]
    have hlength := (hsub.filter due).length_le
    rw [hkept, List.filter_eq_self.mpr hall, hexpected.length_eq, List.length_append] at hlength
    exact List.length_eq_zero_iff.mp (by omega)
  · intro hnil
    rw [hnil, List.append_nil, ← hkept] at hexpected
    exact hexpected.subperm.trans List.filter_sublist.subperm

end Complete

/-! ## The claim -/

/-- Without contracts there is nothing to miss. -/
theorem fetchComplete_nil (sdk : Sdk) (history : List RawEvent) (startLedger : Ledger)
    (bs : List (Beat WatchErr)) (s : WatchState) :
    FetchComplete sdk history [] startLedger bs s := by
  refine ⟨[], startLedger - 1, rfl, ?_⟩
  have hnone : ∀ rawEvent, emittedBy [] rawEvent = false := fun rawEvent => by
    cases hc : rawEvent.contractId with
    | none => simp [emittedBy, hc]
    | some c => simp [emittedBy, hc]
  simp [eventsIn, hnone]

/-- **When a fetch misses nothing.** For every history, page limit and set of
contracts, the fetch returns every well-formed event up to the latest ledger it
returns exactly if no event on its pages makes a decoder throw, and each
well-formed event beyond a page is later than the newest ledger the server knew
at one of the calls. -/
theorem fetch_complete_iff {sdk : Sdk} {history : List RawEvent} {limit : Nat}
    {contractIds : List ContractId} {startLedger : Ledger} {bs : List (Beat WatchErr)}
    {s : WatchState} (hrpc : PagedServer history limit s.rpc) (hids : contractIds.Nodup)
    (hb : ∀ b ∈ bs, Beat.Serves b) :
    FetchComplete sdk history contractIds startLedger bs s ↔
      ∀ call ∈ fetchCalls contractIds bs s.clock,
        (∀ rawEvent ∈ call.page history limit s.rpc startLedger, Parses sdk rawEvent) ∧
        ∀ rawEvent ∈ call.beyondPage history limit s.rpc startLedger,
          (channelAuthEvent sdk rawEvent).isSome →
          ∃ call' ∈ fetchCalls contractIds bs s.clock,
            (s.rpc call'.answeredAt).latestLedger < rawEvent.ledger := by
  by_cases hnil : contractIds = []
  · subst hnil
    constructor
    · intro _ call hcall
      cases hcall
    · exact fun _ => fetchComplete_nil sdk history startLedger bs s
  obtain ⟨calls, hcalls⟩ : ∃ calls, calls = fetchCalls contractIds bs s.clock := ⟨_, rfl⟩
  obtain ⟨latest, hleast⟩ : ∃ latest, latest = leastLatest startLedger
      (calls.map fun call => (s.rpc call.answeredAt).latestLedger) := ⟨_, rfl⟩
  have hasked : (calls.flatMap fun call => askedFor call.filters) = contractIds := by
    rw [hcalls, fetchCalls_askedFor]
  have hne : calls.map (fun call => (s.rpc call.answeredAt).latestLedger) ≠ [] := by
    rw [hcalls]
    simpa using fetchCalls_ne_nil hnil bs s.clock
  have hle : ∀ ledger, ledger ≤ latest ↔
      ∀ call ∈ calls, ledger ≤ (s.rpc call.answeredAt).latestLedger := by
    intro ledger
    rw [hleast, le_leastLatest hne, List.forall_mem_map]
  have hlt : ∀ ledger, latest < ledger ↔
      ∃ call ∈ calls, (s.rpc call.answeredAt).latestLedger < ledger := by
    intro ledger
    rw [← not_le, hle]
    push Not
    rfl
  have hsub := expected_subperm_iff sdk history limit startLedger (hasked ▸ hids)
    ((hle latest).mp le_rfl)
  rw [hasked] at hsub
  have heval := fun fetched =>
    fetchChannelAuthEvents_eval sdk startLedger hrpc hnil rfl hb fetched hcalls
  simp only [hlt] at hsub
  rw [← hcalls]
  constructor
  · rintro ⟨events, latestLedger, hreturn, hexpected⟩
    obtain ⟨hparses, hfetched⟩ := (heval _).mp hreturn
    obtain ⟨hevents, hlatest⟩ := Prod.mk.inj hfetched
    rw [← hleast] at hlatest
    rw [hlatest, hevents] at hexpected
    have hbeyond := hsub.mp (hexpected.trans (sortByLedger_perm _).subperm)
    exact fun call hcall => ⟨hparses call hcall, hbeyond call hcall⟩
  · intro hall
    have hreturn := (heval _).mpr ⟨fun call hcall => (hall call hcall).1, rfl⟩
    have hexpected := hsub.mpr fun call hcall => (hall call hcall).2
    refine ⟨_, _, hreturn, ?_⟩
    rw [← hleast]
    exact hexpected.trans (sortByLedger_perm _).symm.subperm

/-! ## A server that does not page -/

/-- The server answers a call exactly: the events of its contracts from the
start ledger to the latest, once each, in any order. -/
def ExactServer (history : List RawEvent) (rpc : Time → RpcView) : Prop :=
  ∀ now startLedger filters page, (rpc now).getEvents startLedger filters = .ok page →
    startLedger - 1 ≤ page.latestLedger ∧
    page.events.Perm (eventsIn history (askedFor filters) startLedger page.latestLedger)

/-- The parsed events of some contracts. -/
def eventsOf (sdk : Sdk) (history : List RawEvent) (contractIds : List ContractId) :
    List ChannelAuthEvent :=
  (history.filter (emittedBy contractIds)).filterMap (parsedEvent sdk)

/-- A server that has stopped at a ledger and returns all it knows. -/
def wholeServer (history : List RawEvent) (latestLedger : Ledger) (_ : Time) : RpcView where
  latestLedger := latestLedger
  oldestLedger := 0
  getEvents startLedger filters :=
    if startLedger ≤ latestLedger + 1 then
      .ok ⟨eventsIn history (askedFor filters) startLedger latestLedger, latestLedger⟩
    else .error ⟨"start is after newest ledger"⟩

theorem wholeServer_exact (history : List RawEvent) (latestLedger : Ledger) :
    ExactServer history (wholeServer history latestLedger) := by
  intro now startLedger filters page h
  simp only [wholeServer] at h
  split at h
  · rename_i hle
    cases h
    exact ⟨Int.sub_right_le_of_le_add hle, List.Perm.refl _⟩
  · cases h

/-! ## A page of one event -/

/-- A server that has stopped at a ledger. -/
def pagedServer (history : List RawEvent) (limit : Nat) (latestLedger : Ledger) (_ : Time) :
    RpcView where
  latestLedger := latestLedger
  oldestLedger := 0
  getEvents startLedger filters :=
    .ok ⟨(eventsIn history (askedFor filters) startLedger latestLedger).take limit, latestLedger⟩

theorem pagedServer_paged {history : List RawEvent}
    (h : history.Pairwise fun a b => a.ledger ≤ b.ledger) (limit : Nat) (latestLedger : Ledger) :
    PagedServer history limit (pagedServer history limit latestLedger) :=
  ⟨h, fun _ _ _ => rfl⟩

/-- Two providers join one council, a ledger apart. -/
def twoJoin : List RawEvent := [rawProviderAdded "C" "P" 5, rawProviderAdded "C" "Q" 6]

/-- With pages of two events nothing is missed. -/
theorem fetch_complete_iff_twoJoin :
    FetchComplete plainSdk twoJoin ["C"] 1 []
      (.boot (pagedServer twoJoin 2 10) (.new ["C"] none)) := by
  have hcalls : fetchCalls ["C"] [] 0 = [⟨[⟨["C"]⟩], 0⟩] := rfl
  have hpage : parseEvents plainSdk twoJoin = .ok [⟨.providerAdded, "P", 5, "C", none, none, none⟩,
      ⟨.providerAdded, "Q", 6, "C", none, none, none⟩] := by decide +kernel
  apply (fetch_complete_iff (pagedServer_paged (by decide) 2 10) (by decide) (by simp)).mpr
  intro call hcall
  rw [show (WatchState.boot (pagedServer twoJoin 2 10) (.new ["C"] none)).clock = 0 from rfl,
    hcalls, List.mem_singleton] at hcall
  subst hcall
  constructor
  · exact (parseEvents_eq_ok.mp hpage).1
  · intro rawEvent hbeyond
    cases hbeyond

/-- With pages of one event the fetch returns the latest ledger 10 and only the
first of the two events. -/
theorem twoJoin_misses :
    PagedServer twoJoin 1 (pagedServer twoJoin 1 10) ∧
    ((fetchChannelAuthEvents plainSdk ["C"] 1).eval watchHost []
      (.boot (pagedServer twoJoin 1 10) (.new ["C"] none))).1 =
        some (.ok ([⟨.providerAdded, "P", 5, "C", none, none, none⟩], 10)) ∧
    ¬ FetchComplete plainSdk twoJoin ["C"] 1 []
      (.boot (pagedServer twoJoin 1 10) (.new ["C"] none)) := by
  have hreturn : ((fetchChannelAuthEvents plainSdk ["C"] 1).eval watchHost []
      (.boot (pagedServer twoJoin 1 10) (.new ["C"] none))).1 =
        some (.ok ([⟨.providerAdded, "P", 5, "C", none, none, none⟩], 10)) := by decide +kernel
  refine ⟨pagedServer_paged (by decide) 1 10, hreturn, ?_⟩
  rintro ⟨events, latestLedger, hreturn', hexpected⟩
  cases hreturn.symm.trans hreturn'
  have hlength := hexpected.length_le
  revert hlength
  decide

end ProviderPlatform
