import ProviderPlatform.EventWatcher.Service
import Mathlib.Order.MinMax
import Mathlib.Order.WithBot

/-! # What a fetch asks for and returns

A fetch makes its calls one after the other, from one ledger, and returns when
every call was served and answered with a page whose events all parse. What it
returns are those events, by ledger, and the least of the latest ledgers. -/
namespace ProviderPlatform
open Async Task

/-! ## The calls -/

/-- A `getEvents` call and the moment it is answered. -/
structure RpcCall where
  filters : List EventFilter
  answeredAt : Time

/-- The calls of some batches under a schedule. -/
def callsOf : List (List EventFilter) → List (Beat WatchErr) → Time → List RpcCall
  | [], _, _ => []
  | filters :: batches, bs, now =>
    let answeredAt := now + (bs.headD .calm).elapsed
    ⟨filters, answeredAt⟩ :: callsOf batches bs.tail answeredAt

/-- The calls of a fetch. -/
def fetchCalls (contractIds : List ContractId) (bs : List (Beat WatchErr)) (now : Time) :
    List RpcCall :=
  callsOf (buildEventFilterBatches contractIds) bs now

/-- What the server answers. -/
def RpcCall.answer (rpc : Time → RpcView) (startLedger : Ledger) (call : RpcCall) :
    Except WatchErr EventsPage := (rpc call.answeredAt).getEvents startLedger call.filters

/-- The step of a fetch that the call is. -/
def RpcCall.step (s : WatchState) (startLedger : Ledger) (call : RpcCall) :
    Step watching WatchState :=
  .served { s with clock := call.answeredAt } (.getEvents startLedger call.filters)

/-- The events of a page that parse to one. -/
def EventsPage.parsed (sdk : Sdk) (page : EventsPage) : List ChannelAuthEvent :=
  page.events.filterMap (parsedEvent sdk)

/-- No event of the page makes a decoder throw. -/
def EventsPage.Parses (sdk : Sdk) (page : EventsPage) : Prop :=
  ∀ rawEvent ∈ page.events, ProviderPlatform.Parses sdk rawEvent

theorem callsOf_filters (batches : List (List EventFilter)) (bs : List (Beat WatchErr))
    (now : Time) : (callsOf batches bs now).map (·.filters) = batches := by
  induction batches generalizing bs now with
  | nil => rfl
  | cons filters batches ih => rw [callsOf, List.map_cons, ih]

theorem fetchCalls_askedFor (contractIds : List ContractId) (bs : List (Beat WatchErr))
    (now : Time) :
    (fetchCalls contractIds bs now).flatMap (fun call => askedFor call.filters) = contractIds := by
  have hfilters := callsOf_filters (buildEventFilterBatches contractIds) bs now
  calc (fetchCalls contractIds bs now).flatMap (fun call => askedFor call.filters)
      = ((fetchCalls contractIds bs now).map (·.filters)).flatMap askedFor := by
        rw [List.flatMap_map]
    _ = contractIds := by rw [fetchCalls, hfilters, askedFor_batches]

theorem fetchCalls_ne_nil {contractIds : List ContractId} (h : contractIds ≠ [])
    (bs : List (Beat WatchErr)) (now : Time) : fetchCalls contractIds bs now ≠ [] := by
  intro hnil
  have hasked := fetchCalls_askedFor contractIds bs now
  rw [hnil] at hasked
  exact h hasked.symm

/-! ## One call -/

section Fetch
variable {sdk : Sdk} {startLedger : Ledger} {filters : List EventFilter}
  {batches : List (List EventFilter)} {contractIds : List ContractId} {bs : List (Beat WatchErr)}
  {s : WatchState} {call : RpcCall}

/-- A call that is served. -/
theorem getEvents_eval (hb : (bs.headD .calm).fate = .serve)
    (hcall : call = ⟨filters, s.clock + (bs.headD .calm).elapsed⟩) :
    (watchCall (.getEvents startLedger filters)).eval watchHost bs s =
      (some (call.answer s.rpc startLedger), bs.tail, { s with clock := call.answeredAt }) := by
  subst hcall
  exact eval_call watchHost hb

/-- It returns the page that is answered, parsed. -/
theorem fetchBatch_eval_eq_ok (hb : (bs.headD .calm).fate = .serve)
    (hcall : call = ⟨filters, s.clock + (bs.headD .calm).elapsed⟩)
    {response : List ChannelAuthEvent × Ledger} {bs' : List (Beat WatchErr)} {s' : WatchState} :
    (fetchBatch sdk startLedger filters).eval watchHost bs s = (some (.ok response), bs', s') ↔
      (∃ page, call.answer s.rpc startLedger = .ok page ∧ page.Parses sdk ∧
        response = (page.parsed sdk, page.latestLedger)) ∧
      bs' = bs.tail ∧ s' = { s with clock := call.answeredAt } := by
  have hserve : (watchCall (.getEvents startLedger filters)).eval watchHost bs s =
      (some (call.answer s.rpc startLedger), bs.tail, { s with clock := call.answeredAt }) :=
    getEvents_eval hb hcall
  cases hanswer : call.answer s.rpc startLedger with
  | error e =>
    rw [hanswer] at hserve
    rw [fetchBatch, eval_bind_error watchHost hserve]
    simp
  | ok page =>
    rw [hanswer] at hserve
    rw [fetchBatch, eval_bind_ok watchHost hserve]
    cases hparse : parseEvents sdk page.events with
    | error e =>
      have hthrows : ¬ page.Parses sdk := by
        intro hall
        rw [parseEvents_eq_ok.mpr ⟨hall, rfl⟩] at hparse
        cases hparse
      show (some (Except.error e), bs.tail, { s with clock := call.answeredAt }) = _ ↔ _
      simp [hthrows]
    | ok events =>
      obtain ⟨hall, hevents⟩ := parseEvents_eq_ok.mp hparse
      have hpage : page.Parses sdk := hall
      show (some (Except.ok (events, page.latestLedger)), bs.tail,
        { s with clock := call.answeredAt }) = _ ↔ _
      simp [hpage, hevents, EventsPage.parsed, eq_comm]

/-- A call that is not served makes the fetch of its page reject, or stops it. -/
theorem fetchBatch_not_served (hb : (bs.headD .calm).fate ≠ .serve)
    (response : List ChannelAuthEvent × Ledger) :
    ((fetchBatch sdk startLedger filters).eval watchHost bs s).1 ≠ some (.ok response) := by
  intro hret
  rw [fetchBatch, eval_bind_eq_ok] at hret
  obtain ⟨page, bs', s', hcall, -⟩ := hret
  simp only [watchCall, call, eval] at hcall
  cases hfate : (bs.headD .calm).fate with
  | serve => exact hb hfate
  | reject e =>
    rw [hfate] at hcall
    cases hcall
  | stop =>
    rw [hfate] at hcall
    cases hcall

theorem fetchBatch_trace (sdk : Sdk) (hb : (bs.headD .calm).fate = .serve)
    (hcall : call = ⟨filters, s.clock + (bs.headD .calm).elapsed⟩) :
    (fetchBatch sdk startLedger filters).trace watchHost bs s = [call.step s startLedger] := by
  have hserve : (watchCall (.getEvents startLedger filters)).eval watchHost bs s =
      (some (call.answer s.rpc startLedger), bs.tail, { s with clock := call.answeredAt }) :=
    getEvents_eval hb hcall
  have hstep : (watchCall (.getEvents startLedger filters)).trace watchHost bs s =
      [call.step s startLedger] := by
    subst hcall
    simp only [watchCall, Task.call, trace, hb]
    rfl
  rw [fetchBatch, bind_eq_settle, trace_settle, hserve, hstep]
  cases call.answer s.rpc startLedger with
  | error e => rfl
  | ok page =>
    have hrest : (Task.done (I := watching) (parseEvents sdk page.events) >>= fun parsed =>
        (pure (parsed, page.latestLedger) : WatchPromise _)).trace watchHost bs.tail
          { s with clock := call.answeredAt } = [] := by
      cases parseEvents sdk page.events <;> rfl
    exact congrArg ([call.step s startLedger] ++ ·) hrest

/-! ## All of them -/

theorem take_serves_cons {b : Beat WatchErr} {n : Nat} :
    (∀ b' ∈ (b :: bs).take (n + 1), Beat.Serves b') ↔
      b.fate = .serve ∧ ∀ b' ∈ bs.take n, Beat.Serves b' := by
  rw [List.take_succ_cons, List.forall_mem_cons]
  rfl

theorem take_serves_iff {n : Nat} : (∀ b ∈ bs.take (n + 1), Beat.Serves b) ↔
    (bs.headD .calm).fate = .serve ∧ ∀ b ∈ bs.tail.take n, Beat.Serves b := by
  cases bs with
  | nil => simp [Beat.calm]
  | cons b bs => exact take_serves_cons

theorem collect_eval_eq_ok (sdk : Sdk) (startLedger : Ledger) (batches : List (List EventFilter))
    (responses : List (List ChannelAuthEvent × Ledger)) (bs : List (Beat WatchErr))
    (s : WatchState) :
    ((Task.collect (fetchBatch sdk startLedger) batches).eval watchHost bs s).1 =
        some (.ok responses) ↔
      (∀ b ∈ bs.take batches.length, Beat.Serves b) ∧ ∃ pages : List EventsPage,
        (callsOf batches bs s.clock).map (·.answer s.rpc startLedger) = pages.map .ok ∧
        (∀ page ∈ pages, page.Parses sdk) ∧
        responses = pages.map fun page => (page.parsed sdk, page.latestLedger) := by
  induction batches generalizing bs s responses with
  | nil => simp [Task.collect, callsOf, eval, pure_eq_done, eq_comm]
  | cons filters batches ih =>
    rw [List.length_cons, take_serves_iff, Task.collect]
    by_cases hfate : (bs.headD .calm).fate = .serve
    · let call : RpcCall := ⟨filters, s.clock + (bs.headD .calm).elapsed⟩
      have hbatch (response bs' s') : (fetchBatch sdk startLedger filters).eval watchHost bs s =
          (some (.ok response), bs', s') ↔
            (∃ page, call.answer s.rpc startLedger = .ok page ∧ page.Parses sdk ∧
              response = (page.parsed sdk, page.latestLedger)) ∧
            bs' = bs.tail ∧ s' = { s with clock := call.answeredAt } :=
        fetchBatch_eval_eq_ok hfate rfl
      have hrest (rs) := ih rs bs.tail { s with clock := call.answeredAt }
      have hcalls : callsOf (filters :: batches) bs s.clock =
          call :: callsOf batches bs.tail call.answeredAt := rfl
      rw [eval_bind_eq_ok, hcalls, List.map_cons]
      constructor
      · rintro ⟨response, bs', s', hfirst, h⟩
        obtain ⟨⟨page, hanswer, hparses, rfl⟩, rfl, rfl⟩ := (hbatch _ _ _).mp hfirst
        obtain ⟨rs, bs', s', hrs, h⟩ := (eval_bind_eq_ok watchHost).mp h
        obtain ⟨hserved, pages, hanswers, hall, rfl⟩ := (hrest rs).mp (by rw [hrs])
        cases h
        refine ⟨⟨hfate, hserved⟩, page :: pages, ?_, List.forall_mem_cons.mpr ⟨hparses, hall⟩, rfl⟩
        rw [List.map_cons, hanswer, hanswers]
      · rintro ⟨⟨-, hserved⟩, pages, hanswers, hall, rfl⟩
        cases pages with
        | nil => cases hanswers
        | cons page pages =>
          obtain ⟨hanswer, hanswers⟩ := List.cons.inj hanswers
          obtain ⟨hparses, hall⟩ := List.forall_mem_cons.mp hall
          refine ⟨_, _, _, (hbatch _ _ _).mpr ⟨⟨page, hanswer, hparses, rfl⟩, rfl, rfl⟩, ?_⟩
          refine (eval_bind_eq_ok watchHost).mpr ⟨_, _, _, Prod.ext ((hrest _).mpr
            ⟨hserved, pages, hanswers, hall, rfl⟩) rfl, rfl⟩
    · constructor
      · intro hret
        obtain ⟨response, bs', s', hfirst, -⟩ := (eval_bind_eq_ok watchHost).mp hret
        exact absurd (congrArg Prod.fst hfirst) (fetchBatch_not_served hfate response)
      · rintro ⟨⟨hserved, -⟩, -⟩
        exact absurd hserved hfate

/-- The steps of calls that all return. -/
theorem collect_trace (sdk : Sdk) (startLedger : Ledger) (batches : List (List EventFilter))
    {responses : List (List ChannelAuthEvent × Ledger)} (bs : List (Beat WatchErr)) (s : WatchState)
    (hret : ((Task.collect (fetchBatch sdk startLedger) batches).eval watchHost bs s).1 =
      some (.ok responses)) :
    (Task.collect (fetchBatch sdk startLedger) batches).trace watchHost bs s =
      (callsOf batches bs s.clock).map (·.step s startLedger) := by
  induction batches generalizing bs s responses with
  | nil => rfl
  | cons filters batches ih =>
    have hserved := ((collect_eval_eq_ok sdk startLedger _ _ bs s).mp hret).1
    rw [List.length_cons, take_serves_iff] at hserved
    let call : RpcCall := ⟨filters, s.clock + (bs.headD .calm).elapsed⟩
    rw [Task.collect] at hret ⊢
    obtain ⟨response, bs', s', hfirst, h⟩ := (eval_bind_eq_ok watchHost).mp hret
    have hstep : (fetchBatch sdk startLedger filters).trace watchHost bs s =
        [call.step s startLedger] := fetchBatch_trace sdk hserved.1 rfl
    obtain ⟨-, rfl, rfl⟩ := (fetchBatch_eval_eq_ok hserved.1 rfl).mp hfirst
    obtain ⟨rs, bs', s', hrs, -⟩ := (eval_bind_eq_ok watchHost).mp h
    have hrest := ih bs.tail { s with clock := call.answeredAt } (congrArg Prod.fst hrs)
    rw [trace_bind_ok watchHost hfirst, trace_bind_ok watchHost hrs, hstep, hrest]
    exact congrArg (call.step s startLedger :: ·) (List.append_nil _)

/-- **A fetch of some contracts returns** exactly if every call is served and
answered with a page that parses. -/
theorem fetch_eval_eq_ok (sdk : Sdk) (startLedger : Ledger) (hids : contractIds ≠ [])
    (bs : List (Beat WatchErr)) (s : WatchState) (fetched : List ChannelAuthEvent × Ledger) :
    ((fetchChannelAuthEvents sdk contractIds startLedger).eval watchHost bs s).1 =
        some (.ok fetched) ↔
      (∀ b ∈ bs.take (buildEventFilterBatches contractIds).length, Beat.Serves b) ∧
      ∃ pages : List EventsPage,
        (fetchCalls contractIds bs s.clock).map (·.answer s.rpc startLedger) = pages.map .ok ∧
        (∀ page ∈ pages, page.Parses sdk) ∧
        fetched = (sortByLedger (pages.flatMap (·.parsed sdk)),
          leastLatest startLedger (pages.map (·.latestLedger))) := by
  have hisEmpty : contractIds.isEmpty = false := by simpa using hids
  have hreturn (pages : List EventsPage) : ((sortByLedger ((pages.map fun page =>
      (page.parsed sdk, page.latestLedger)).flatMap (·.1)), leastLatest startLedger
        ((pages.map fun page => (page.parsed sdk, page.latestLedger)).map (·.2))) :
          List ChannelAuthEvent × Ledger) =
      (sortByLedger (pages.flatMap (·.parsed sdk)),
        leastLatest startLedger (pages.map (·.latestLedger))) := by
    rw [List.flatMap_map, List.map_map]
    rfl
  rw [fetchChannelAuthEvents, hisEmpty, if_neg Bool.false_ne_true, eval_bind_eq_ok]
  constructor
  · rintro ⟨responses, bs', s', h, hfetched⟩
    obtain ⟨hserved, pages, hanswers, hall, rfl⟩ :=
      (collect_eval_eq_ok sdk startLedger _ responses bs s).mp (congrArg Prod.fst h)
    cases hfetched
    exact ⟨hserved, pages, hanswers, hall, hreturn pages⟩
  · rintro ⟨hserved, pages, hanswers, hall, rfl⟩
    have hcollect := (collect_eval_eq_ok sdk startLedger (buildEventFilterBatches contractIds) _ bs
      s).mpr ⟨hserved, pages, hanswers, hall, rfl⟩
    refine ⟨_, _, _, Prod.ext hcollect rfl, ?_⟩
    exact congrArg (fun r => some (Except.ok r)) (hreturn pages)

theorem fetch_trace (hids : contractIds ≠ []) {fetched : List ChannelAuthEvent × Ledger}
    (hret : ((fetchChannelAuthEvents sdk contractIds startLedger).eval watchHost bs s).1 =
      some (.ok fetched)) :
    (fetchChannelAuthEvents sdk contractIds startLedger).trace watchHost bs s =
      (fetchCalls contractIds bs s.clock).map (·.step s startLedger) := by
  have hisEmpty : contractIds.isEmpty = false := by simpa using hids
  rw [fetchChannelAuthEvents, hisEmpty, if_neg Bool.false_ne_true] at hret ⊢
  obtain ⟨responses, bs', s', h, -⟩ := (eval_bind_eq_ok watchHost).mp hret
  rw [trace_bind_ok watchHost h, collect_trace sdk startLedger _ bs s (congrArg Prod.fst h)]
  exact List.append_nil _

end Fetch

/-! ## What it returns -/

theorem leastLatest_mem {startLedger : Ledger} {latestLedgers : List Ledger}
    (h : latestLedgers ≠ []) : leastLatest startLedger latestLedgers ∈ latestLedgers := by
  cases latestLedgers with
  | nil => exact absurd rfl h
  | cons latestLedger latestLedgers =>
    rw [leastLatest]
    clear h
    induction latestLedgers generalizing latestLedger with
    | nil => simp
    | cons l ls ih =>
      rw [List.foldl_cons]
      rcases List.mem_cons.mp (ih (min latestLedger l)) with heq | hmem
      · rw [heq]
        rcases min_choice latestLedger l with hmin | hmin <;> simp [hmin]
      · simp [hmem]

/-- The minimum as it is accumulated, from infinity on. -/
def minLatest (latestLedgers : List Ledger) : WithTop Ledger :=
  latestLedgers.foldl (fun (least : WithTop Ledger) (latestLedger : Ledger) =>
    min least latestLedger) ⊤

theorem minLatest_eq {startLedger : Ledger} {latestLedgers : List Ledger}
    (h : latestLedgers ≠ []) :
    minLatest latestLedgers = (leastLatest startLedger latestLedgers : Ledger) := by
  unfold minLatest
  cases latestLedgers with
  | nil => exact absurd rfl h
  | cons latestLedger latestLedgers =>
    rw [leastLatest, List.foldl_cons, min_eq_right le_top]
    clear h
    induction latestLedgers generalizing latestLedger with
    | nil => rfl
    | cons l ls ih =>
      rw [List.foldl_cons, List.foldl_cons, ← WithTop.coe_min]
      exact ih _

/-- The events by ledger, those of one ledger in the order in which they came. -/
structure MergedByLedger (events fetched : List ChannelAuthEvent) : Prop where
  perm : fetched.Perm events
  ordered : fetched.Pairwise fun a b => a.ledger ≤ b.ledger
  stable : ∀ ledger, fetched.filter (fun e => decide (e.ledger = ledger)) =
    events.filter fun e => decide (e.ledger = ledger)

theorem sortByLedger_merged (events : List ChannelAuthEvent) :
    MergedByLedger events (sortByLedger events) :=
  ⟨sortByLedger_perm events, sortByLedger_ordered events, sortByLedger_stable events⟩

/-- **The calls of a fetch** that returns ask for every contract in order, up to
5 in a filter and up to 5 filters in a call, none of them empty. It returns the
parsed events of their pages, merged by ledger, and the least of their latest
ledgers, which a minimum that starts at infinity comes to. -/
theorem fetch_partitions (sdk : Sdk) {contractIds : List ContractId} (hids : contractIds ≠ [])
    (startLedger : Ledger) (bs : List (Beat WatchErr)) (s : WatchState)
    {fetched : List ChannelAuthEvent × Ledger}
    (hret : ((fetchChannelAuthEvents sdk contractIds startLedger).eval watchHost bs s).1 =
      some (.ok fetched)) :
    ∃ (calls : List RpcCall) (pages : List EventsPage),
      (fetchChannelAuthEvents sdk contractIds startLedger).trace watchHost bs s =
        calls.map (·.step s startLedger) ∧
      calls.flatMap (fun call => call.filters.flatMap (·.contractIds)) = contractIds ∧
      (∀ call ∈ calls, (1 ≤ call.filters.length ∧ call.filters.length ≤ 5) ∧
        ∀ filter ∈ call.filters, 1 ≤ filter.contractIds.length ∧ filter.contractIds.length ≤ 5) ∧
      calls.map (·.answer s.rpc startLedger) = pages.map .ok ∧
      MergedByLedger (pages.flatMap (·.parsed sdk)) fetched.1 ∧
      (fetched.2 ∈ pages.map (·.latestLedger) ∧ ∀ page ∈ pages, fetched.2 ≤ page.latestLedger) ∧
      minLatest (pages.map (·.latestLedger)) = fetched.2 := by
  obtain ⟨-, pages, hanswers, -, rfl⟩ := (fetch_eval_eq_ok sdk startLedger hids bs s fetched).mp hret
  have hbounds : ∀ call ∈ fetchCalls contractIds bs s.clock,
      call.filters ∈ buildEventFilterBatches contractIds := fun call hcall => by
    rw [← callsOf_filters (buildEventFilterBatches contractIds) bs s.clock]
    exact List.mem_map_of_mem hcall
  have hpages : pages.map (·.latestLedger) ≠ [] := by
    intro hnil
    rw [List.map_eq_nil_iff.mp hnil] at hanswers
    exact fetchCalls_ne_nil hids bs s.clock (List.map_eq_nil_iff.mp hanswers)
  refine ⟨fetchCalls contractIds bs s.clock, pages, fetch_trace hids hret,
    fetchCalls_askedFor contractIds bs s.clock, fun call hcall => batches_bounds (hbounds call hcall),
    hanswers, sortByLedger_merged _, ⟨leastLatest_mem hpages, ?_⟩, minLatest_eq hpages⟩
  exact List.forall_mem_map.mp ((le_leastLatest hpages).mp le_rfl)

/-- An SDK whose addresses and booleans are their own serializations. -/
def plainSdk : Sdk where
  addressFromScVal
    | .xdr value => .ok value
    | .symbol _ => .error ⟨"not an address"⟩
  scValToBoolean value := .ok (value != .xdr "false")

/-- `provider_added` of a council at a ledger. -/
def rawProviderAdded (contractId : ContractId) (provider : PublicKey) (ledger : Ledger) :
    RawEvent :=
  ⟨some [.symbol "provider_added", .xdr provider], .xdr "", ledger, some contractId⟩

namespace Small

def contracts : List ContractId := (List.range 27).map ("CONTRACT_" ++ toString ·)

/-- The first call and the second get pages of events at ledgers 6 to 9, the
second with the smaller latest ledger. -/
def twoPages : Time → RpcView := fun _ =>
  ⟨12, 1, fun _ filters =>
    if filters.any fun filter => filter.contractIds.contains "CONTRACT_0" then
      .ok ⟨[rawProviderAdded "CONTRACT_3" "P" 6, rawProviderAdded "CONTRACT_0" "Q" 9], 12⟩
    else .ok ⟨[rawProviderAdded "CONTRACT_26" "R" 7, rawProviderAdded "CONTRACT_25" "S" 9], 10⟩⟩

/-- Their events, by ledger. -/
def merged : List ChannelAuthEvent :=
  [⟨.providerAdded, "P", 6, "CONTRACT_3", none, none, none⟩,
    ⟨.providerAdded, "R", 7, "CONTRACT_26", none, none, none⟩,
    ⟨.providerAdded, "Q", 9, "CONTRACT_0", none, none, none⟩,
    ⟨.providerAdded, "S", 9, "CONTRACT_25", none, none, none⟩]

end Small

/-- 27 contracts are asked for in two calls, whose pages interleave. -/
theorem fetch_partitions_27 : ∃ (calls : List RpcCall) (pages : List EventsPage),
    calls.flatMap (fun call => call.filters.flatMap (·.contractIds)) = Small.contracts ∧
    (∀ call ∈ calls, call.filters.length ≤ 5) ∧
    calls.map (·.answer Small.twoPages 5) = pages.map .ok ∧
    MergedByLedger (pages.flatMap (·.parsed plainSdk)) Small.merged ∧
    ∀ page ∈ pages, 10 ≤ page.latestLedger := by
  have hreturn : ((fetchChannelAuthEvents plainSdk Small.contracts 5).eval watchHost []
      (WatchState.boot Small.twoPages (.new [] none))).1 = some (.ok (Small.merged, 10)) := by
    decide +kernel
  obtain ⟨calls, pages, -, hasked, hbounds, hanswers, hmerged, hlatest, -⟩ :=
    fetch_partitions plainSdk (by decide) 5 [] _ hreturn
  exact ⟨calls, pages, hasked, fun call hcall => (hbounds call hcall).1.2, hanswers, hmerged,
    hlatest.2⟩

end ProviderPlatform
