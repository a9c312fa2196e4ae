import ProviderPlatform.EventWatcher.Cursors
import ProviderPlatform.EventWatcher.Paging

/-! # Nothing twice

As long as no read expires, the two cursors divide the ledgers between them:
the live cursor owns those from the ceiling on, the backfill those below. An
event is dispatched no more often than it happened. -/
namespace ProviderPlatform
open Async Task

/-! ## The division of the ledgers -/

/-- The feed of a history none of which expires: a read returns it exactly. -/
structure Feed.Exact (F : Feed) (history : List ChannelAuthEvent) : Prop where
  lasts : ¬ F.expires
  reaches : ∀ start events latestLedger now, F.gives start events latestLedger now →
    start - 1 ≤ latestLedger
  exact : ∀ start events latestLedger now, F.gives start events latestLedger now →
    events.Perm (history.filter fun event =>
      decide (start ≤ event.ledger ∧ event.ledger ≤ latestLedger))

/-- Neither cursor has come to what it dispatches twice. -/
structure Cursors.Once (history : List ChannelAuthEvent) (c : Cursors) : Prop where
  started : c.liveLedger = none → c.backfillLedger = none
  ordered : ∀ liveLedger, c.liveLedger = some liveLedger →
    ∃ ceiling, c.backfillCeiling = some ceiling ∧ ceiling ≤ liveLedger
  ahead : ∀ event : ChannelAuthEvent,
    (∀ liveLedger, c.liveLedger = some liveLedger → liveLedger ≤ event.ledger) →
    c.dispatched.count event = 0
  behind : ∀ event : ChannelAuthEvent, c.InBackfill event.ledger → c.dispatched.count event = 0
  once : ∀ event : ChannelAuthEvent, c.dispatched.count event ≤ history.count event

theorem count_filter_of_not {p : ChannelAuthEvent → Bool} {event : ChannelAuthEvent}
    (h : p event = false) (events : List ChannelAuthEvent) : (events.filter p).count event = 0 := by
  rw [List.count_eq_zero, List.mem_filter, h]
  exact fun hmem => Bool.false_ne_true hmem.2

section Exact
variable {F : Feed} {startLedgerBlock : Option Ledger} {history : List ChannelAuthEvent}
variable {c c' : Cursors}

/-- A read counts an event in its range as often as it happened, and no other. -/
theorem Feed.Exact.count_inside (hF : F.Exact history) {start latestLedger : Ledger}
    {events : List ChannelAuthEvent} {now : Time} (h : F.gives start events latestLedger now)
    {event : ChannelAuthEvent} (hle : start ≤ event.ledger) (hlatest : event.ledger ≤ latestLedger) :
    events.count event = history.count event := by
  rw [(hF.exact start events latestLedger now h).count_eq]
  exact List.count_filter (by simpa using ⟨hle, hlatest⟩)

theorem Feed.Exact.count_outside (hF : F.Exact history) {start latestLedger : Ledger}
    {events : List ChannelAuthEvent} {now : Time} (h : F.gives start events latestLedger now)
    (event : ChannelAuthEvent) (hout : ¬ (start ≤ event.ledger ∧ event.ledger ≤ latestLedger)) :
    events.count event = 0 := by
  rw [(hF.exact start events latestLedger now h).count_eq]
  exact count_filter_of_not (decide_eq_false hout) history

/-- The live read dispatches what lies between the old cursor and the new. -/
theorem Cursors.Once.read (hF : F.Exact history) (h : c.Once history) {ledger latestLedger : Ledger}
    {events : List ChannelAuthEvent} (hlive : c.liveLedger = some ledger)
    (hgives : F.gives ledger events latestLedger c.now) :
    ((c.dispatch events).withLive (some (latestLedger + 1))).Once history := by
  have hcount : ∀ event, (c.dispatched ++ events).count event =
      c.dispatched.count event + events.count event := fun _ => List.count_append
  have hnext : ledger ≤ latestLedger + 1 :=
    Int.le_add_of_sub_right_le (hF.reaches ledger events latestLedger c.now hgives)
  obtain ⟨ceiling, hceiling, hbelow⟩ := h.ordered ledger hlive
  have hahead : ∀ event : ChannelAuthEvent, ledger ≤ event.ledger →
      c.dispatched.count event = 0 := by
    intro event hle
    apply h.ahead event
    intro liveLedger hlive'
    cases hlive.symm.trans hlive'
    exact hle
  constructor
  · exact nofun
  · intro liveLedger hlive'
    cases hlive'
    exact ⟨ceiling, hceiling, le_trans hbelow hnext⟩
  · intro event hbeyond
    have hle := hbeyond (latestLedger + 1) rfl
    have hnew := hF.count_outside hgives event
      fun hin => absurd (Int.lt_of_add_one_le hle) (not_lt.mpr hin.2)
    have hold := hahead event (le_trans hnext hle)
    exact (hcount event).trans (by omega)
  · rintro event ⟨start, top, hstart, htop, hfrom, hto⟩
    cases hceiling.symm.trans htop
    have hnew := hF.count_outside hgives event
      fun hin => absurd (lt_of_lt_of_le hto hbelow) (not_lt.mpr hin.1)
    have hold := h.behind event ⟨start, ceiling, hstart, htop, hfrom, hto⟩
    exact (hcount event).trans (by omega)
  · intro event
    have honce := h.once event
    change (c.dispatched ++ events).count event ≤ _
    by_cases hin : ledger ≤ event.ledger ∧ event.ledger ≤ latestLedger
    · have hnew := hF.count_inside hgives hin.1 hin.2
      have hold := hahead event hin.1
      rw [hcount]
      omega
    · have hnew := hF.count_outside hgives event hin
      rw [hcount]
      omega

/-- The slice dispatches what lies between the old cursor and the new, below
the ceiling. -/
theorem Cursors.Once.slice (hF : F.Exact history) (h : c.Once history)
    {ledger ceiling latestLedger : Ledger} {events : List ChannelAuthEvent}
    (hledger : c.backfillLedger = some ledger) (hceiling : c.backfillCeiling = some ceiling)
    (hgives : F.gives ledger events latestLedger c.now) :
    ((c.dispatch (events.filter fun event => decide (event.ledger < ceiling))).withBackfill
      (backfillAt (latestLedger + 1) ceiling)).Once history := by
  have hcount : ∀ event, (c.dispatched ++ events.filter fun event =>
      decide (event.ledger < ceiling)).count event = c.dispatched.count event +
        (events.filter fun event => decide (event.ledger < ceiling)).count event :=
    fun _ => List.count_append
  have habove : ∀ event : ChannelAuthEvent, ceiling ≤ event.ledger →
      (events.filter fun event => decide (event.ledger < ceiling)).count event = 0 :=
    fun event hle => count_filter_of_not (decide_eq_false (not_lt.mpr hle)) events
  have hbelow : ∀ event : ChannelAuthEvent, event.ledger < ceiling →
      (events.filter fun event => decide (event.ledger < ceiling)).count event =
        events.count event :=
    fun event hlt => List.count_filter (decide_eq_true hlt)
  have hnext : ledger ≤ latestLedger + 1 :=
    Int.le_add_of_sub_right_le (hF.reaches ledger events latestLedger c.now hgives)
  constructor
  · intro hnone
    have hbackfill := h.started hnone
    rw [hledger] at hbackfill
    cases hbackfill
  · exact h.ordered
  · intro event hahead
    have hold := h.ahead event hahead
    have hlive : c.liveLedger ≠ none := by
      intro hnone
      have hbackfill := h.started hnone
      rw [hledger] at hbackfill
      cases hbackfill
    obtain ⟨liveLedger, hlive⟩ := Option.ne_none_iff_exists'.mp hlive
    obtain ⟨top, htop, hle⟩ := h.ordered liveLedger hlive
    cases hceiling.symm.trans htop
    have hnew := habove event (le_trans hle (hahead liveLedger hlive))
    exact (hcount event).trans (by omega)
  · rintro event ⟨start, top, hstart, htop, hfrom, hto⟩
    obtain ⟨rfl, -⟩ := backfillAt_eq_some.mp hstart
    have htop' : c.backfillCeiling = some top := htop
    cases hceiling.symm.trans htop'
    have hold := h.behind event ⟨ledger, ceiling, hledger, hceiling, le_trans hnext hfrom, hto⟩
    have hread := hF.count_outside hgives event
      fun hin => absurd (Int.lt_of_add_one_le hfrom) (not_lt.mpr hin.2)
    have hnew := hbelow event hto
    exact (hcount event).trans (by omega)
  · intro event
    have honce := h.once event
    change (c.dispatched ++ _).count event ≤ _
    rw [hcount]
    by_cases hlt : event.ledger < ceiling
    · have hkept := hbelow event hlt
      by_cases hin : ledger ≤ event.ledger ∧ event.ledger ≤ latestLedger
      · have hold := h.behind event ⟨ledger, ceiling, hledger, hceiling, hin.1, hlt⟩
        have hnew := hF.count_inside hgives hin.1 hin.2
        omega
      · have hnew := hF.count_outside hgives event hin
        omega
    · have hnew := habove event (not_lt.mp hlt)
      omega

theorem Cursors.Once.step (hF : F.Exact history) (h : c.Once history)
    (hstep : Cursors.Step F startLedgerBlock c c') : c'.Once history := by
  cases hstep with
  | wait now hnow => exact ⟨h.started, h.ordered, h.ahead, h.behind, h.once⟩
  | start tip hnone =>
    have hnothing : ∀ event : ChannelAuthEvent, c.dispatched.count event = 0 := by
      intro event
      apply h.ahead event
      rw [hnone]
      exact nofun
    constructor
    · exact nofun
    · intro liveLedger hlive
      cases hlive
      exact ⟨_, rfl, le_rfl⟩
    · exact fun event _ => hnothing event
    · exact fun event _ => hnothing event
    · exact fun event => (hnothing event).trans_le (Nat.zero_le _)
  | read ledger latestLedger events hlive hgives => exact h.read hF hlive hgives
  | reset hexpires => exact absurd hexpires hF.lasts
  | slice ledger ceiling latestLedger events hledger hceiling hlow hgives =>
    exact h.slice hF hledger hceiling hgives
  | finish ledger ceiling hledger hceiling hdone =>
    refine ⟨fun _ => rfl, h.ordered, h.ahead, ?_, h.once⟩
    rintro event ⟨start, top, hstart, -⟩
    cases hstart
  | clamp ceiling hexpires hceiling hledger => exact absurd hexpires hF.lasts

theorem Cursors.Once.reaches (hF : F.Exact history) (h : c.Once history)
    (hreach : c.Reaches F startLedgerBlock c') : c'.Once history := by
  induction hreach with
  | refl => exact h
  | tail _ hstep ih => exact ih.step hF hstep

end Exact

/-! ## Every sequence of polls -/

/-- The feed of an exact server. -/
def exactFeed (history : List ChannelAuthEvent) (rpc : Time → RpcView) : Feed where
  oldestLedger now := (rpc now).oldestLedger
  gives startLedger events latestLedger _ := startLedger - 1 ≤ latestLedger ∧
    events.Perm (history.filter fun event =>
      decide (startLedger ≤ event.ledger ∧ event.ledger ≤ latestLedger))
  expires := False

/-- The error does not read as one of a cursor out of retention. -/
def WithinRetention (e : WatchErr) : Prop := isOutOfRetentionError e = false

instance : DecidablePred WithinRetention :=
  fun e => inferInstanceAs (Decidable (isOutOfRetentionError e = false))

theorem liveLedger_null_within : WithinRetention ⟨"liveLedger is null"⟩ := by decide +kernel

theorem exactFeed_exact (history : List ChannelAuthEvent) (rpc : Time → RpcView) :
    (exactFeed history rpc).Exact history where
  lasts := id
  reaches _ _ _ _ h := h.1
  exact _ _ _ _ h := h.2

theorem exactFeed_describes {sdk : Sdk} {history : List RawEvent} {rpc : Time → RpcView}
    {contractIds : List ContractId} (hne : contractIds ≠ [])
    (hfew : contractIds.length ≤ maxContractIdsPerCall) (hserver : ExactServer history rpc)
    (hsdk : sdk.Throws WithinRetention) :
    (exactFeed (eventsOf sdk history contractIds) rpc).Describes WithinRetention sdk rpc
      contractIds where
  oldestLedger _ := rfl
  gives startLedger := by
    obtain ⟨filters, hbatches, hasked⟩ := buildEventFilterBatches_single hne hfew
    apply Settles.guided
    refine (fetchChannelAuthEvents_single sdk startLedger hbatches rpc).mono (fun _ h => h) ?_ fun _ _ => trivial
    rintro ⟨events, latestLedger⟩ s ⟨page, hpage, hevents, rfl⟩
    obtain ⟨hreaches, hperm⟩ := hserver s.clock startLedger filters page hpage
    refine ⟨hreaches, hevents.trans ?_⟩
    rw [eventsOf, ← parsed_eventsIn, ← hasked]
    exact hperm.filterMap (parsedEvent sdk)
  throws := hsdk
  expires e he hout := by
    rw [he] at hout
    cases hout

/-- **Nothing twice.** In every sequence of polls of one to 25 contracts in which
no request fails as out of retention, an event is dispatched no more often than
it happened. -/
theorem polls_dispatch_once {sdk : Sdk} {handler : EventHandler} {history : List RawEvent}
    {rpc : Time → RpcView} {contractIds : List ContractId} {startLedgerBlock : Option Ledger}
    {s s' : WatchState} (hids : contractIds.Nodup) (hne : contractIds ≠ [])
    (hfew : contractIds.length ≤ maxContractIdsPerCall) (hhandler : handler.Handles)
    (hsdk : sdk.Throws WithinRetention)
    (hserver : ExactServer history rpc) (hrpc : s.rpc = rpc)
    (hfresh : s.watcher = .new contractIds startLedgerBlock) (hnone : s.dispatched = [])
    (h : Rounds watchHost (Steady WithinRetention) (EventWatcher.poll sdk handler) s s') :
    s'.dispatched.Subperm (eventsOf sdk history contractIds) := by
  have hcontracts : s.watcher.contractIds = contractIds := by
    rw [hfresh]
    exact EventWatcher.new_contractIds hids startLedgerBlock
  have hpin : s.watcher.startLedgerBlock = startLedgerBlock := by
    rw [hfresh]
    rfl
  have hreach := polls_refine (exactFeed_describes hne hfew hserver hsdk) hhandler
    liveLedger_null_within h hrpc hcontracts hpin
  have hzero : ∀ event : ChannelAuthEvent, s.cursors.dispatched.count event = 0 := by
    intro event
    rw [WatchState.cursors, hnone]
    rfl
  have hstart : s.cursors.Once (eventsOf sdk history contractIds) := by
    have hlive : s.cursors.liveLedger = none := by rw [WatchState.cursors, hfresh]; rfl
    have hbackfill : s.cursors.backfillLedger = none := by rw [WatchState.cursors, hfresh]; rfl
    constructor
    · exact fun _ => hbackfill
    · rw [hlive]
      exact nofun
    · exact fun event _ => hzero event
    · exact fun event _ => hzero event
    · exact fun event => (hzero event).trans_le (Nat.zero_le _)
  have hend := hstart.reaches (exactFeed_exact _ rpc) hreach
  exact List.subperm_ext_iff.mpr fun event _ => hend.once event

theorem plainSdk_within : plainSdk.Throws WithinRetention := by
  constructor
  · intro value e he
    cases value with
    | symbol name =>
      cases he
      decide +kernel
    | xdr value => cases he
  · intro value e he
    cases he

/-- One poll of a council two providers joined. -/
theorem polls_dispatch_once_twoJoin :
    ((EventWatcher.poll plainSdk watchEvent).eval watchHost []
      (.boot (wholeServer twoJoin 6) (.new ["C"] none))).2.2.dispatched.Subperm
        (eventsOf plainSdk twoJoin ["C"]) :=
  polls_dispatch_once (s := .boot (wholeServer twoJoin 6) (.new ["C"] none)) (by decide) (by decide)
    (by decide) watchEvent_handles plainSdk_within (wholeServer_exact twoJoin 6) rfl rfl rfl
    (.round 0 [] (.refl _) (by simp) (by decide +kernel))

end ProviderPlatform
