import ProviderPlatform.EventWatcher.Cursors
import ProviderPlatform.EventWatcher.Paging

/-! # No gap

Whatever fails between two polls, an event that is still retained and not
before the pin is dispatched by the time the live cursor is past it, unless the
backfill has yet to come to it. Events are counted, so that two that look alike
are dispatched twice. -/
namespace ProviderPlatform
open Async Task

/-- Not before the pinned ledger. -/
def FromPin (startLedgerBlock : Option Ledger) (ledger : Ledger) : Prop :=
  ∀ pin, startLedgerBlock = some pin → pin ≤ ledger

/-- Every event below the live cursor that is retained and not before the pin
was dispatched, or is still to be backfilled. -/
def Cursors.Covers (oldestLedger : Time → Ledger) (startLedgerBlock : Option Ledger)
    (history : List ChannelAuthEvent) (c : Cursors) : Prop :=
  ∀ liveLedger, c.liveLedger = some liveLedger → ∀ event : ChannelAuthEvent,
    oldestLedger c.now ≤ event.ledger → FromPin startLedgerBlock event.ledger →
    event.ledger < liveLedger → ¬ c.InBackfill event.ledger →
    history.count event ≤ c.dispatched.count event

/-! ## What each step preserves -/

theorem bootStart_le {startLedgerBlock : Option Ledger} {oldestLedger ledger : Ledger}
    (hold : oldestLedger ≤ ledger) (hpin : FromPin startLedgerBlock ledger) :
    bootStart startLedgerBlock oldestLedger ≤ ledger := by
  cases startLedgerBlock with
  | none => exact hold
  | some pin => exact Int.max_le.mpr ⟨hpin pin rfl, hold⟩

/-- A backfill that stands at a ledger has the range from there to the ceiling. -/
theorem Cursors.inBackfill_at {c : Cursors} {start ceiling ledger : Ledger}
    (hc : c.backfillCeiling = some ceiling) (hle : start ≤ ledger) (hlt : ledger < ceiling) :
    (c.withBackfill (backfillAt start ceiling)).InBackfill ledger :=
  ⟨start, ceiling, backfillAt_eq_some.mpr ⟨rfl, lt_of_le_of_lt hle hlt⟩, hc, hle, hlt⟩

/-- The feed of a history: a read returns what is retained of it, each event as
often as it happened. -/
structure Feed.Retains (F : Feed) (history : List ChannelAuthEvent) : Prop where
  forward : ∀ now later, now ≤ later → F.oldestLedger now ≤ F.oldestLedger later
  complete : ∀ start events latestLedger now, F.gives start events latestLedger now →
    ∀ event : ChannelAuthEvent, start ≤ event.ledger → event.ledger ≤ latestLedger →
      F.oldestLedger now ≤ event.ledger → history.count event ≤ events.count event

section Covers
variable {F : Feed} {startLedgerBlock : Option Ledger} {history : List ChannelAuthEvent}
variable {c c' : Cursors}

theorem Cursors.Covers.step (hF : F.Retains history)
    (h : c.Covers F.oldestLedger startLedgerBlock history)
    (hstep : Cursors.Step F startLedgerBlock c c') :
    c'.Covers F.oldestLedger startLedgerBlock history := by
  intro live' hlive' event hold hpin hlt hout
  cases hstep with
  | wait now hnow =>
    have hold' : F.oldestLedger c.now ≤ event.ledger := le_trans (hF.forward _ _ hnow) hold
    exact h live' hlive' event hold' hpin hlt hout
  | start tip hnone =>
    cases hlive'
    exact absurd (Cursors.inBackfill_at (c := (c.withLive (some live')).withCeiling live') rfl
      (bootStart_le hold hpin) hlt) hout
  | read ledger latestLedger events hlive hgives =>
    cases hlive'
    have hcount : (c.dispatched ++ events).count event =
        c.dispatched.count event + events.count event := List.count_append
    change history.count event ≤ (c.dispatched ++ events).count event
    by_cases hbelow : event.ledger < ledger
    · have hbefore := h ledger hlive event hold hpin hbelow hout
      omega
    · have hread := hF.complete ledger events latestLedger c.now hgives event (not_lt.mp hbelow)
        (Int.lt_add_one_iff.mp hlt) hold
      omega
  | reset hexpires => cases hlive'
  | slice ledger ceiling latestLedger events hledger hceiling hlow hgives =>
    have hcount : (c.dispatched ++ events.filter fun event => decide (event.ledger < ceiling)).count
        event = c.dispatched.count event +
          (events.filter fun event => decide (event.ledger < ceiling)).count event :=
      List.count_append
    change history.count event ≤ (c.dispatched ++ _).count event
    by_cases hin : c.InBackfill event.ledger
    · obtain ⟨start, top, hstart, htop, hfrom, hto⟩ := hin
      cases hledger.symm.trans hstart
      cases hceiling.symm.trans htop
      have hread : event.ledger ≤ latestLedger := by
        by_contra hlate
        exact hout (Cursors.inBackfill_at (c := c.dispatch _) hceiling
          (Int.add_one_le_of_lt (not_le.mp hlate)) hto)
      have hkept : (events.filter fun event => decide (event.ledger < ceiling)).count event =
          events.count event := List.count_filter (by simpa using hto)
      have hgot := hF.complete ledger events latestLedger c.now hgives event hfrom hread hold
      omega
    · have hbefore := h live' hlive' event hold hpin hlt hin
      omega
  | finish ledger ceiling hledger hceiling hdone =>
    apply h live' hlive' event hold hpin hlt
    rintro ⟨start, top, hstart, htop, hfrom, hto⟩
    cases hledger.symm.trans hstart
    cases hceiling.symm.trans htop
    exact absurd (lt_of_le_of_lt hfrom hto) (not_lt.mpr hdone)
  | clamp ceiling hexpires hceiling hledger =>
    apply h live' hlive' event hold hpin hlt
    rintro ⟨start, top, hstart, htop, hfrom, hto⟩
    cases hceiling.symm.trans htop
    exact hout (Cursors.inBackfill_at hceiling (bootStart_le hold hpin) hto)

theorem Cursors.Covers.reaches (hF : F.Retains history)
    (h : c.Covers F.oldestLedger startLedgerBlock history)
    (hreach : c.Reaches F startLedgerBlock c') :
    c'.Covers F.oldestLedger startLedgerBlock history := by
  induction hreach with
  | refl => exact h
  | tail _ hstep ih => exact ih.step hF hstep

end Covers

/-! ## Every sequence of polls -/

/-- What a fetch that succeeds is assumed to return: each event from the start
ledger to the latest that is still retained when it returns, as often as it
happened. -/
def FetchesRetained (sdk : Sdk) (contractIds : List ContractId) (history : List ChannelAuthEvent)
    (rpc : Time → RpcView) : Prop :=
  ∀ startLedger bs s events latestLedger bs' s', s.rpc = rpc →
    (fetchChannelAuthEvents sdk contractIds startLedger).eval watchHost bs s =
      (some (.ok (events, latestLedger)), bs', s') →
    ∀ event : ChannelAuthEvent, startLedger ≤ event.ledger → event.ledger ≤ latestLedger →
      (rpc s'.clock).oldestLedger ≤ event.ledger → history.count event ≤ events.count event

/-- The feed of a server that retains events and expires reads. -/
def retainedFeed (history : List ChannelAuthEvent) (rpc : Time → RpcView) : Feed where
  oldestLedger now := (rpc now).oldestLedger
  gives startLedger events latestLedger now :=
    ∀ event : ChannelAuthEvent, startLedger ≤ event.ledger → event.ledger ≤ latestLedger →
      (rpc now).oldestLedger ≤ event.ledger → history.count event ≤ events.count event
  expires := True

theorem retainedFeed_describes {sdk : Sdk} {contractIds : List ContractId}
    {history : List ChannelAuthEvent} {rpc : Time → RpcView}
    (hfetch : FetchesRetained sdk contractIds history rpc) :
    (retainedFeed history rpc).Describes (fun _ => True) sdk rpc contractIds where
  oldestLedger _ := rfl
  gives startLedger := by
    intro bs s _ hs
    have hend := hfetch startLedger bs s
    revert hend
    rcases (fetchChannelAuthEvents sdk contractIds startLedger).eval watchHost bs s with
      ⟨_ | e | ⟨events, latestLedger⟩, bs', s'⟩
    · exact fun _ => trivial
    · exact fun _ => trivial
    · exact fun hend => hend events latestLedger bs' s' hs rfl
  throws := ⟨fun _ _ _ => trivial, fun _ _ _ => trivial⟩
  expires _ _ _ := trivial

theorem retainedFeed_retains {history : List ChannelAuthEvent} {rpc : Time → RpcView}
    (hforward : ∀ now later, now ≤ later → (rpc now).oldestLedger ≤ (rpc later).oldestLedger) :
    (retainedFeed history rpc).Retains history where
  forward := hforward
  complete _ _ _ _ h := h

/-- **No gap.** However the requests of the polls of a fresh watcher fail, what
lies below the live cursor was dispatched or is left to the backfill. -/
theorem polls_cover {sdk : Sdk} {handler : EventHandler} {history : List ChannelAuthEvent}
    {rpc : Time → RpcView} {contractIds : List ContractId} {startLedgerBlock : Option Ledger}
    {s s' : WatchState} (hids : contractIds.Nodup) (hhandler : handler.Handles)
    (hfetch : FetchesRetained sdk contractIds history rpc)
    (hforward : ∀ now later, now ≤ later → (rpc now).oldestLedger ≤ (rpc later).oldestLedger)
    (hrpc : s.rpc = rpc) (hfresh : s.watcher = .new contractIds startLedgerBlock)
    (h : Rounds watchHost (Steady fun _ => True) (EventWatcher.poll sdk handler) s s') :
    s'.cursors.Covers (fun now => (rpc now).oldestLedger) startLedgerBlock history := by
  have hcontracts : s.watcher.contractIds = contractIds := by
    rw [hfresh]
    exact EventWatcher.new_contractIds hids startLedgerBlock
  have hpin : s.watcher.startLedgerBlock = startLedgerBlock := by rw [hfresh]; rfl
  have hreach := polls_refine (retainedFeed_describes hfetch) hhandler trivial h hrpc hcontracts hpin
  have hstart : s.cursors.Covers (retainedFeed history rpc).oldestLedger startLedgerBlock history := by
    intro liveLedger hlive
    rw [WatchState.cursors, hfresh] at hlive
    cases hlive
  exact hstart.reaches (retainedFeed_retains hforward) hreach

/-- An exact server is one whose fetches return what it retains. -/
theorem FetchesRetained.of_exact {sdk : Sdk} {history : List RawEvent} {rpc : Time → RpcView}
    {contractIds : List ContractId} (hne : contractIds ≠ [])
    (hfew : contractIds.length ≤ maxContractIdsPerCall) (hserver : ExactServer history rpc) :
    FetchesRetained sdk contractIds (eventsOf sdk history contractIds) rpc := by
  intro startLedger bs s events latestLedger bs' s' hs h event hle hlatest _
  obtain ⟨filters, hbatches, hasked⟩ := buildEventFilterBatches_single hne hfew
  have hend := fetchChannelAuthEvents_single sdk startLedger hbatches rpc bs s
    (fun _ _ => trivial) hs
  rw [h] at hend
  obtain ⟨page, hpage, hevents, rfl⟩ := hend
  have hperm := (hserver s'.clock startLedger filters page hpage).2.filterMap (parsedEvent sdk)
  rw [hasked, parsed_eventsIn] at hperm
  rw [(hevents.trans hperm).count_eq, List.count_filter]
  · exact le_rfl
  · exact decide_eq_true ⟨hle, hlatest⟩

/-- One poll of a council two providers joined. -/
theorem polls_cover_twoJoin :
    ((EventWatcher.poll plainSdk watchEvent).eval watchHost []
      (.boot (wholeServer twoJoin 6) (.new ["C"] none))).2.2.cursors.Covers (fun _ => 0) none
        (eventsOf plainSdk twoJoin ["C"]) :=
  polls_cover (s := .boot (wholeServer twoJoin 6) (.new ["C"] none)) (by decide)
    watchEvent_handles (.of_exact (by decide) (by decide) (wholeServer_exact twoJoin 6))
    (fun _ _ _ => le_rfl) rfl rfl (.round 0 [] (.refl _) (by simp) (by decide +kernel))

end ProviderPlatform
