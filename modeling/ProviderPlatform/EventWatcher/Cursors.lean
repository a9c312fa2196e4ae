import ProviderPlatform.EventWatcher.Handlers
import Mathlib.Logic.Relation

/-! # The two cursors

What polling is for, without its requests and handlers: a live cursor that
follows the tip and a backfill cursor that walks up to the ledger where the
live one began. `Cursors.Step` lists everything that can happen to them;
`poll_refines` shows that a poll is a sequence of such steps, whatever its
requests answer and however its handler ends. -/
namespace ProviderPlatform
open Async Task

/-! ## The abstract cursors -/

/-- What can be relied on about the reads: the oldest ledger retained at a
time, what a read from a ledger returns, and whether reads expire. -/
structure Feed where
  oldestLedger : Time → Ledger
  gives : Ledger → List ChannelAuthEvent → Ledger → Time → Prop
  /-- A read may fail with an out-of-retention error. -/
  expires : Prop

structure Cursors where
  liveLedger : Option Ledger
  backfillLedger : Option Ledger
  backfillCeiling : Option Ledger
  dispatched : List ChannelAuthEvent
  now : Time

/-- The ledger a fresh watcher begins at. -/
def bootStart (startLedgerBlock : Option Ledger) (oldestLedger : Ledger) : Ledger :=
  startLedgerBlock.elim oldestLedger (max · oldestLedger)

/-- A backfill cursor at a ledger, unless nothing is left below the ceiling. -/
def backfillAt (ledger ceiling : Ledger) : Option Ledger :=
  if ledger ≥ ceiling then none else some ledger

theorem backfillAt_eq_some {ledger ceiling start : Ledger} :
    backfillAt ledger ceiling = some start ↔ start = ledger ∧ ledger < ceiling := by
  unfold backfillAt
  split
  · rename_i hge
    constructor
    · nofun
    · rintro ⟨-, hlt⟩
      exact absurd hlt (not_lt.mpr hge)
  · rename_i hlt
    constructor
    · intro h
      cases h
      exact ⟨rfl, not_le.mp hlt⟩
    · rintro ⟨rfl, -⟩
      rfl

namespace Cursors

/-- The backfill has yet to come to a ledger. -/
def InBackfill (c : Cursors) (ledger : Ledger) : Prop :=
  ∃ start ceiling, c.backfillLedger = some start ∧ c.backfillCeiling = some ceiling ∧
    start ≤ ledger ∧ ledger < ceiling

/-- The cursors at another time. -/
def atTime (c : Cursors) (now : Time) : Cursors := { c with now := now }

def withLive (c : Cursors) (ledger : Option Ledger) : Cursors := { c with liveLedger := ledger }

def withBackfill (c : Cursors) (ledger : Option Ledger) : Cursors :=
  { c with backfillLedger := ledger }

def withCeiling (c : Cursors) (ledger : Ledger) : Cursors :=
  { c with backfillCeiling := some ledger }

def dispatch (c : Cursors) (events : List ChannelAuthEvent) : Cursors :=
  { c with dispatched := c.dispatched ++ events }

/-- What can happen to the cursors. -/
inductive Step (F : Feed) (startLedgerBlock : Option Ledger) : Cursors → Cursors → Prop
  | wait (c : Cursors) (now : Time) : c.now ≤ now → Step F startLedgerBlock c (c.atTime now)
  | start (c : Cursors) (tip : Ledger) : c.liveLedger = none →
      Step F startLedgerBlock c (((c.withLive (some tip)).withCeiling tip).withBackfill
        (backfillAt (bootStart startLedgerBlock (F.oldestLedger c.now)) tip))
  | read (c : Cursors) (ledger latestLedger : Ledger) (events : List ChannelAuthEvent) :
      c.liveLedger = some ledger → F.gives ledger events latestLedger c.now →
      Step F startLedgerBlock c ((c.dispatch events).withLive (some (latestLedger + 1)))
  | reset (c : Cursors) : F.expires → Step F startLedgerBlock c (c.withLive none)
  | slice (c : Cursors) (ledger ceiling latestLedger : Ledger) (events : List ChannelAuthEvent) :
      c.backfillLedger = some ledger → c.backfillCeiling = some ceiling → ledger < ceiling →
      F.gives ledger events latestLedger c.now →
      Step F startLedgerBlock c
        ((c.dispatch (events.filter fun event => decide (event.ledger < ceiling))).withBackfill
          (backfillAt (latestLedger + 1) ceiling))
  | finish (c : Cursors) (ledger ceiling : Ledger) :
      c.backfillLedger = some ledger → c.backfillCeiling = some ceiling → ceiling ≤ ledger →
      Step F startLedgerBlock c (c.withBackfill none)
  | clamp (c : Cursors) (ceiling : Ledger) : F.expires → c.backfillCeiling = some ceiling →
      c.backfillLedger.isSome → Step F startLedgerBlock c
        (c.withBackfill (backfillAt (bootStart startLedgerBlock (F.oldestLedger c.now)) ceiling))

/-- Any number of steps. -/
abbrev Reaches (F : Feed) (startLedgerBlock : Option Ledger) : Cursors → Cursors → Prop :=
  Relation.ReflTransGen (Step F startLedgerBlock)

end Cursors

/-! ## A watcher that is left alone -/

/-- The cursors of the watcher. -/
def WatchState.cursors (s : WatchState) : Cursors where
  liveLedger := s.watcher.liveLedger
  backfillLedger := s.watcher.backfillLedger
  backfillCeiling := s.watcher.backfillCeiling
  dispatched := s.dispatched
  now := s.clock

/-- The requests that go to the RPC server. -/
def WatchReq.isRpc : WatchReq → Bool
  | .getLatestLedger | .getHealth | .getEvents _ _ => true
  | _ => false

/-- How the requests reject, if the RPC server does so as `E` says. -/
def RpcRejects (E : WatchErr → Prop) (q : WatchReq) (e : WatchErr) : Prop :=
  q.isRpc = true → E e

/-- The process does not stop, the set of contracts stays the same, and the RPC
server rejects as `E` says. -/
def Steady (E : WatchErr → Prop) : Step watching WatchState → Prop
  | .ran s o => (watchOp o s).2.watcher.contractIds = s.watcher.contractIds
  | .stopped _ _ => False
  | st => RejectsAs watchHost (RpcRejects E) st

instance {E : WatchErr → Prop} [DecidablePred E] : DecidablePred (Steady E)
  | .ran s o => inferInstanceAs (Decidable ((watchOp o s).2.watcher.contractIds =
      s.watcher.contractIds))
  | .stopped _ _ => .isFalse id
  | .rejected _ q e => inferInstanceAs (Decidable (q.isRpc = true → E e))
  | .served s q =>
    match h : (watchServe q s).1 with
    | .ok _ => .isTrue fun e he => by
      have hans : (watchServe q s).1 = .error e := he
      rw [h] at hans
      cases hans
    | .error e =>
      decidable_of_iff (q.isRpc = true → E e) (by
        constructor
        · intro hE e' he'
          have hans : (watchServe q s).1 = .error e' := he'
          rw [h] at hans
          cases hans
          exact hE
        · exact fun hall => hall e h)

/-- What a handler cannot do: the cursors are private to the watcher. -/
def WatchOp.Handles : WatchOp → Prop
  | .setCursors _ _ _ | .setLiveLedger _ | .setBackfillLedger _ | .dispatched _ => False
  | _ => True

/-- The handler does not touch the cursors. -/
def EventHandler.Handles (handler : EventHandler) : Prop :=
  ∀ event, (handler event).Uses WatchOp.Handles fun _ => True

section Steady
variable {E : WatchErr → Prop}

theorem Steady.lives (s : WatchState) (q : WatchReq) : ¬ Steady E (.stopped s q) := id

theorem Steady.rejects (st : Step watching WatchState) (h : Steady E st) :
    RejectsAs watchHost (RpcRejects E) st := by
  cases st with
  | ran s o => trivial
  | stopped s q => trivial
  | served s q => exact h
  | rejected s q e => exact h

end Steady

/-- The state of a watcher of fixed contracts: where its cursors can be, and
what it relies on. -/
structure Watches (rpc : Time → RpcView) (contractIds : List ContractId)
    (startLedgerBlock : Option Ledger) (C : Cursors → Prop) (s : WatchState) : Prop where
  rpc : s.rpc = rpc
  contractIds : s.watcher.contractIds = contractIds
  startLedgerBlock : s.watcher.startLedgerBlock = startLedgerBlock
  cursors : C s.cursors

/-- The cursors as they were, some time later. -/
def Cursors.Later (c c' : Cursors) : Prop := ∃ now, c.now ≤ now ∧ c' = c.atTime now

theorem Cursors.Later.refl (c : Cursors) : c.Later c := ⟨c.now, le_rfl, rfl⟩

theorem Cursors.Later.reaches {F : Feed} {startLedgerBlock : Option Ledger} {c₀ c c' : Cursors}
    (h : c.Later c') (hc : c₀.Reaches F startLedgerBlock c) :
    c₀.Reaches F startLedgerBlock c' := by
  obtain ⟨now, hnow, rfl⟩ := h
  exact hc.tail (.wait c now hnow)

section Watches
variable {rpc : Time → RpcView} {contractIds : List ContractId}
variable {startLedgerBlock : Option Ledger} {C : Cursors → Prop} {c c₀ : Cursors}
variable {E : WatchErr → Prop}

theorem Watches.mono {C' : Cursors → Prop} {s : WatchState}
    (h : Watches rpc contractIds startLedgerBlock C s) (hC : C s.cursors → C' s.cursors) :
    Watches rpc contractIds startLedgerBlock C' s :=
  ⟨h.rpc, h.contractIds, h.startLedgerBlock, hC h.cursors⟩

theorem Watches.pass {n : Nat} {s : WatchState}
    (h : Watches rpc contractIds startLedgerBlock c.Later s) :
    Watches rpc contractIds startLedgerBlock c.Later (watchHost.pass n s) := by
  obtain ⟨now, hnow, hc⟩ := h.cursors
  have hclock : s.clock = now := congrArg Cursors.now hc
  refine ⟨h.rpc, h.contractIds, h.startLedgerBlock, s.clock + n, ?_, ?_⟩
  · have hstart : c.now ≤ s.clock := hclock ▸ hnow
    exact le_trans hstart (Int.le_add_of_nonneg_right (Int.natCast_nonneg n))
  · have hview : (watchHost.pass n s).cursors = s.cursors.atTime (s.clock + n) := rfl
    rw [hview, hc]
    rfl

/-- No request touches the cursors. -/
theorem Watches.serve {q : WatchReq} {s : WatchState}
    (h : Watches rpc contractIds startLedgerBlock C s) :
    Watches rpc contractIds startLedgerBlock C (watchServe q s).2 := by
  cases q with
  | updateMembership id data => exact ⟨h.rpc, h.contractIds, h.startLedgerBlock, h.cursors⟩
  | _ => exact h

/-- A handler touches neither the cursors nor, left alone, the contracts. -/
theorem Watches.handle {o : WatchOp} {s : WatchState} (ho : o.Handles)
    (hg : Steady E (.ran s o)) (h : Watches rpc contractIds startLedgerBlock C s) :
    Watches rpc contractIds startLedgerBlock C (watchOp o s).2 := by
  have hids : (watchOp o s).2.watcher.contractIds = contractIds := Eq.trans hg h.contractIds
  cases o with
  | setCursors l k b => exact ho.elim
  | setLiveLedger l => exact ho.elim
  | setBackfillLedger l => exact ho.elim
  | dispatched e => exact ho.elim
  | _ => exact ⟨h.rpc, hids, h.startLedgerBlock, h.cursors⟩

/-- What only waits for the RPC server leaves the cursors. -/
theorem guided_later (rpc : Time → RpcView) (contractIds : List ContractId)
    (startLedgerBlock : Option Ledger) (c : Cursors) {α : Type} {t : WatchPromise α}
    (ht : t.Uses WatchOp.Handles fun _ => True) :
    Guided watchHost (Steady E) (Watches rpc contractIds startLedgerBlock c.Later) t
      (fun _ => Watches rpc contractIds startLedgerBlock c.Later)
      (Watches rpc contractIds startLedgerBlock c.Later) :=
  Guided.of_uses (fun _ _ ho h hg => h.handle ho hg) (fun _ _ _ h => h.serve)
    (fun _ _ h => h.pass) ht

/-! ## Dispatching -/

theorem dispatch_spec {handler : EventHandler} (hhandler : handler.Handles)
    (event : ChannelAuthEvent) {A : WatchState → Prop} :
    Guided watchHost (Steady E) (Watches rpc contractIds startLedgerBlock c.Later)
      (EventWatcher.dispatch handler event)
      (fun _ => Watches rpc contractIds startLedgerBlock
        (c.dispatch [event]).Later) A := by
  apply Guided.bind (B := fun _ => Watches rpc contractIds startLedgerBlock
    (c.dispatch [event]).Later)
  · apply Guided.op
    intro s h _
    obtain ⟨now, hnow, hc⟩ := h.cursors
    refine ⟨h.rpc, h.contractIds, h.startLedgerBlock, now, hnow, ?_⟩
    have hview : (watchOp (.dispatched event) s).2.cursors = s.cursors.dispatch [event] := rfl
    rw [hc] at hview
    exact hview
  · intro _
    exact Guided.recover_lives Steady.lives (guided_later _ _ _ _ (hhandler event))
      fun _ => .pure fun _ h => h

/-- Dispatching adds the events, in order. -/
theorem dispatchAll_spec {handler : EventHandler} (hhandler : handler.Handles)
    (events : List ChannelAuthEvent) {A : WatchState → Prop} :
    Guided watchHost (Steady E) (Watches rpc contractIds startLedgerBlock c.Later)
      (Task.forEach (EventWatcher.dispatch handler) events)
      (fun _ => Watches rpc contractIds startLedgerBlock
        (c.dispatch events).Later) A := by
  induction events generalizing c with
  | nil =>
    have hnil : c.dispatch [] = c := by rw [Cursors.dispatch, List.append_nil]
    rw [hnil]
    exact .pure fun _ h => h
  | cons event events ih =>
    have hcons : c.dispatch (event :: events) = (c.dispatch [event]).dispatch events := by
      simp [Cursors.dispatch]
    rw [hcons]
    exact (dispatch_spec hhandler event).bind fun _ => ih

/-! ## The parts of a poll -/

/-- What the watcher relies on of the server: the feed describes its retention
and its reads, and an SDK error is one of those that `E` allows. -/
structure Feed.Describes (F : Feed) (E : WatchErr → Prop) (sdk : Sdk) (rpc : Time → RpcView)
    (contractIds : List ContractId) : Prop where
  oldestLedger : ∀ now, (rpc now).oldestLedger = F.oldestLedger now
  gives : ∀ startLedger, Guided watchHost (Steady E) (fun s => s.rpc = rpc)
    (fetchChannelAuthEvents sdk contractIds startLedger)
    (fun fetched s => F.gives startLedger fetched.1 fetched.2 s.clock) fun _ => True
  throws : sdk.Throws E
  expires : ∀ e, E e → isOutOfRetentionError e = true → F.expires

/-- A fetch rejects as the server and the SDK do. -/
theorem fetchChannelAuthEvents_throws {sdk : Sdk} (hsdk : sdk.Throws E)
    (contractIds : List ContractId) (startLedger : Ledger) :
    (fetchChannelAuthEvents sdk contractIds startLedger).Throws (RpcRejects E) E := by
  unfold fetchChannelAuthEvents
  split
  · exact .pure _
  · apply Throws.bind
    · apply Throws.collect
      intro filters _
      apply Throws.bind (Throws.call fun e he => he rfl)
      intro page
      apply Throws.bind
      · exact fun e he => hsdk.parseEvents he
      · exact fun _ => .pure _
    · exact fun _ => .pure _

section Parts
variable {F : Feed} {sdk : Sdk} {handler : EventHandler}

/-- A read waits, and returns what the feed gives. -/
theorem fetch_spec (hF : F.Describes E sdk rpc contractIds) (startLedger : Ledger) :
    Guided watchHost (Steady E) (Watches rpc contractIds startLedgerBlock c.Later)
      (fetchChannelAuthEvents sdk contractIds startLedger)
      (fun fetched s => ∃ now, c.now ≤ now ∧ F.gives startLedger fetched.1 fetched.2 now ∧
        Watches rpc contractIds startLedgerBlock (c.atTime now).Later s)
      (Watches rpc contractIds startLedgerBlock c.Later) := by
  have hboth := (hF.gives startLedger).and (guided_later rpc contractIds startLedgerBlock c
    (fetchChannelAuthEvents_uses sdk contractIds startLedger))
  refine hboth.mono (fun s h => ⟨h.rpc, h⟩) ?_ fun s h => h.2
  rintro fetched s ⟨hgives, h⟩
  obtain ⟨now, hnow, hc⟩ := h.cursors
  have hclock : s.clock = now := congrArg Cursors.now hc
  exact ⟨now, hnow, hclock ▸ hgives, h.rpc, h.contractIds, h.startLedgerBlock,
    now, le_rfl, hc⟩

/-- What the cursors of a run can be. -/
abbrev Watches.Reach (F : Feed) (rpc : Time → RpcView) (contractIds : List ContractId)
    (startLedgerBlock : Option Ledger) (c₀ : Cursors) : WatchState → Prop :=
  Watches rpc contractIds startLedgerBlock (c₀.Reaches F startLedgerBlock)

theorem Watches.later {s : WatchState} (h : Watches rpc contractIds startLedgerBlock C s) :
    Watches rpc contractIds startLedgerBlock s.cursors.Later s :=
  h.mono fun _ => .refl _

/-- A part that reads the fields first. -/
theorem guided_fields {α : Type} {k : EventWatcher → WatchPromise α} {B : α → WatchState → Prop}
    {A P : WatchState → Prop}
    (h : ∀ s, P s → Guided watchHost (Steady E) (· = s) (k s.watcher) B A) :
    Guided watchHost (Steady E) P (watchRun .fields >>= k) B A := by
  apply Guided.of_state
  intro s hs
  apply Guided.bind (B := fun watcher s' => watcher = s.watcher ∧ s' = s)
  · apply Guided.op
    rintro s' rfl -
    exact ⟨rfl, rfl⟩
  · intro watcher
    apply Guided.of_state
    rintro s' ⟨rfl, rfl⟩
    exact h s' hs

theorem resolveBootStartLedger_spec (hF : F.Describes E sdk rpc contractIds)
    (pin : Option Ledger) :
    Guided watchHost (Steady E) (Watches rpc contractIds startLedgerBlock c.Later)
      (resolveBootStartLedger pin)
      (fun start s => ∃ now, c.now ≤ now ∧ start = bootStart pin (F.oldestLedger now) ∧
        Watches rpc contractIds startLedgerBlock (c.atTime now).Later s)
      (Watches rpc contractIds startLedgerBlock c.Later) := by
  apply Guided.bind (B := fun (oldestLedger : Ledger) s => ∃ now, c.now ≤ now ∧
    oldestLedger = F.oldestLedger now ∧
    Watches rpc contractIds startLedgerBlock (c.atTime now).Later s)
  · apply Guided.call
    · exact fun _ _ h => h.pass
    · intro s h _
      obtain ⟨now, hnow, hc⟩ := h.cursors
      have hclock : s.clock = now := congrArg Cursors.now hc
      refine ⟨now, hnow, ?_, h.rpc, h.contractIds, h.startLedgerBlock, now, le_rfl, hc⟩
      rw [← hclock, ← hF.oldestLedger, ← h.rpc]
      rfl
    · exact fun _ _ h _ => h
    · exact fun _ h _ => h
  · intro oldestLedger
    apply Guided.pure
    rintro s ⟨now, hnow, rfl, h⟩
    exact ⟨now, hnow, rfl, h⟩

/-- A write of the fields that is a step of the cursors. -/
theorem Watches.write {c₁ : Cursors} {s s₁ : WatchState}
    (hreach : c₀.Reaches F startLedgerBlock c₁)
    (h : Watches rpc contractIds startLedgerBlock c.Later s) (hnow : c₁.now = c.now)
    (hrpc : s₁.rpc = s.rpc) (hids : s₁.watcher.contractIds = s.watcher.contractIds)
    (hpin : s₁.watcher.startLedgerBlock = s.watcher.startLedgerBlock)
    (hcursors : ∀ now, s.cursors = c.atTime now → s₁.cursors = c₁.atTime now) :
    Watches.Reach F rpc contractIds startLedgerBlock c₀ s₁ := by
  obtain ⟨now, hle, hc⟩ := h.cursors
  have hlater : c₁.Later s₁.cursors := ⟨now, hnow ▸ hle, hcursors now hc⟩
  exact ⟨hrpc.trans h.rpc, hids.trans h.contractIds, hpin.trans h.startLedgerBlock,
    hlater.reaches hreach⟩

theorem initCursors_spec (hF : F.Describes E sdk rpc contractIds) :
    Guided watchHost (Steady E) (Watches.Reach F rpc contractIds startLedgerBlock c₀)
      EventWatcher.initCursors (fun _ => Watches.Reach F rpc contractIds startLedgerBlock c₀)
      (Watches.Reach F rpc contractIds startLedgerBlock c₀) := by
  apply guided_fields
  intro s hs
  cases hlive : s.watcher.liveLedger with
  | some ledger =>
    apply Guided.pure
    rintro s' rfl
    exact hs
  | none =>
    have hnamed : ∀ s', s' = s → Watches rpc contractIds startLedgerBlock s.cursors.Later s' := by
      rintro s' rfl
      exact hs.later
    have hfail : ∀ s', Watches rpc contractIds startLedgerBlock s.cursors.Later s' →
        Watches.Reach F rpc contractIds startLedgerBlock c₀ s' :=
      fun s' h => h.mono fun h => h.reaches hs.cursors
    have htip : (watchCall .getLatestLedger).Uses WatchOp.Handles fun _ => True :=
      Uses.call trivial
    apply Guided.bind ((guided_later rpc contractIds startLedgerBlock s.cursors htip).mono hnamed (fun _ _ h => h) hfail)
    intro tip
    apply Guided.bind ((resolveBootStartLedger_spec hF s.watcher.startLedgerBlock).mono
      (fun _ h => h) (fun _ _ h => h) hfail)
    intro start
    apply Guided.op
    rintro s' ⟨now, hnow, rfl, h⟩ -
    have hwait := hs.cursors.tail (.wait s.cursors now hnow)
    have hstep := hwait.tail (.start (s.cursors.atTime now) tip hlive)
    refine Watches.write hstep h rfl ?_ ?_ ?_ ?_
    · rfl
    · rfl
    · rfl
    · intro now' hc
      have hview : ∀ b, (watchOp (.setCursors tip tip b) s').2.cursors =
          ((s'.cursors.withLive (some tip)).withCeiling tip).withBackfill b := fun _ => rfl
      refine (hview _).trans ?_
      rw [hc, hs.startLedgerBlock]
      rfl

/-- The errors of the live half. -/
theorem initCursors_throws : EventWatcher.initCursors.Throws (RpcRejects E) E := by
  apply Throws.bind (Throws.op _)
  intro watcher
  cases watcher.liveLedger with
  | some ledger => exact .pure _
  | none =>
    apply Throws.bind (Throws.call fun e he => he rfl)
    intro tip
    apply Throws.bind (Throws.bind (Throws.call fun e he => he rfl) fun _ => .pure _)
    exact fun start => Throws.op _

theorem readLive_spec (hF : F.Describes E sdk rpc contractIds) (hhandler : handler.Handles) :
    Guided watchHost (Steady E) (Watches.Reach F rpc contractIds startLedgerBlock c₀)
      (EventWatcher.readLive sdk handler)
      (fun _ => Watches.Reach F rpc contractIds startLedgerBlock c₀)
      (Watches.Reach F rpc contractIds startLedgerBlock c₀) := by
  apply guided_fields
  intro s hs
  cases hlive : s.watcher.liveLedger with
  | none =>
    apply Guided.fail
    rintro s' rfl
    exact hs
  | some ledger =>
    have hnamed : ∀ s', s' = s → Watches rpc contractIds startLedgerBlock s.cursors.Later s' := by
      rintro s' rfl
      exact hs.later
    have hfail : ∀ s', Watches rpc contractIds startLedgerBlock s.cursors.Later s' →
        Watches.Reach F rpc contractIds startLedgerBlock c₀ s' :=
      fun s' h => h.mono fun h => h.reaches hs.cursors
    simp only
    rw [hs.contractIds]
    apply Guided.bind ((fetch_spec hF ledger).mono hnamed (fun _ _ h => h) hfail)
    rintro ⟨events, latestLedger⟩
    apply Guided.of_state
    rintro s₁ ⟨now, hnow, hgives, h₁⟩
    have hwait := hs.cursors.tail (.wait s.cursors now hnow)
    have hstep := hwait.tail (.read (s.cursors.atTime now) ledger latestLedger events hlive hgives)
    have hnamed₁ : ∀ s', s' = s₁ →
        Watches rpc contractIds startLedgerBlock (s.cursors.atTime now).Later s' := by
      rintro s' rfl
      exact h₁
    apply Guided.bind ((dispatchAll_spec hhandler events).mono hnamed₁ (fun _ _ h => h)
      fun _ h => h)
    intro _
    apply Guided.bind (B := fun _ => Watches.Reach F rpc contractIds startLedgerBlock c₀)
    · apply Guided.op
      intro s₂ h₂ _
      refine Watches.write hstep h₂ rfl ?_ ?_ ?_ ?_
      · rfl
      · rfl
      · rfl
      · intro now' hc
        have hview : (watchOp (.setLiveLedger (some (latestLedger + 1))) s₂).2.cursors =
            s₂.cursors.withLive (some (latestLedger + 1)) := rfl
        refine hview.trans ?_
        rw [hc]
        rfl
    · intro _
      apply Guided.op
      intro s₃ h₃ _
      exact ⟨h₃.rpc, h₃.contractIds, h₃.startLedgerBlock, h₃.cursors⟩

theorem dispatchAll_throws (events : List ChannelAuthEvent) :
    (Task.forEach (EventWatcher.dispatch handler) events).Throws (RpcRejects E) E := by
  apply Throws.forEach
  intro event _
  exact Throws.bind (Throws.op _) fun _ => Throws.recover fun _ => .pure ()

theorem readLive_throws (hE : E ⟨"liveLedger is null"⟩) (hsdk : sdk.Throws E) :
    (EventWatcher.readLive sdk handler).Throws (RpcRejects E) E := by
  apply Throws.bind (Throws.op _)
  intro watcher
  cases watcher.liveLedger with
  | none =>
    intro e he
    cases he
    exact hE
  | some ledger =>
    apply Throws.bind (fetchChannelAuthEvents_throws hsdk _ ledger)
    intro fetched
    apply Throws.bind (dispatchAll_throws fetched.1)
    exact fun _ => Throws.bind (Throws.op _) fun _ => Throws.op _

theorem readBackfill_throws (hsdk : sdk.Throws E) {ledger ceiling : Ledger} :
    (EventWatcher.readBackfill sdk handler contractIds ledger ceiling).Throws (RpcRejects E) E := by
  apply Throws.bind (fetchChannelAuthEvents_throws hsdk _ ledger)
  exact fun fetched => Throws.bind (dispatchAll_throws _) fun _ => Throws.op _

/-- A slice moves the backfill cursor, or fails before it dispatched anything. -/
theorem readBackfill_spec (hF : F.Describes E sdk rpc contractIds) (hhandler : handler.Handles)
    {ledger ceiling : Ledger} (hledger : c.backfillLedger = some ledger)
    (hceiling : c.backfillCeiling = some ceiling) (hlt : ledger < ceiling)
    (hreach : c₀.Reaches F startLedgerBlock c) :
    Guided watchHost (Steady E) (Watches rpc contractIds startLedgerBlock c.Later)
      (EventWatcher.readBackfill sdk handler contractIds ledger ceiling)
      (fun _ => Watches.Reach F rpc contractIds startLedgerBlock c₀)
      (Watches rpc contractIds startLedgerBlock c.Later) := by
  apply Guided.bind (fetch_spec hF ledger)
  rintro ⟨events, latestLedger⟩
  apply Guided.of_state
  rintro s₁ ⟨now, hnow, hgives, h₁⟩
  have hwait := hreach.tail (.wait c now hnow)
  have hstep := hwait.tail
    (.slice (c.atTime now) ledger ceiling latestLedger events hledger hceiling hlt hgives)
  have hnamed₁ : ∀ s', s' = s₁ →
      Watches rpc contractIds startLedgerBlock (c.atTime now).Later s' := by
    rintro s' rfl
    exact h₁
  apply Guided.bind ((dispatchAll_spec hhandler _).mono hnamed₁ (fun _ _ h => h) fun _ h => h)
  intro _
  apply Guided.op
  intro s₂ h₂ _
  refine Watches.write hstep h₂ rfl ?_ ?_ ?_ ?_
  · rfl
  · rfl
  · rfl
  · intro now' hc
    have hview : ∀ b, (watchOp (.setBackfillLedger b) s₂).2.cursors = s₂.cursors.withBackfill b :=
      fun _ => rfl
    refine (hview _).trans ?_
    rw [hc]
    rfl

theorem reclampBackfill_spec (hF : F.Describes E sdk rpc contractIds) (hexpires : F.expires)
    {ceiling : Ledger} (hledger : c.backfillLedger.isSome)
    (hceiling : c.backfillCeiling = some ceiling) (hreach : c₀.Reaches F startLedgerBlock c) :
    Guided watchHost (Steady E) (Watches rpc contractIds startLedgerBlock c.Later)
      (EventWatcher.reclampBackfill startLedgerBlock ceiling)
      (fun _ => Watches.Reach F rpc contractIds startLedgerBlock c₀)
      (Watches.Reach F rpc contractIds startLedgerBlock c₀) := by
  have hfail : ∀ s', Watches rpc contractIds startLedgerBlock c.Later s' →
      Watches.Reach F rpc contractIds startLedgerBlock c₀ s' :=
    fun s' h => h.mono fun h => h.reaches hreach
  refine Guided.recover_lives Steady.lives ?_ fun _ => .pure fun _ h => h
  · apply Guided.bind ((resolveBootStartLedger_spec hF startLedgerBlock).mono
      (fun _ h => h) (fun _ _ h => h) hfail)
    intro start
    apply Guided.op
    rintro s₁ ⟨now, hnow, rfl, h₁⟩ -
    have hwait := hreach.tail (.wait c now hnow)
    have hstep := hwait.tail (.clamp (c.atTime now) ceiling hexpires hceiling hledger)
    refine Watches.write hstep h₁ rfl ?_ ?_ ?_ ?_
    · rfl
    · rfl
    · rfl
    · intro now' hc
      have hview : ∀ b, (watchOp (.setBackfillLedger b) s₁).2.cursors =
          s₁.cursors.withBackfill b := fun _ => rfl
      refine (hview _).trans ?_
      rw [hc]
      rfl

theorem pollBackfill_spec (hF : F.Describes E sdk rpc contractIds) (hhandler : handler.Handles) :
    Guided watchHost (Steady E) (Watches.Reach F rpc contractIds startLedgerBlock c₀)
      (EventWatcher.pollBackfill sdk handler)
      (fun _ => Watches.Reach F rpc contractIds startLedgerBlock c₀)
      (Watches.Reach F rpc contractIds startLedgerBlock c₀) := by
  apply guided_fields
  intro s hs
  have hsame : Guided watchHost (Steady E) (· = s) (Pure.pure () : WatchPromise Unit)
      (fun _ => Watches.Reach F rpc contractIds startLedgerBlock c₀)
      (Watches.Reach F rpc contractIds startLedgerBlock c₀) := by
    apply Guided.pure
    rintro s' rfl
    exact hs
  cases hledger : s.watcher.backfillLedger with
  | none => exact hsame
  | some ledger =>
    cases hceiling : s.watcher.backfillCeiling with
    | none => exact hsame
    | some ceiling =>
      simp only
      split
      · rename_i hge
        apply Guided.op
        rintro s' rfl -
        have hstep := hs.cursors.tail (.finish s'.cursors ledger ceiling hledger hceiling hge)
        exact ⟨hs.rpc, hs.contractIds, hs.startLedgerBlock, hstep⟩
      · rename_i hlt
        have hnamed : ∀ s', s' = s →
            Watches rpc contractIds startLedgerBlock s.cursors.Later s' := by
          rintro s' rfl
          exact hs.later
        have hfail : ∀ s', Watches rpc contractIds startLedgerBlock s.cursors.Later s' →
            Watches.Reach F rpc contractIds startLedgerBlock c₀ s' :=
          fun s' h => h.mono fun h => h.reaches hs.cursors
        rw [hs.contractIds, hs.startLedgerBlock]
        have hread := readBackfill_spec (c := s.cursors) hF hhandler hledger hceiling
          (not_le.mp hlt) hs.cursors
        apply Guided.settle_throws Steady.lives Steady.rejects
          (hread.mono hnamed (fun _ _ h => h) fun _ h => h) (readBackfill_throws hF.throws)
        · exact fun _ => .pure fun _ h => h
        · intro e he
          simp only
          split
          · rename_i hout
            exact reclampBackfill_spec hF (hF.expires e he hout)
              (Option.isSome_iff_exists.mpr ⟨ledger, hledger⟩) hceiling hs.cursors
          · exact .pure hfail

/-- **A poll moves the cursors by their steps.** -/
theorem poll_refines (hF : F.Describes E sdk rpc contractIds) (hhandler : handler.Handles)
    (hE : E ⟨"liveLedger is null"⟩) :
    Guided watchHost (Steady E) (Watches.Reach F rpc contractIds startLedgerBlock c₀)
      (EventWatcher.poll sdk handler)
      (fun _ => Watches.Reach F rpc contractIds startLedgerBlock c₀)
      (Watches.Reach F rpc contractIds startLedgerBlock c₀) := by
  have hlive : Guided watchHost (Steady E) (Watches.Reach F rpc contractIds startLedgerBlock c₀)
      (do
        EventWatcher.initCursors
        EventWatcher.readLive sdk handler)
      (fun _ => Watches.Reach F rpc contractIds startLedgerBlock c₀)
      (Watches.Reach F rpc contractIds startLedgerBlock c₀) :=
    (initCursors_spec hF).bind fun _ => readLive_spec hF hhandler
  apply Guided.settle_throws Steady.lives Steady.rejects hlive
    (initCursors_throws.bind fun _ => readLive_throws hE hF.throws)
  · exact fun _ => pollBackfill_spec hF hhandler
  · intro e he
    simp only
    split
    · rename_i hout
      apply Guided.op
      intro s hs _
      have hstep := hs.cursors.tail (.reset s.cursors (hF.expires e he hout))
      exact ⟨hs.rpc, hs.contractIds, hs.startLedgerBlock, hstep⟩
    · apply Guided.op
      intro s hs _
      exact ⟨hs.rpc, hs.contractIds, hs.startLedgerBlock, hs.cursors⟩

/-- The same for any number of polls. -/
theorem polls_refine (hF : F.Describes E sdk rpc contractIds) (hhandler : handler.Handles)
    (hE : E ⟨"liveLedger is null"⟩) {s s' : WatchState}
    (h : Rounds watchHost (Steady E) (EventWatcher.poll sdk handler) s s') (hrpc : s.rpc = rpc)
    (hids : s.watcher.contractIds = contractIds)
    (hpin : s.watcher.startLedgerBlock = startLedgerBlock) :
    s.cursors.Reaches F startLedgerBlock s'.cursors := by
  have hreach : Watches.Reach F rpc contractIds startLedgerBlock s.cursors s' := by
    apply h.invariant (poll_refines hF hhandler hE)
    · intro n s₁ h₁
      exact h₁.later.pass.mono fun hc => hc.reaches h₁.cursors
    · exact ⟨hrpc, hids, hpin, .refl⟩
  exact hreach.cursors

end Parts

end Watches

/-! ## The handler of the provider -/

/-- The handler of the one watcher leaves the cursors alone. -/
theorem watchEvent_handles : EventHandler.Handles watchEvent := by
  intro event
  apply (watchEvent_uses event).mono ?_ fun _ h => h
  intro o ho
  cases o with
  | setCursors l k b => exact ho
  | setLiveLedger l => exact ho
  | setBackfillLedger l => exact ho
  | dispatched e => exact ho
  | _ => trivial

end ProviderPlatform
