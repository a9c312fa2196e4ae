import ProviderPlatform.EventWatcher.Service

/-! # The polling loop

`EventWatcher.poll`: a live read from the tip, then one slice of the backfill
below the ledger where the live reads began. A poll starts when the one before
it has ended. -/
namespace ProviderPlatform
open Async

/-- A handler of events. -/
abbrev EventHandler := ChannelAuthEvent → WatchPromise Unit

/-- The oldest ledger the RPC retains, or the pin if that is later. -/
def resolveBootStartLedger (startLedgerBlock : Option Ledger) : WatchPromise Ledger := do
  let oldestLedger : Ledger ← watchCall .getHealth
  pure (startLedgerBlock.elim oldestLedger (max · oldestLedger))

namespace EventWatcher

/-- Hand an event to the handler; its errors are logged. -/
def dispatch (handler : EventHandler) (event : ChannelAuthEvent) : WatchPromise Unit := do
  watchRun (.dispatched event)
  (handler event).recover fun _ => pure ()

/-- Resolve both cursors, if the live cursor is not set. -/
def initCursors : WatchPromise Unit := do
  let watcher : EventWatcher ← watchRun .fields
  match watcher.liveLedger with
  | some _ => pure ()
  | none => do
    let tip : Ledger ← watchCall .getLatestLedger
    let backfillStart ← resolveBootStartLedger watcher.startLedgerBlock
    watchRun (.setCursors tip tip (if backfillStart ≥ tip then none else some backfillStart))

/-- Read from the live cursor, and advance it once everything is dispatched. -/
def readLive (sdk : Sdk) (handler : EventHandler) : WatchPromise Unit := do
  let watcher : EventWatcher ← watchRun .fields
  match watcher.liveLedger with
  | none => Task.fail (I := watching) ⟨"liveLedger is null"⟩
  | some liveLedger => do
    let fetched ← fetchChannelAuthEvents sdk watcher.contractIds liveLedger
    Task.forEach (I := watching) (dispatch handler) fetched.1
    watchRun (.setLiveLedger (some (fetched.2 + 1)))
    watchRun .pollOk

/-- One slice of history: dispatch what lies below the ceiling. -/
def readBackfill (sdk : Sdk) (handler : EventHandler) (contractIds : List ContractId)
    (backfillLedger backfillCeiling : Ledger) : WatchPromise Unit := do
  let fetched ← fetchChannelAuthEvents sdk contractIds backfillLedger
  Task.forEach (I := watching) (dispatch handler)
    (fetched.1.filter fun event => decide (event.ledger < backfillCeiling))
  watchRun (.setBackfillLedger
    (if fetched.2 + 1 ≥ backfillCeiling then none else some (fetched.2 + 1)))

/-- Resume the backfill at the oldest retained ledger. -/
def reclampBackfill (startLedgerBlock : Option Ledger) (backfillCeiling : Ledger) :
    WatchPromise Unit :=
  Task.recover (I := watching)
    (do
      let start ← resolveBootStartLedger startLedgerBlock
      watchRun (.setBackfillLedger (if start ≥ backfillCeiling then none else some start)))
    fun _ => pure ()

/-- Walk history one slice forward; its errors are logged there. -/
def pollBackfill (sdk : Sdk) (handler : EventHandler) : WatchPromise Unit := do
  let watcher : EventWatcher ← watchRun .fields
  match watcher.backfillLedger, watcher.backfillCeiling with
  | some backfillLedger, some backfillCeiling =>
    if backfillLedger ≥ backfillCeiling then watchRun (.setBackfillLedger none)
    else
      Task.recover (I := watching)
        (readBackfill sdk handler watcher.contractIds backfillLedger backfillCeiling)
        fun error =>
          if isOutOfRetentionError error then
            reclampBackfill watcher.startLedgerBlock backfillCeiling
          else pure ()
  | _, _ => pure ()

/-- One poll: the live read and, if it succeeds, a slice of the backfill. -/
def poll (sdk : Sdk) (handler : EventHandler) : WatchPromise Unit :=
  Task.settle (I := watching)
    (do
      initCursors
      readLive sdk handler)
    fun
      | .ok _ => pollBackfill sdk handler
      | .error error =>
        if isOutOfRetentionError error then watchRun (.setLiveLedger none)
        else watchRun (.pollError error.message)

/-! ## What a poll keeps -/

/-- The operations of a poll besides its dispatches. -/
def PollOp : WatchOp → Prop
  | .fields | .setCursors _ _ _ | .setLiveLedger _ | .setBackfillLedger _ | .pollOk
  | .pollError _ => True
  | _ => False

theorem resolveBootStartLedger_uses {okOp : WatchOp → Prop} (startLedgerBlock : Option Ledger) :
    (resolveBootStartLedger startLedgerBlock).Uses okOp fun _ => True :=
  Task.Uses.bind (Task.Uses.call trivial) fun _ => .pure _

theorem initCursors_uses : initCursors.Uses PollOp fun _ => True := by
  apply Task.Uses.bind (Task.Uses.op trivial)
  intro watcher
  cases watcher.liveLedger with
  | some ledger => exact .pure ()
  | none =>
    apply Task.Uses.bind (Task.Uses.call trivial)
    intro tip
    apply Task.Uses.bind (resolveBootStartLedger_uses _)
    exact fun start => Task.Uses.op trivial

section Keeps
variable {g : Step watching WatchState → Prop} {P : WatchState → Prop} {sdk : Sdk}
variable {handler : EventHandler}
variable (hquiet : ∀ {α : Type} {t : WatchPromise α}, t.Uses PollOp (fun _ => True) →
  Task.Guided watchHost g P t (fun _ => P) P)
variable (hdispatch : ∀ event, Task.Guided watchHost g P (dispatch handler event) (fun _ => P) P)
include hquiet hdispatch

theorem readLive_keeps : Task.Guided watchHost g P (readLive sdk handler) (fun _ => P) P := by
  apply Task.Guided.bind (hquiet (t := watchRun .fields) (Task.Uses.op trivial))
  intro watcher
  cases watcher.liveLedger with
  | none => exact .fail fun _ hs => hs
  | some ledger =>
    apply Task.Guided.bind (hquiet (fetchChannelAuthEvents_uses sdk _ ledger))
    intro fetched
    apply Task.Guided.bind (Task.Guided.forEach_keeps hdispatch _)
    intro _
    exact hquiet (Task.Uses.bind (Task.Uses.op trivial) fun _ => Task.Uses.op trivial)

theorem pollBackfill_keeps :
    Task.Guided watchHost g P (pollBackfill sdk handler) (fun _ => P) P := by
  apply Task.Guided.bind (hquiet (t := watchRun .fields) (Task.Uses.op trivial))
  intro watcher
  cases watcher.backfillLedger with
  | none => exact .pure fun _ hs => hs
  | some ledger =>
    cases watcher.backfillCeiling with
    | none => exact .pure fun _ hs => hs
    | some ceiling =>
      simp only
      split
      · exact hquiet (Task.Uses.op trivial)
      · refine Task.Guided.recover ?_ ?_ fun _ hs => hs
        · apply Task.Guided.bind (hquiet (fetchChannelAuthEvents_uses sdk _ ledger))
          intro fetched
          apply Task.Guided.bind (Task.Guided.forEach_keeps hdispatch _)
          exact fun _ => hquiet (Task.Uses.op trivial)
        · intro e
          split
          · apply hquiet
            apply Task.Uses.recover ?_ fun _ => .pure ()
            apply Task.Uses.bind (resolveBootStartLedger_uses _)
            exact fun start => Task.Uses.op trivial
          · exact .pure fun _ hs => hs

/-- A poll keeps what its cursor writes, its requests and its dispatches keep. -/
theorem poll_keeps : Task.Guided watchHost g P (poll sdk handler) (fun _ => P) P := by
  apply Task.Guided.settle
  · exact (hquiet initCursors_uses).bind fun _ => readLive_keeps hquiet hdispatch
  · exact fun _ => pollBackfill_keeps hquiet hdispatch
  · intro e
    simp only
    split
    · exact hquiet (Task.Uses.op trivial)
    · exact hquiet (Task.Uses.op trivial)
  · exact fun _ hs => hs

end Keeps

end EventWatcher
end ProviderPlatform
