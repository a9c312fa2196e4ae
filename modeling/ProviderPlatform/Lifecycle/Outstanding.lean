import ProviderPlatform.Lifecycle.Handover

/-! # Outstanding transactions

A transaction is outstanding from the moment the submission returned its hash
until its row is marked FAILED. No bundle of an outstanding transaction may be
handed to the network again. -/
namespace ProviderPlatform
open Async Store

/-! ## The trace -/

/-- The hash of a transaction and the bundles it was built from. -/
abbrev Sent := TxHash × List BundleId

/-- How one entry of the trace changes what is outstanding. -/
def Submission.track (sent : List Sent) : Submission → List Sent
  | .handed _ _ _ => sent
  | .returned hash bundleIds => (hash, bundleIds) :: sent
  | .markedFailed hash => sent.filter (·.1 != hash)

/-- The transactions whose hash was returned and that were not marked FAILED
since. -/
def outstanding (history : List Submission) : List Sent := history.foldl Submission.track []

/-- Whenever bundles are handed to the network, none of them is of an
outstanding transaction. -/
def NoDoubleSubmission (history : List Submission) : Prop :=
  ∀ before after channel pp bundles, history = before ++ .handed channel pp bundles :: after →
    ∀ b ∈ bundles, ∀ p ∈ outstanding before, b.bundleId ∉ p.2

section Trace
variable {history : List Submission}

theorem outstanding_concat (history : List Submission) (e : Submission) :
    outstanding (history ++ [e]) = Submission.track (outstanding history) e := by
  simp [outstanding]

/-- One more entry, which hands over nothing that is outstanding. -/
theorem NoDoubleSubmission.concat {e : Submission} (h : NoDoubleSubmission history)
    (he : ∀ channel pp bundles, e = .handed channel pp bundles →
      ∀ b ∈ bundles, ∀ p ∈ outstanding history, b.bundleId ∉ p.2) :
    NoDoubleSubmission (history ++ [e]) := by
  intro before after channel pp bundles hsplit
  rcases List.eq_nil_or_concat after with rfl | ⟨after', last, rfl⟩
  · obtain ⟨rfl, hlast⟩ := List.append_inj' hsplit rfl
    exact he channel pp bundles (List.singleton_inj.mp hlast)
  · rw [List.concat_eq_append, ← List.cons_append, ← List.append_assoc] at hsplit
    obtain ⟨rfl, -⟩ := List.append_inj' hsplit rfl
    exact h before after' channel pp bundles rfl

end Trace

/-! ## The state -/

namespace State

def HasRow (s : State) (id : BundleId) : Prop := (s.db.operationsBundles.find id).isSome

/-- The bundle is of no outstanding transaction. -/
def Clear (s : State) (id : BundleId) : Prop := ∀ p ∈ outstanding s.history, id ∉ p.2

/-- The bundle is linked to a transaction. -/
def Linked (s : State) (id : BundleId) : Prop := (Query.findLinksByBundleId id).run s.db ≠ []

/-- Every bundle of an outstanding transaction is linked to it. -/
def Recorded (s : State) : Prop :=
  ∀ p ∈ outstanding s.history, ∀ id ∈ p.2, (s.db.bundlesTransactions.find (id, p.1)).isSome

/-- Of the rows that a boot would load, those of outstanding transactions are
PROCESSING and linked. -/
def Hydratable (s : State) : Prop :=
  ∀ row ∈ Query.findPendingOrProcessing.run s.db,
    s.Clear row.id ∨ row.status = .processing ∧ s.Linked row.id

instance (s : State) (id : BundleId) : Decidable (s.Clear id) :=
  inferInstanceAs (Decidable (∀ p ∈ outstanding s.history, id ∉ p.2))

instance (s : State) (id : BundleId) : Decidable (s.Linked id) :=
  inferInstanceAs (Decidable (_ ≠ ([] : List BundleTransaction)))

instance (s : State) : Decidable s.Recorded :=
  inferInstanceAs (Decidable (∀ p ∈ outstanding s.history, ∀ id ∈ p.2, _))

instance (s : State) : Decidable s.Hydratable :=
  inferInstanceAs (Decidable (∀ row ∈ (_ : List OperationsBundle), _))

theorem linked_iff {s : State} {id : BundleId} :
    s.Linked id ↔ ∃ key row, s.db.bundlesTransactions.find key = some row ∧
      row.deletedAt = none ∧ row.bundleId = id := by
  have hmem (row : BundleTransaction) : row ∈ (Query.findLinksByBundleId id).run s.db ↔
      row ∈ s.db.bundlesTransactions.rows ∧ row.deletedAt = none ∧ row.bundleId = id := by
    simp [Query.run, Table.mem_select]
  constructor
  · intro h
    obtain ⟨row, hrow⟩ := List.exists_mem_of_ne_nil _ h
    obtain ⟨hrows, hlive⟩ := (hmem row).mp hrow
    exact ⟨row.key, row, Table.find_of_mem hrows, hlive⟩
  · rintro ⟨key, row, hfind, hlive⟩
    exact List.ne_nil_of_mem ((hmem row).mpr ⟨Table.find_mem hfind, hlive⟩)

end State

/-! ## Quiet changes -/

/-- Nothing joins the queue, no row or accepted hash is lost, no link is made,
and the trace grows at most by a transaction that is marked FAILED. -/
structure Quiet (s s' : State) : Prop where
  queued : s'.memory.mempool.queued.Subperm s.memory.mempool.queued
  rows : ∀ id, s.HasRow id → s'.HasRow id
  links : ∀ key, s'.db.bundlesTransactions.find key = s.db.bundlesTransactions.find key
  accepted : ∀ hash ∈ s.network.accepted, hash ∈ s'.network.accepted
  history : s'.history = s.history ∨ ∃ hash, s'.history = s.history ++ [.markedFailed hash]
  started : s'.memory.started = s.memory.started

namespace Quiet
variable {s s' : State} {id : BundleId}

theorem outstanding (h : Quiet s s') {p : Sent} (hp : p ∈ outstanding s'.history) :
    p ∈ ProviderPlatform.outstanding s.history := by
  rcases h.history with he | ⟨hash, he⟩
  · rwa [he] at hp
  · rw [he, outstanding_concat] at hp
    exact (List.mem_filter.mp hp).1

theorem clear (h : Quiet s s') (hc : s.Clear id) : s'.Clear id :=
  fun p hp => hc p (h.outstanding hp)

theorem linked (h : Quiet s s') (hl : s.Linked id) : s'.Linked id := by
  obtain ⟨key, row, hfind, hlive⟩ := State.linked_iff.mp hl
  exact State.linked_iff.mpr ⟨key, row, (h.links key).trans hfind, hlive⟩

theorem trace (h : Quiet s s') (ht : NoDoubleSubmission s.history) :
    NoDoubleSubmission s'.history := by
  rcases h.history with he | ⟨hash, he⟩
  · rwa [he]
  · rw [he]
    exact ht.concat fun _ _ _ => nofun

end Quiet

/-- Operations that make quiet changes. -/
def Op.Quiet : Op → Prop
  | .place _ | .note _ | .setStarted => False
  | _ => True

/-- Requests that make quiet changes. -/
def Req.Quiet : Req → Prop
  | .command (.createLink _) => False
  | _ => True

theorem runOp_quiet {o : Op} (ho : o.Quiet) (s : State) : Quiet s (runOp o s).2 := by
  have hqueued : (runOp o s).2.memory.mempool.queued.Sublist s.memory.mempool.queued :=
    runOp_queued (fun bundle he => by rw [he] at ho; exact ho) s
  refine ⟨hqueued.subperm, fun id h => ?_, fun key => ?_, fun hash h => ?_, ?_, ?_⟩
  · rwa [State.HasRow, runOp_db]
  · rw [runOp_db]
  · rwa [runOp_network]
  · cases o <;> first | exact .inl rfl | exact ho.elim
  · cases o <;> first | rfl | exact ho.elim

theorem Command.notes_cases (w : Command) (db : Database) :
    w.notes db = [] ∨ ∃ hash, w.notes db = [.markedFailed hash] := by
  unfold Command.notes
  split
  · rename_i hash
    split
    · exact .inr ⟨hash, rfl⟩
    · exact .inl rfl
  · exact .inl rfl

theorem Command.run_links {w : Command} (hw : (Req.command w).Quiet) (now : Time) (db : Database) :
    (w.run now db).2.bundlesTransactions = db.bundlesTransactions := by
  cases w with
  | createLink data => exact hw.elim
  | createBundle _ | createTransaction _ | createUtxo _ | updateUtxo _ _ | recordInteraction _ _ =>
    simp only [Command.run]
    repeat' split
    all_goals rfl
  | _ => rfl

/-- A transaction is refused, or accepted under a hash that no other has. -/
theorem Rpc.run_invokeRaw (net : Network) (ctx : ChannelContext)
    (operations : List MoonlightOperation) :
    (∃ e, (Rpc.invokeRaw ctx operations).run net = (.error e, net)) ∨
      ∃ hash, hash ∉ net.accepted ∧ (Rpc.invokeRaw ctx operations).run net =
        (.ok hash, { net with accepted := hash :: net.accepted }) := by
  simp only [Rpc.run]
  split
  · rename_i e _
    exact .inl ⟨e, rfl⟩
  · rename_i hash _
    split
    · exact .inl ⟨_, rfl⟩
    · rename_i hnot
      exact .inr ⟨hash, by simpa using hnot, rfl⟩

theorem Rpc.run_accepted (net : Network) (r : Rpc) :
    ∀ hash ∈ net.accepted, hash ∈ (r.run net).2.accepted := by
  intro hash h
  cases r with
  | invokeRaw ctx operations =>
    rcases Rpc.run_invokeRaw net ctx operations with ⟨e, hrun⟩ | ⟨new, -, hrun⟩
    · rwa [hrun]
    · rw [hrun]
      exact List.mem_cons_of_mem _ h
  | _ => exact h

theorem serve_quiet {q : Req} (hq : q.Quiet) (s : State) : Quiet s (serve q s).2 := by
  cases q with
  | query q => exact ⟨.refl _, fun _ h => h, fun _ => rfl, fun _ h => h, .inl rfl, rfl⟩
  | command w =>
    refine ⟨.refl _, fun id h => w.run_keeps_bundle s.clock h, fun key => ?_, fun _ h => h, ?_, rfl⟩
    · exact congrArg (·.find key) (Command.run_links hq s.clock s.db)
    · rcases w.notes_cases s.db with hnone | ⟨hash, hmark⟩
      · exact .inl (by simp [serve, hnone])
      · exact .inr ⟨hash, by simp [serve, hmark]⟩
  | rpc r =>
    exact ⟨.refl _, fun _ h => h, fun _ => rfl, r.run_accepted s.network, .inl rfl, rfl⟩

theorem drift_quiet (d : Drift) (s : State) : Quiet s (drift d s) := by
  have hagrees := drift_agrees d s
  refine ⟨?_, fun id h => ?_, hagrees.links, fun hash h => ?_, .inl (drift_history d s),
    drift_started d s⟩
  · rw [drift_mempool]
  · rwa [State.HasRow, hagrees.bundles]
  · rwa [drift_accepted]

end ProviderPlatform
