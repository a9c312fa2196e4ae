import ProviderPlatform.Lifecycle.DoubleSubmission
import ProviderPlatform.Mempool.Expiry
import ProviderPlatform.Verifier.Settlement

/-! # What the tables keep

No command deletes a bundle or a transaction, and a link is only made to a
transaction that has a row. With the bookkeeping of the queue: in every state
that a provider reaches each queued bundle has a row that `findById` finds, and
is queued once. -/
namespace ProviderPlatform
open Async Store

/-- Every link is to a transaction that has a row. -/
def State.Referenced (s : State) : Prop :=
  ∀ key link, s.db.bundlesTransactions.find key = some link →
    (s.db.transactions.find key.2).isSome = true

theorem live_iff {s : State} {id : BundleId} :
    s.Live id ↔ ∃ row, s.db.operationsBundles.find id = some row ∧ row.deletedAt = none := by
  unfold State.Live
  simp only [Query.run]
  cases s.db.operationsBundles.find id with
  | none => simp
  | some row => simp [Option.filter_some]

/-- An insert of a transaction happens, under a hash that is free, or it changes
nothing. -/
theorem serve_createTransaction (data : NewTransaction) (s : State) :
    (∃ t, s.db.transactions.insert? (data.row s.clock) = some t ∧
      (serve (.command (.createTransaction data)) s).1 = .ok (data.row s.clock) ∧
      (serve (.command (.createTransaction data)) s).2 =
        { s with db := { s.db with transactions := t } }) ∨
    ((serve (.command (.createTransaction data)) s).1 = .error constraintViolation ∧
      (serve (.command (.createTransaction data)) s).2 = s) := by
  cases hinsert : s.db.transactions.insert? (data.row s.clock) with
  | none => exact .inr (by simp [serve, Command.run, Command.notes, hinsert])
  | some t => exact .inl ⟨t, rfl, by simp [serve, Command.run, Command.notes, hinsert]⟩

/-- No command removes a transaction. -/
theorem serve_keeps_transaction (w : Command) {s : State} {hash : TxHash}
    (h : (s.db.transactions.find hash).isSome = true) :
    ((serve (.command w) s).2.db.transactions.find hash).isSome = true := by
  cases w with
  | createTransaction data =>
    obtain ⟨t, hinsert, -, hstate⟩ | ⟨-, hsame⟩ := serve_createTransaction data s
    · rw [hstate]
      show (t.find hash).isSome = true
      rw [Table.find_insert hinsert]
      split
      · rfl
      · exact h
    · rwa [hsame]
  | updateTransaction hash' status =>
    have hfind := Command.updateTransaction_find s.db s.clock hash' status hash
    show (((Command.updateTransaction hash' status).run s.clock s.db).2.transactions.find hash).isSome =
      true
    rw [hfind, Option.isSome_map]
    exact h
  | _ =>
    simp only [serve, Command.run]
    repeat' split
    all_goals exact h

/-- The queue holds no bundle twice and none without a row, and every link is to
a transaction that has a row. -/
structure State.Orderly (s : State) : Prop where
  once : s.memory.mempool.queuedIds.Nodup
  live : ∀ id ∈ s.memory.mempool.queuedIds, s.Live id
  referenced : s.Referenced

/-- No row of a bundle is soft-deleted, and every link is to a transaction that
has a row. -/
structure State.Intact (s : State) : Prop where
  kept : ∀ id row, s.db.operationsBundles.find id = some row → row.deletedAt = none
  referenced : s.Referenced

section Intact
variable {s s' : State}

theorem State.Intact.same (h : s.Intact)
    (hbundles : ∀ id, s'.db.operationsBundles.find id = s.db.operationsBundles.find id)
    (htransactions : ∀ id, s'.db.transactions.find id = s.db.transactions.find id)
    (hlinks : ∀ key, s'.db.bundlesTransactions.find key = s.db.bundlesTransactions.find key) :
    s'.Intact where
  kept id row hrow := h.kept id row ((hbundles id).symm.trans hrow)
  referenced key link hlink := by
    rw [htransactions]
    exact h.referenced key link ((hlinks key).symm.trans hlink)

theorem State.Referenced.serve (h : s.Referenced) (w : Command) :
    (serve (.command w) s).2.Referenced := by
  have hquiet (hw : (Req.command w).Quiet) :
      (ProviderPlatform.serve (.command w) s).2.Referenced := by
    intro key link hlink
    rw [(serve_quiet hw s).links] at hlink
    exact serve_keeps_transaction w (h key link hlink)
  cases w with
  | createLink data =>
    rcases Command.run_createLink s.db s.clock data with hrun | ⟨t, hinsert, hrun⟩
    · have hdb : (ProviderPlatform.serve (.command (.createLink data)) s).2.db = s.db := by
        simp [ProviderPlatform.serve, hrun]
      rw [State.Referenced, hdb]
      exact h
    · have hdb : (ProviderPlatform.serve (.command (.createLink data)) s).2.db =
          { s.db with bundlesTransactions := t } := by simp [ProviderPlatform.serve, hrun]
      rw [State.Referenced, hdb]
      intro key link hlink
      show (s.db.transactions.find key.2).isSome = true
      have hlink : t.find key = some link := hlink
      rw [Table.find_insert hinsert] at hlink
      split at hlink
      · rename_i hkey
        rw [← hkey]
        simp only [Command.run] at hrun
        split at hrun
        · rename_i hfound
          exact (Bool.and_eq_true_iff.mp hfound).2
        · cases hrun
      · exact h key link hlink
  | _ => exact hquiet trivial

/-- No command deletes a row or a transaction. -/
theorem State.Intact.serve (h : s.Intact) (w : Command) : (serve (.command w) s).2.Intact := by
  refine ⟨fun id row hrow => ?_, h.referenced.serve w⟩
  have hset {p : OperationsBundle → Bool} {data : OperationsBundlePatch}
      (hfound : (s.db.setBundles s.clock p data).2.operationsBundles.find id = some row) :
      row.deletedAt = none := by
    rw [Database.setBundles_find] at hfound
    obtain ⟨old, hold, rfl⟩ := Option.map_eq_some_iff.mp hfound
    have hkept := h.kept id old hold
    split
    · exact hkept
    · exact hkept
  cases w with
  | createBundle data =>
    obtain ⟨-, -, hfind⟩ | ⟨-, -, hsame⟩ := serve_createBundle data s
    · rw [hfind] at hrow
      split at hrow
      · cases hrow
        rfl
      · exact h.kept id row hrow
    · rw [hsame] at hrow
      exact h.kept id row hrow
  | updateBundle _ _ | updateStatusIfActive _ _ _ | updateIfStatusIn _ _ _ | expireOlderThan _ _ _
    | expireByIds _ _ => exact hset hrow
  | updateTransaction _ _ => exact h.kept id row hrow
  | createUtxo _ | updateUtxo _ _ | createTransaction _ | createLink _ | recordInteraction _ _ =>
    refine h.kept id row (Eq.trans (Eq.symm ?_) hrow)
    simp only [ProviderPlatform.serve, Command.run]
    repeat' split
    all_goals rfl

theorem Fresh.intact {cfg : Config} (h : Fresh cfg s) : s.Intact where
  kept id row hrow := by
    have hmem := Table.find_mem hrow
    rw [h.bundles] at hmem
    cases hmem
  referenced key link hlink := by
    have hmem := Table.find_mem hlink
    rw [h.links] at hmem
    cases hmem

/-- An intact database stays so. -/
theorem State.Intact.run {cfg : Config} {fuel : Nat} {allowed : State → Call → Bool}
    {c c' : ProviderPool} (h : (process cfg fuel allowed).Run Machine.Free c c')
    (h0 : c.state.Intact) : c'.state.Intact := by
  refine h.invariant (P := fun c => c.state.Intact) (fun c ch c' hc _ hs => ?_) h0
  obtain ⟨l, w, -, hdb⟩ | ⟨-, hagrees⟩ := step_agrees hs
  · have hserved := hc.serve w
    have hsame : c'.state.db = (ProviderPlatform.serve (.command w) c.state).2.db := hdb
    exact hserved.same (fun _ => by rw [hsame]) (fun _ => by rw [hsame]) fun _ => by rw [hsame]
  · exact hc.same hagrees.bundles hagrees.transactions hagrees.links

theorem State.Intact.live (h : s.Intact) {id : BundleId} (hrow : s.HasRow id) : s.Live id := by
  obtain ⟨row, hrow⟩ := Option.isSome_iff_exists.mp hrow
  exact live_iff.mpr ⟨row, hrow, h.kept id row hrow⟩

end Intact

/-- What a run from a launch on an intact database reaches is orderly. -/
theorem State.Orderly.of_run {cfg : Config} {fuel : Nat} {s : State} {c : ProviderPool}
    (hboot : s.memory = .boot cfg) (hintact : s.Intact)
    (h : (operated cfg fuel).Run Machine.Free ((operated cfg fuel).init s) c) : c.state.Orderly := by
  have hreached : c.state.Intact := State.Intact.run h hintact
  obtain ⟨hnodup, hrows⟩ := queued_reachable hboot h
  exact ⟨hnodup, fun id hid => hreached.live (hrows id hid), hreached.referenced⟩

end ProviderPlatform
