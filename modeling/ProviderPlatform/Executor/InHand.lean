import ProviderPlatform.Lifecycle.Intact

/-! # The bundles in hand of a tick

A tick takes its slot out of the mempool before anything else, so each of its
bundles is in nobody else's hands until the tick has written its row, queued it
again or linked it to a transaction. Here is what one step of the tick does to
the standing of one bundle. -/
namespace ProviderPlatform
open Async Store

namespace State

/-- The row is in a terminal status, or the verifier will settle it. -/
def Settled (s : State) (id : BundleId) : Prop := s.Ended id ∨ s.Awaited id

/-- Something in the process will look at the bundle again, or need not. -/
def LookedAfter (s : State) (id : BundleId) : Prop :=
  s.Settled id ∨ id ∈ s.memory.mempool.queuedIds

end State

/-- The requests about the row of one bundle. -/
def Req.About (id : BundleId) : Req → Prop
  | .query (.findBundleById id') => id' = id
  | .command (.updateBundle id' _) => id' = id
  | .command (.updateStatusIfActive id' _ _) => id' = id
  | .command (.updateIfStatusIn id' _ _) => id' = id
  | _ => False

/-- The bundle that a placement would leave over, if it is heavier than a slot. -/
def Mempool.spilled (mempool : Mempool) (bundle : SlotBundle) : Option SlotBundle :=
  (offer bundle.channelContractId mempool.slots bundle).2.filter fun b =>
    decide (mempool.capacity < b.weight)

/-- The step lets go of a bundle that is not settled: a request about its row
rejects, or a placement leaves it over. -/
def LetsGo (id : BundleId) : Step platform State → Prop
  | .rejected s q _ => q.About id ∧ ¬ s.Settled id
  | .ran s (.place bundle) =>
    (s.memory.mempool.spilled bundle).map (·.bundleId) = some id ∧ ¬ s.Settled id
  | _ => False

/-! ## What is awaited -/

theorem mem_linkedTo {db : Database} {txId : TxHash} {id : BundleId} :
    id ∈ db.linkedTo txId ↔ ∃ link, db.bundlesTransactions.find (id, txId) = some link ∧
      link.deletedAt = none := by
  simp only [Database.linkedTo, Query.run, List.mem_map, Table.mem_select, Bool.and_eq_true,
    Option.isNone_iff_eq_none, beq_iff_eq]
  constructor
  · rintro ⟨link, ⟨hmem, hlive, rfl⟩, rfl⟩
    exact ⟨link, Table.find_of_mem hmem, hlive⟩
  · rintro ⟨link, hfind, hlive⟩
    have hkey := Table.find_key hfind
    exact ⟨link, ⟨Table.find_mem hfind, hlive, congrArg Prod.snd hkey⟩, congrArg Prod.fst hkey⟩

theorem awaited_iff {s : State} {id : BundleId} :
    s.Awaited id ↔ ∃ txId transaction, s.db.transactions.find txId = some transaction ∧
      transaction.deletedAt = none ∧ transaction.status = .unverified ∧
      ∃ link, s.db.bundlesTransactions.find (id, txId) = some link ∧ link.deletedAt = none := by
  constructor
  · rintro ⟨transaction, hmem, hlinked⟩
    obtain ⟨hrow, hlive, hstatus⟩ := mem_unverified.mp hmem
    exact ⟨transaction.id, transaction, Table.find_of_mem hrow, hlive, hstatus,
      mem_linkedTo.mp hlinked⟩
  · rintro ⟨txId, transaction, hfind, hlive, hstatus, hlinked⟩
    have hkey : transaction.id = txId := Table.find_key hfind
    exact ⟨transaction, mem_unverified.mpr ⟨Table.find_mem hfind, hlive, hstatus⟩,
      hkey ▸ mem_linkedTo.mpr hlinked⟩

/-! ## Writes -/

/-- From one state to the next the row of bundle `x` may have been written, and
nothing else of what the tick looks at. -/
structure Rewrote (x : BundleId) (s s' : State) : Prop where
  mempool : s'.memory.mempool = s.memory.mempool
  transactions : s'.db.transactions = s.db.transactions
  links : s'.db.bundlesTransactions = s.db.bundlesTransactions
  others : ∀ id, id ≠ x → s'.db.operationsBundles.find id = s.db.operationsBundles.find id
  live : ∀ id, s.Live id → s'.Live id

section Rewrote
variable {s s' : State} {x id : BundleId}

theorem Rewrote.awaited (h : Rewrote x s s') (id : BundleId) : s'.Awaited id ↔ s.Awaited id := by
  rw [awaited_iff, awaited_iff, h.transactions, h.links]

theorem Rewrote.referenced (h : Rewrote x s s') (hs : s.Referenced) : s'.Referenced := by
  unfold State.Referenced
  rw [h.transactions, h.links]
  exact hs

theorem Rewrote.ended (h : Rewrote x s s') (hne : id ≠ x) : s'.Ended id ↔ s.Ended id := by
  unfold State.Ended
  rw [h.others id hne]

/-- A write of the rows that match a condition keeps those of all other bundles. -/
theorem wrote_setBundles {p : OperationsBundle → Bool} {data : OperationsBundlePatch}
    (hp : ∀ row, p row = true → row.id = x)
    (hdb : s'.db = (s.db.setBundles s.clock p data).2) (hmemory : s'.memory = s.memory) :
    Rewrote x s s' := by
  have hfind (id : BundleId) : s'.db.operationsBundles.find id =
      (s.db.operationsBundles.find id).map fun r => if p r then r.set s.clock data else r := by
    rw [hdb, Database.setBundles_find]
  refine ⟨by rw [hmemory], by rw [hdb]; rfl, by rw [hdb]; rfl, fun id hne => ?_, fun id hlive => ?_⟩
  · rw [hfind]
    cases hrow : s.db.operationsBundles.find id with
    | none => rfl
    | some row =>
      have hkey : row.id = id := Table.find_key hrow
      have hnot : ¬ p row = true := fun hpr => hne (hkey ▸ hp row hpr)
      simp [hnot]
  · obtain ⟨row, hrow, hdeleted⟩ := live_iff.mp hlive
    refine live_iff.mpr ⟨_, by rw [hfind, hrow]; rfl, ?_⟩
    dsimp only
    split
    · exact hdeleted
    · exact hdeleted

/-- A row of a live bundle has not ended exactly while it is active. -/
theorem ended_iff_of_live (hlive : s.Live id) :
    s.Ended id ↔ ∃ row, s.db.operationsBundles.find id = some row ∧
      row.isIn BundleStatus.active = false := by
  obtain ⟨row, hrow, hdeleted⟩ := live_iff.mp hlive
  simp only [State.Ended, hrow, Option.some.injEq, exists_eq_left', OperationsBundle.isIn, hdeleted,
    Option.isNone_none, Bool.true_and, List.contains_eq_mem, decide_eq_false_iff_not]

theorem wrote_updateBundle (s : State) (x : BundleId) (data : OperationsBundlePatch) :
    Rewrote x s (serve (.command (.updateBundle x data)) s).2 :=
  wrote_setBundles (fun _ h => eq_of_beq h) rfl rfl

theorem wrote_updateStatusIfActive (s : State) (x : BundleId) (status : BundleStatus) :
    Rewrote x s (serve (.command (.updateStatusIfActive x status BundleStatus.active)) s).2 :=
  wrote_setBundles (fun _ h => eq_of_beq (Bool.and_eq_true_iff.mp h).1) rfl rfl

theorem wrote_updateIfStatusIn (s : State) (x : BundleId) (data : OperationsBundlePatch) :
    Rewrote x s (serve (.command (.updateIfStatusIn x data BundleStatus.active)) s).2 :=
  wrote_setBundles (fun _ h => eq_of_beq (Bool.and_eq_true_iff.mp h).1) rfl rfl

/-- An update by id to a terminal status ends the bundle. -/
theorem updateBundle_ends (hlive : s.Live x) {data : OperationsBundlePatch} {status : BundleStatus}
    (hdata : data.status = some status) (hterminal : status ∉ BundleStatus.active) :
    (serve (.command (.updateBundle x data)) s).2.Ended x := by
  obtain ⟨row, hrow, -⟩ := live_iff.mp hlive
  have hkey : row.id = x := Table.find_key hrow
  refine ⟨row.set s.clock data, ?_, ?_⟩
  · rw [find_updateBundle, hrow]
    simp [hkey]
  · rwa [OperationsBundle.set_status, hdata]

/-- So does a gated update, which leaves a bundle that has ended as it is. -/
theorem updateIfStatusIn_ends (hlive : s.Live x) {data : OperationsBundlePatch}
    {status : BundleStatus} (hdata : data.status = some status)
    (hterminal : status ∉ BundleStatus.active) :
    (serve (.command (.updateIfStatusIn x data BundleStatus.active)) s).2.Ended x := by
  obtain ⟨row, hrow, hdeleted⟩ := live_iff.mp hlive
  have hkey : row.id = x := Table.find_key hrow
  refine ⟨_, by rw [updateIfStatusIn_find, hrow]; rfl, ?_⟩
  dsimp only
  split
  · rwa [OperationsBundle.set_status, hdata]
  · rename_i hnot
    simpa [hkey, OperationsBundle.isIn, hdeleted] using hnot

/-- A gated update answers whether the bundle was active; where it was not it has
ended, and where the update keeps it active nothing has changed for it. -/
theorem updateIfStatusIn_answer (hlive : s.Live x) (data : OperationsBundlePatch) :
    ∃ updated : Bool,
      (serve (.command (.updateIfStatusIn x data BundleStatus.active)) s).1 = .ok updated ∧
      (updated = false → (serve (.command (.updateIfStatusIn x data BundleStatus.active)) s).2.Ended x) := by
  obtain ⟨row, hrow, hdeleted⟩ := live_iff.mp hlive
  refine ⟨row.isIn BundleStatus.active, congrArg Except.ok (select_gated hrow _), fun hnot => ?_⟩
  have hlive' := (wrote_updateIfStatusIn s x data).live x hlive
  refine (ended_iff_of_live hlive').mpr ⟨row, ?_, hnot⟩
  rw [updateIfStatusIn_find, hrow]
  simp [hnot]

end Rewrote

/-! ## Placements -/

/-- A placement queues the bundle, except for the one it leaves over. -/
theorem Mempool.place_spilled (mempool : Mempool) (bundle : SlotBundle) :
    ((mempool.place bundle).2.queued ++ (mempool.spilled bundle).toList).Perm
      (bundle :: mempool.queued) := by
  have hperm := offer_perm bundle.channelContractId mempool.slots bundle
  rcases ho : offer bundle.channelContractId mempool.slots bundle with ⟨slots, _ | removed⟩
  · rw [ho] at hperm
    rw [place_of_taken ho, spilled, ho]
    exact hperm
  · rw [ho] at hperm
    rw [place_of_leftover ho, spilled, ho, Option.filter_some]
    by_cases hw : removed.weight ≤ mempool.capacity
    · rw [if_pos hw, if_neg (by simpa using hw)]
      simpa [queued, Slot.push, Slot.new, sortByPriority] using hperm
    · rw [if_neg hw, if_pos (by simpa using hw)]
      exact hperm

theorem Mempool.place_spilled_ids (mempool : Mempool) (bundle : SlotBundle) :
    ((mempool.place bundle).2.queuedIds ++
      ((mempool.spilled bundle).map (·.bundleId)).toList).Perm
      (bundle.bundleId :: mempool.queuedIds) := by
  have hperm := (mempool.place_spilled bundle).map (·.bundleId)
  rw [List.map_append, List.map_cons] at hperm
  cases hspilled : mempool.spilled bundle with
  | none => simpa [hspilled, queuedIds] using hperm
  | some b => simpa [hspilled, queuedIds] using hperm

/-! ## What is in hand -/

/-- How one bundle of the slot stands while the tick has still to see to the
bundles `hand`: it is one of them and no step let go of it, or it is not and the
flag says whether nothing looks after it. -/
structure Handled (id : BundleId) (hand : List BundleId) (d : Prop) (s : State) : Prop where
  live : s.Live id
  referenced : s.Referenced
  apart : (hand ++ s.memory.mempool.queuedIds).Nodup
  inHand : id ∈ hand → ¬ d
  passed : id ∉ hand → (d ↔ ¬ s.LookedAfter id)

namespace Handled
variable {id x : BundleId} {hand hand' : List BundleId} {d : Prop} {s s' : State}

theorem perm (h : Handled id hand d s) (hperm : hand'.Perm hand) : Handled id hand' d s where
  live := h.live
  referenced := h.referenced
  apart := (hperm.append_right _).nodup_iff.mpr h.apart
  inHand hid := h.inHand (hperm.mem_iff.mp hid)
  passed hid := h.passed fun hmem => hid (hperm.mem_iff.mpr hmem)

/-- Where the queue and the settlement of the bundle are the same, it stands the
same. -/
theorem same (h : Handled id hand d s) (hlive : s'.Live id) (hreferenced : s'.Referenced)
    (hqueue : s'.memory.mempool.queuedIds = s.memory.mempool.queuedIds)
    (hsettled : id ∉ hand → (s'.Settled id ↔ s.Settled id)) : Handled id hand d s' where
  live := hlive
  referenced := hreferenced
  apart := by rw [hqueue]; exact h.apart
  inHand := h.inHand
  passed hid := by
    rw [h.passed hid, State.LookedAfter, State.LookedAfter, hsettled hid, hqueue]

/-- The row of another bundle was written, or one that is in hand anyway. -/
theorem wrote (h : Handled id hand d s) (hw : Rewrote x s s')
    (hx : x = id → id ∉ hand → (s'.Ended id ↔ s.Ended id)) : Handled id hand d s' := by
  refine h.same (hw.live id h.live) (hw.referenced h.referenced)
    (by rw [Mempool.queuedIds, Mempool.queuedIds, hw.mempool]) fun hid => ?_
  by_cases hne : x = id
  · rw [State.Settled, State.Settled, hx hne hid, hw.awaited]
  · rw [State.Settled, State.Settled, hw.ended (Ne.symm hne), hw.awaited]

/-- The bundle `x` leaves the hand: the others stand as they did. -/
theorem pass (h : Handled id (x :: hand) d s) (hx : x = id → (d ↔ ¬ s.LookedAfter id)) :
    Handled id hand d s := by
  obtain ⟨hnot, hnodup⟩ := List.nodup_cons.mp h.apart
  refine ⟨h.live, h.referenced, hnodup, fun hid => h.inHand (.tail x hid), fun hid => ?_⟩
  by_cases hne : x = id
  · exact hx hne
  · refine h.passed fun hmem => ?_
    obtain rfl | hmem := List.mem_cons.mp hmem
    · exact hne rfl
    · exact hid hmem

/-- Its row has been written to a terminal status. -/
theorem endRow (h : Handled id (x :: hand) d s) (hw : Rewrote x s s')
    (hended : s.Live x → s'.Ended x) : Handled id hand d s' := by
  refine (h.wrote hw fun he hid => absurd (he ▸ List.mem_cons_self) hid).pass fun he => ?_
  subst he
  have hdown : ¬ d := h.inHand List.mem_cons_self
  have hlooked : s'.LookedAfter x := .inl (.inl (hended h.live))
  exact ⟨fun hd => absurd hd hdown, fun hnot => absurd hlooked hnot⟩

/-- A request about its row rejects: the tick lets go of it. -/
theorem letGo (h : Handled id (x :: hand) d s) {q : Req} (hq : q.About x) (e : Err) :
    Handled id hand (d ∨ LetsGo id (.rejected s q e)) s := by
  have habout {y : BundleId} (hy : q.About y) : y = x := by
    unfold Req.About at hq hy
    split at hq
    all_goals first
      | exact hy.symm.trans hq
      | exact hq.elim
  obtain ⟨hnot, -⟩ := List.nodup_cons.mp h.apart
  by_cases he : x = id
  · subst he
    have hdown : ¬ d := h.inHand List.mem_cons_self
    have hout : x ∉ s.memory.mempool.queuedIds := fun hmem => hnot (List.mem_append_right _ hmem)
    have hflag : (d ∨ LetsGo x (.rejected s q e)) ↔ ¬ s.LookedAfter x := by
      simp only [hdown, false_or, LetsGo, hq, true_and, State.LookedAfter, hout, or_false]
    refine ⟨h.live, h.referenced, (List.nodup_cons.mp h.apart).2, fun hid => ?_, fun _ => hflag⟩
    exact absurd (List.mem_append_left _ hid) hnot
  · have hflag : (d ∨ LetsGo id (.rejected s q e)) = d := by
      simp only [LetsGo]
      refine propext ⟨?_, .inl⟩
      rintro (hd | ⟨hid, -⟩)
      · exact hd
      · exact absurd (habout hid).symm he
    rw [hflag]
    exact h.pass fun hx => absurd hx he

/-- A bundle is placed: it is queued then, or it or another one is left over. -/
theorem place {bundle : SlotBundle} (h : Handled id (bundle.bundleId :: hand) d s) :
    Handled id hand (d ∨ LetsGo id (.ran s (.place bundle))) (runOp (.place bundle) s).2 := by
  let after := (s.memory.mempool.place bundle).2.queuedIds
  let left := (s.memory.mempool.spilled bundle).map (·.bundleId)
  have hids : (after ++ left.toList).Perm (bundle.bundleId :: s.memory.mempool.queuedIds) :=
    s.memory.mempool.place_spilled_ids bundle
  have hall : (hand ++ (after ++ left.toList)).Nodup := by
    refine ((hids.append_left hand).trans List.perm_middle).nodup_iff.mpr ?_
    exact h.apart
  have hqueue : (after ++ left.toList).Nodup := hall.of_append_right
  have hmem (y : BundleId) : y ∈ after ∨ left = some y ↔
      y = bundle.bundleId ∨ y ∈ s.memory.mempool.queuedIds := by
    have hiff := hids.mem_iff (a := y)
    simpa [Option.mem_toList] using hiff
  have hsettled : (runOp (.place bundle) s).2.Settled id ↔ s.Settled id := Iff.rfl
  refine ⟨h.live, h.referenced, ?_, fun hid => ?_, fun hid => ?_⟩
  · rw [← List.append_assoc] at hall
    exact hall.of_append_left
  · have hnot : left ≠ some id := fun hleft =>
      List.disjoint_of_nodup_append hall hid (by simp [hleft])
    rintro (hd | ⟨hleft, -⟩)
    · exact h.inHand (.tail _ hid) hd
    · exact hnot hleft
  · show _ ↔ ¬ (s.Settled id ∨ id ∈ after)
    have hdown (hin : id = bundle.bundleId ∨ id ∈ s.memory.mempool.queuedIds) : ¬ d := by
      obtain rfl | hqueued := hin
      · exact h.inHand List.mem_cons_self
      · by_cases he : id = bundle.bundleId
        · exact h.inHand (he ▸ List.mem_cons_self)
        · have hpassed := h.passed fun hmem => (List.mem_cons.mp hmem).elim he hid
          exact fun hd => hpassed.mp hd (.inr hqueued)
    by_cases hleft : left = some id
    · have hout : id ∉ after := fun hin =>
        List.disjoint_of_nodup_append hqueue hin (by simp [hleft])
      have hnot := hdown ((hmem id).mp (.inr hleft))
      have hflag : LetsGo id (.ran s (.place bundle)) ↔ ¬ s.Settled id := by
        simp only [LetsGo]
        exact ⟨And.right, fun hs => ⟨hleft, hs⟩⟩
      simp only [hnot, false_or, hflag, hout, or_false]
    · have hflag : ¬ LetsGo id (.ran s (.place bundle)) := fun hl => hleft hl.1
      by_cases he : id = bundle.bundleId
      · have hin : id ∈ after := ((hmem id).mpr (.inl he)).resolve_right hleft
        simp only [hdown (.inl he), hflag, hin, or_false, or_true, not_true_eq_false]
      · have hiff : id ∈ after ↔ id ∈ s.memory.mempool.queuedIds := by
          have hboth := hmem id
          simp only [hleft, or_false, he, false_or] at hboth
          exact hboth
        have hpassed := h.passed fun hmem => (List.mem_cons.mp hmem).elim he hid
        simp only [hflag, or_false, hiff]
        exact hpassed

end Handled

/-! ## The steps of a tick -/

/-- Neither the slots nor the database change. -/
def Op.Spares : Op → Prop
  | .place _ | .takeExpired | .purgeBundles _ | .removeFirstSlot => False
  | _ => True

/-- A read that is not about one row, or a record of bundles in hand. -/
def Req.Spares (hand : List BundleId) : Req → Prop
  | .query (.findBundleById _) => False
  | .command (.createTransaction _) => True
  | .command (.createLink data) => data.bundleId ∈ hand
  | .command _ => False
  | _ => True

section Tick
variable {α : Type} {cfg : Config} {id x : BundleId} {hand : List BundleId} {d : Prop} {s : State}

theorem Handled.pass_time (h : Handled id hand d s) (n : Nat) : Handled id hand d (host.pass n s) :=
  ⟨h.live, h.referenced, h.apart, h.inHand, h.passed⟩

theorem Handled.runOp {o : Op} (h : Handled id hand d s) (ho : o.Spares) :
    Handled id hand (d ∨ LetsGo id (.ran s o)) (runOp o s).2 := by
  have hflag : (d ∨ LetsGo id (.ran s o)) = d := by
    cases o with
    | place | takeExpired | purgeBundles | removeFirstSlot => exact ho.elim
    | _ => simp [LetsGo]
  have hmempool : (ProviderPlatform.runOp o s).2.memory.mempool = s.memory.mempool := by
    cases o with
    | place | takeExpired | purgeBundles | removeFirstSlot => exact ho.elim
    | _ => rfl
  have hdb := runOp_db o s
  rw [hflag]
  refine h.same ?_ ?_ (by rw [Mempool.queuedIds, Mempool.queuedIds, hmempool]) fun _ => ?_
  · rw [State.Live, hdb]
    exact h.live
  · unfold State.Referenced
    rw [hdb]
    exact h.referenced
  · rw [State.Settled, State.Settled, State.Ended, State.Ended, State.Awaited, State.Awaited, hdb]

/-- A new transaction has no links yet. -/
theorem Handled.createTransaction (h : Handled id hand d s) (data : NewTransaction) :
    Handled id hand d (serve (.command (.createTransaction data)) s).2 := by
  obtain ⟨t, hinsert, -, hstate⟩ | ⟨-, hstate⟩ := serve_createTransaction data s
  · have hnone := (Table.insert?_eq_some hinsert).1
    have hfind := Table.find_insert hinsert
    rw [hstate]
    have hkept {txId : TxHash} (hsome : (s.db.transactions.find txId).isSome = true) :
        t.find txId = s.db.transactions.find txId := by
      rw [hfind, if_neg]
      rintro rfl
      rw [hnone] at hsome
      cases hsome
    refine h.same h.live (fun key link hlink => ?_) rfl fun _ => ?_
    · show (t.find key.2).isSome = true
      have hsome := h.referenced key link hlink
      rw [hkept hsome]
      exact hsome
    · have hawaited : State.Awaited { s with db := { s.db with transactions := t } } id ↔ s.Awaited id := by
        rw [awaited_iff, awaited_iff]
        constructor
        · rintro ⟨txId, row, hrow, hlive, hstatus, link, hlink, hdeleted⟩
          refine ⟨txId, row, ?_, hlive, hstatus, link, hlink, hdeleted⟩
          rw [← hkept (h.referenced (id, txId) link hlink)]
          exact hrow
        · rintro ⟨txId, row, hrow, hlive, hstatus, link, hlink, hdeleted⟩
          refine ⟨txId, row, ?_, hlive, hstatus, link, hlink, hdeleted⟩
          exact (hkept (Option.isSome_of_eq_some hrow)).trans hrow
      exact or_congr Iff.rfl hawaited
  · rw [hstate]
    exact h

/-- A link of a bundle in hand. -/
theorem Handled.createLink (h : Handled id hand d s) {data : NewBundleTransaction}
    (hmem : data.bundleId ∈ hand) :
    Handled id hand d (serve (.command (.createLink data)) s).2 := by
  have hreferenced := h.referenced.serve (.createLink data)
  have hstate : (serve (.command (.createLink data)) s).2 =
      { s with db := ((Command.createLink data).run s.clock s.db).2 } := by
    simp [serve, Command.notes]
  rw [hstate] at hreferenced ⊢
  rcases Command.run_createLink s.db s.clock data with hrun | ⟨t, hinsert, hrun⟩
  · rw [hrun]
    exact h
  · rw [hrun] at hreferenced ⊢
    refine h.same h.live hreferenced rfl fun hid => ?_
    have hlinks (txId : TxHash) :
        t.find (id, txId) = s.db.bundlesTransactions.find (id, txId) := by
      have hkey : (data.row s.clock).key = (data.bundleId, data.transactionId) := rfl
      rw [Table.find_insert hinsert, hkey, if_neg]
      intro he
      exact hid ((Prod.mk.inj he).1 ▸ hmem)
    refine or_congr Iff.rfl ?_
    rw [awaited_iff, awaited_iff]
    simp only [hlinks]

theorem Handled.serve {q : Req} (h : Handled id hand d s) (hq : q.Spares hand) :
    Handled id hand (d ∨ LetsGo id (.served s q)) (serve q s).2 ∧
      ∀ e, Handled id hand (d ∨ LetsGo id (.rejected s q e)) s := by
  have hnot : ¬ q.About id := by
    unfold Req.About
    split
    all_goals first
      | exact fun _ => hq.elim
      | exact not_false
  have hserved : (d ∨ LetsGo id (.served s q)) = d := by simp [LetsGo]
  refine ⟨?_, fun e => ?_⟩
  · rw [hserved]
    cases q with
    | query q => exact h
    | rpc r =>
      exact h.same h.live h.referenced rfl fun _ => Iff.rfl
    | command c =>
      cases c with
      | createTransaction data => exact h.createTransaction data
      | createLink data => exact h.createLink hq
      | _ => exact hq.elim
  · have hflag : (d ∨ LetsGo id (.rejected s q e)) = d := by simp [LetsGo, hnot]
    rw [hflag]
    exact h

end Tick

end ProviderPlatform
