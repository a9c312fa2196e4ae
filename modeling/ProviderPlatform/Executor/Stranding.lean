import ProviderPlatform.Async.Flags
import ProviderPlatform.Executor.InHand
import ProviderPlatform.Mempool.Purge

/-! # What a tick strands

A bundle of the slot comes out of the tick in a terminal status, in the queue or
linked to an UNVERIFIED transaction, unless a call about its row rejects or a
retried bundle finds no slot: each of these is logged and passed over, and
nothing looks at the bundle again. -/
namespace ProviderPlatform
open Async Store

/-- The triple of a part of the tick, for the bundle `id`. -/
abbrev Stands (id : BundleId) {α : Type} (P : Prop → State → Prop) (t : Promise α)
    (B : α → Prop → State → Prop) (E : Prop → State → Prop) : Prop :=
  Task.Flags host Beat.Lives (LetsGo id) P t (Task.Ends B E)

section Tick
variable {α : Type} {cfg : Config} {id x : BundleId} {hand : List BundleId} {d : Prop} {s : State}

/-- What only reads, announces, or records bundles in hand leaves the bundle as it
stands. -/
theorem stands_spared {t : Promise α} (ht : Keeps Op.Spares (Req.Spares hand) t) :
    Stands id (Handled id hand) t (fun _ => Handled id hand) (Handled id hand) := by
  have hany : Task.Flags host Beat.Lives (LetsGo id) (Handled id hand) t fun _ => Handled id hand :=
    Task.Flags.of_uses (fun _ hb => hb) (fun _ _ _ ho h => h.runOp ho) (fun _ _ _ hq h => h.serve hq)
      (fun n _ _ h => h.pass_time n) ht
  exact hany.mono (fun _ _ h => h) fun r _ _ h => by cases r <;> exact h

theorem stands_run {o : Op} (ho : o.Spares) :
    Stands id (Handled id hand) (run o) (fun _ => Handled id hand) (Handled id hand) :=
  stands_spared (keeps_run ho)

theorem stands_rpc (r : Rpc) :
    Stands id (Handled id hand) (rpc r) (fun _ => Handled id hand) (Handled id hand) := by
  have hspares : (Req.rpc r).Spares hand := trivial
  exact stands_spared (Task.Uses.call hspares)

/-- No outcome. -/
abbrev Never : Prop → State → Prop := fun _ _ => False

theorem stands_emitForPp (pp : PublicKey) (payload : EventPayload) :
    Stands id (Handled id hand) (emitForPp pp payload)
      (fun _ => Handled id hand) Never := by
  unfold emitForPp
  split
  · exact .pure fun _ _ h => h
  · exact (stands_spared (emitInScope_uses (fun _ => trivial) (fun _ => trivial) pp)).recover
      (fun _ => .pure fun _ _ h => h) fun _ _ _ h => h

theorem stands_emitForBundles (ids : List BundleId) (payload : EventPayload) :
    Stands id (Handled id hand) (emitForBundles ids payload)
      (fun _ => Handled id hand) Never := by
  unfold emitForBundles
  split
  · exact .pure fun _ _ h => h
  · refine (stands_spared ?_).recover (fun _ => .pure fun _ _ h => h) fun _ _ _ h => h
    refine Task.Uses.bind (Task.Uses.call trivial) fun rows => ?_
    exact Task.Uses.forEach fun pp _ => emitInScope_uses (fun _ => trivial) (fun _ => trivial) pp

theorem stands_forEach {β : Type} {f : β → Promise Unit} {J : List β → Prop → State → Prop}
    (h : ∀ x rest, Stands id (J (x :: rest)) (f x) (fun _ => J rest) Never) (xs : List β) :
    Stands id (J xs) (Task.forEach f xs) (fun _ => J []) Never :=
  Task.Flags.forEach h

/-- A request about the row of a bundle in hand, which leaves the hand where the
request rejects. -/
theorem stands_about {q : Req} (hq : q.About x) {B : q.Ans → Prop → State → Prop}
    (h : ∀ d s, Handled id (x :: hand) d s →
      Task.Ends B (Handled id hand) (serve q s).1 d (serve q s).2) :
    Stands id (Handled id (x :: hand)) (Task.call (I := platform) q) B (Handled id hand) := by
  refine Task.Flags.call (fun _ hb => hb) (fun n _ _ h => h.pass_time n) (fun d s hs => ?_)
    fun _ e d s _ _ hs => hs.letGo hq e
  have hflag : (d ∨ LetsGo id (.served s q)) = d := by simp [LetsGo]
  rw [hflag]
  exact h d s hs

/-! ## The TTL gate -/

theorem stands_persistEviction (bundle : SlotBundle) :
    Stands id (Handled id (bundle.bundleId :: hand)) (persistEviction bundle)
      (fun _ => Handled id hand) Never := by
  have hwrite : Stands id (Handled id (bundle.bundleId :: hand))
      (command (.updateStatusIfActive bundle.bundleId .expired BundleStatus.active))
      (fun _ => Handled id hand) (Handled id hand) :=
    stands_about (q := .command (.updateStatusIfActive _ _ _)) rfl fun d s h => by
      refine h.endRow (wrote_updateStatusIfActive s _ _) fun hlive => ?_
      have hended : (serve (.command (.updateIfStatusIn bundle.bundleId
          { status := some .expired } BundleStatus.active)) s).2.Ended bundle.bundleId :=
        updateIfStatusIn_ends hlive rfl (by decide)
      exact hended
  refine Task.Flags.recover (hwrite.bind fun _ => ?_) (fun _ => .pure fun _ _ h => h)
    fun _ _ _ h => h
  exact (stands_emitForPp _ _).mono (fun _ _ h => h) fun r _ _ h => by
    cases r with
    | ok => exact h
    | error => exact h.elim

theorem stands_evict {slot : Slot} (hnodup : (slot.bundles.map (·.bundleId)).Nodup) :
    Stands id (Handled id (slot.bundles.map (·.bundleId))) (expireSlotBundlesPastTtl slot)
      (fun slot' => Handled id (slot'.bundles.map (·.bundleId))) Never := by
  have hnow : Stands id (Handled id (slot.bundles.map (·.bundleId))) (run .now)
      (fun _ => Handled id (slot.bundles.map (·.bundleId))) Never :=
    .op fun d s h => h.runOp trivial
  refine hnow.bind fun now => ?_
  let kept := (slot.bundles.filter fun b => !isBundleExpired now b).map (·.bundleId)
  have hloop := stands_forEach (J := fun rest => Handled id (rest.map (·.bundleId) ++ kept))
    (fun bundle rest => stands_persistEviction bundle)
    (slot.getBundles.filter (isBundleExpired now))
  have hsplit : ((slot.getBundles.filter (isBundleExpired now)).map (·.bundleId) ++ kept).Perm
      (slot.bundles.map (·.bundleId)) := by
    rw [← List.map_append]
    exact (List.filter_append_perm (isBundleExpired now) slot.bundles).map _
  refine (hloop.mono (fun d s h => h.perm hsplit) fun _ _ _ h => h).bind fun _ => .pure fun d s h => ?_
  show Handled id ((slot.removeWhere (isBundleExpired now)).bundles.map (·.bundleId)) d s
  rw [Slot.removeWhere_bundles hnodup]
  exact h

/-! ## The submission -/

/-- The transaction has a row that is UNVERIFIED. -/
def State.Open (s : State) (txHash : TxHash) : Prop :=
  ∃ transaction, s.db.transactions.find txHash = some transaction ∧
    transaction.deletedAt = none ∧ transaction.status = .unverified

/-- Where the bundle is linked to an UNVERIFIED transaction it can leave the hand. -/
theorem Handled.record (h : Handled id hand d s) (hlinked : id ∈ hand → s.Awaited id) :
    Handled id [] d s where
  live := h.live
  referenced := h.referenced
  apart := h.apart.of_append_right
  inHand hid := by simp at hid
  passed _ := by
    by_cases hid : id ∈ hand
    · have hlooked : s.LookedAfter id := .inl (.inr (hlinked hid))
      exact ⟨fun hd => absurd hd (h.inHand hid), fun hnot => absurd hlooked hnot⟩
    · exact h.passed hid

/-- While the links are made: those of the bundles `rest` are missing. -/
structure Linking (id : BundleId) (hand : List BundleId) (txHash : TxHash) (rest : List BundleId)
    (d : Prop) (s : State) : Prop where
  handled : Handled id hand d s
  ofHand : ∀ y ∈ rest, y ∈ hand
  opened : s.Open txHash
  linked : id ∈ hand → id ∉ rest → s.Awaited id

theorem stands_createLink (txHash : TxHash) (x : BundleId) (rest : List BundleId) :
    Stands id (Linking id hand txHash (x :: rest)) (createLink txHash x)
      (fun _ => Linking id hand txHash rest) (Handled id hand) := by
  have hnow : Stands id (Linking id hand txHash (x :: rest)) (run .now)
      (fun _ => Linking id hand txHash (x :: rest)) (Handled id hand) :=
    .op fun d s h => by
      have hhandled := h.handled.runOp (o := .now) trivial
      exact ⟨hhandled, h.ofHand, h.opened, h.linked⟩
  refine hnow.bind fun now => ?_
  have hcreate (data : NewBundleTransaction) (hbundle : data.bundleId = x)
      (htx : data.transactionId = txHash) : Stands id (Linking id hand txHash (x :: rest))
      (command (.createLink data)) (fun _ => Linking id hand txHash rest) (Handled id hand) := by
    have hspares {d : Prop} {s : State} (h : Linking id hand txHash (x :: rest) d s) :
        (Req.command (.createLink data)).Spares hand := h.ofHand _ (hbundle ▸ List.mem_cons_self)
    refine Task.Flags.call (fun _ hb => hb)
      (fun n d s h => ⟨h.handled.pass_time n, h.ofHand, h.opened, h.linked⟩) (fun d s h => ?_)
      fun _ e d s _ _ h => (h.handled.serve (hspares h)).2 e
    have hserved := (h.handled.serve (hspares h)).1
    revert hserved
    rcases Command.run_createLink s.db s.clock data with hrun | ⟨t, hinsert, hrun⟩
    · have hans : (serve (.command (.createLink data)) s).1 = .error constraintViolation := by
        simp [serve, hrun]
      intro hserved
      show Task.Ends _ _ (serve (.command (.createLink data)) s).1 _ _
      rw [hans]
      exact hserved
    · have hans : (serve (.command (.createLink data)) s).1 = .ok (data.row s.clock) := by
        simp [serve, hrun]
      have hdb : (serve (.command (.createLink data)) s).2.db =
          { s.db with bundlesTransactions := t } := by simp [serve, hrun]
      intro hserved
      show Task.Ends _ _ (serve (.command (.createLink data)) s).1 _ _
      rw [hans]
      have hopened : (serve (.command (.createLink data)) s).2.Open txHash := by
        rw [State.Open, hdb]
        exact h.opened
      refine ⟨hserved, fun y hy => h.ofHand y (.tail x hy), hopened, fun hid hnot => ?_⟩
      show (serve (.command (.createLink data)) s).2.Awaited id
      rw [awaited_iff, hdb]
      have hfind := Table.find_insert hinsert
      have hkey : (data.row s.clock).key = (data.bundleId, data.transactionId) := rfl
      by_cases he : id = x
      · obtain ⟨transaction, hrow, hlive, hstatus⟩ := h.opened
        refine ⟨txHash, transaction, hrow, hlive, hstatus, data.row s.clock, ?_, rfl⟩
        rw [hfind, hkey, hbundle, htx, he, if_pos rfl]
      · obtain ⟨txId, transaction, hrow, hlive, hstatus, link, hlink, hdeleted⟩ :=
          awaited_iff.mp (h.linked hid fun hmem => (List.mem_cons.mp hmem).elim he hnot)
        refine ⟨txId, transaction, hrow, hlive, hstatus, link, ?_, hdeleted⟩
        show t.find (id, txId) = some link
        rw [hfind, hkey, hbundle, if_neg, hlink]
        intro hsame
        exact he (Prod.mk.inj hsame).1.symm
  exact (hcreate _ rfl rfl).bind fun _ => .pure fun _ _ h => h

/-- The record of a transaction: all its bundles are linked to it, or the call
rejects with the bundles in hand. -/
theorem stands_createTransactionRecord (txHash : TxHash) :
    Stands id (Handled id hand) (createTransactionRecord cfg txHash hand)
      (fun _ => Handled id []) (Handled id hand) := by
  refine (stands_rpc _).bind fun latestLedger => ?_
  refine (stands_run (o := .now) trivial).bind fun now => ?_
  have hcreate (data : NewTransaction) (hid : data.id = txHash) (hstatus : data.status = .unverified) :
      Stands id (Handled id hand) (command (.createTransaction data))
        (fun _ => Linking id hand txHash hand) (Handled id hand) := by
    have hspares : (Req.command (.createTransaction data)).Spares hand := trivial
    refine Task.Flags.call (fun _ hb => hb) (fun n _ _ h => h.pass_time n) (fun d s h => ?_)
      fun _ e d s _ _ h => (h.serve hspares).2 e
    have hserved := (h.serve hspares).1
    revert hserved
    rcases serve_createTransaction data s with ⟨t, hinsert, hans, hstate⟩ | ⟨hans, -⟩
    · intro hserved
      show Task.Ends _ _ (serve (.command (.createTransaction data)) s).1 _ _
      rw [hans]
      have hfound : t.find txHash = some (data.row s.clock) := by
        rw [Table.find_insert hinsert]
        exact if_pos hid
      refine ⟨hserved, fun _ hy => hy, ?_, fun hmem hnot => absurd hmem hnot⟩
      show (serve (.command (.createTransaction data)) s).2.Open txHash
      rw [hstate]
      exact ⟨data.row s.clock, hfound, rfl, hstatus⟩
    · intro hserved
      show Task.Ends _ _ (serve (.command (.createTransaction data)) s).1 _ _
      rw [hans]
      exact hserved
  refine (hcreate _ rfl rfl).bind fun _ => ?_
  refine (Task.Flags.forEach fun x rest => stands_createLink txHash x rest).mono (fun _ _ h => h)
    fun r d s h => ?_
  cases r with
  | ok => exact h.handled.record fun hid => h.linked hid (by simp)
  | error => exact h

/-- A slot is executed: its bundles are linked to its transaction, or the call
rejects with the bundles in hand. -/
theorem stands_executeSlot {slot : Slot} :
    Stands id (Handled id (slot.bundles.map (·.bundleId))) (executeSlot cfg slot)
      (fun _ => Handled id []) (Handled id (slot.bundles.map (·.bundleId))) := by
  unfold executeSlot
  split
  · exact .fail fun _ _ h => h
  rename_i first _
  split
  · exact .fail fun _ _ h => h
  split
  · exact .fail fun _ _ h => h
  refine (stands_spared (prepareSlot_keeps (fun _ => trivial) cfg slot first)).bind_yields
    (prepareSlot_yields slot first) fun prepared hids => ?_
  unfold submitSlot
  rw [hids]
  refine (stands_run (o := .note _) trivial).bind fun _ => ?_
  refine (stands_spared (submitTransactionToNetwork_keeps (fun _ => trivial) cfg _ _ _ _)).bind
    fun txHash => ?_
  refine (stands_run (o := .note _) trivial).bind fun _ => ?_
  refine (stands_createTransactionRecord txHash).bind fun _ => ?_
  exact (stands_emitForBundles _ _).mono (fun _ _ h => h) fun r _ _ h => by
    cases r with
    | ok => exact h
    | error => exact h.elim

/-! ## The failure -/

theorem stands_failInsufficientFees (detail : InsufficientFeesDetail) (x : BundleId) :
    Stands id (Handled id (x :: hand)) (failInsufficientFees detail x)
      (fun _ => Handled id hand) Never := by
  have hwrite (data : OperationsBundlePatch) (hdata : data.status = some .failed) :
      Stands id (Handled id (x :: hand)) (command (.updateBundle x data))
        (fun _ => Handled id hand) (Handled id hand) :=
    stands_about (q := .command (.updateBundle _ _)) rfl fun d s h =>
      h.endRow (wrote_updateBundle s _ _) fun hlive => updateBundle_ends hlive hdata (by decide)
  exact Task.Flags.recover (B := fun _ => Handled id hand)
    ((hwrite _ rfl).bind fun _ => .pure fun _ _ h => h) (fun _ => .pure fun _ _ h => h) fun _ _ _ h => h

/-- What the helper for one bundle comes to: the bundle is still in hand, to be
retried, or it has left it. -/
def Retried (id x : BundleId) (hand : List BundleId) (result : Option ExecutionFailureResult)
    (d : Prop) (s : State) : Prop :=
  match result with
  | none => Handled id hand d s
  | some m => m.bundleId = x ∧ Handled id (x :: hand) d s

theorem stands_failBundleWith (deps : FailureDeps) (reason : FailureReason) (x : BundleId) :
    Stands id (Handled id (x :: hand)) (failBundleWith deps reason x)
      (Retried id x hand) Never := by
  have hfind : Stands id (Handled id (x :: hand)) (query (.findBundleById x))
      (fun row d s => Handled id (x :: hand) d s ∧ (row = none → x ≠ id)) (Handled id hand) := by
    refine stands_about (q := .query (.findBundleById _)) rfl fun d s h => ⟨h, ?_⟩
    rintro hnone rfl
    have hlive := h.live
    rw [State.Live, hnone] at hlive
    cases hlive
  have hend (data : OperationsBundlePatch) (hdata : data.status = some .failed) :
      Stands id (Handled id (x :: hand))
        (command (.updateIfStatusIn x data BundleStatus.active))
        (fun _ => Handled id hand) (Handled id hand) :=
    stands_about (q := .command (.updateIfStatusIn _ _ _)) rfl fun d s h =>
      h.endRow (wrote_updateIfStatusIn s _ _) fun hlive => updateIfStatusIn_ends hlive hdata (by decide)
  have hretry (data : OperationsBundlePatch) : Stands id (Handled id (x :: hand))
      (command (.updateIfStatusIn x data BundleStatus.active))
      (fun updated d s => if updated = true then Handled id (x :: hand) d s else Handled id hand d s)
      (Handled id hand) := by
    refine stands_about (q := .command (.updateIfStatusIn _ _ _)) rfl fun d s h => ?_
    have hw := wrote_updateIfStatusIn s x data
    show if _ then _ else _
    split
    · exact h.wrote hw fun he hid => absurd (he ▸ List.mem_cons_self) hid
    · rename_i hnot
      refine h.endRow hw fun hlive => ?_
      obtain ⟨updated, hans, hended⟩ := updateIfStatusIn_answer hlive data
      have hsame : (!(s.db.operationsBundles.select fun r =>
          r.id == x && r.isIn BundleStatus.active).isEmpty) = updated := Except.ok.inj hans
      refine hended ?_
      rw [← hsame]
      exact Bool.eq_false_iff.mpr hnot
  refine Task.Flags.recover (B := Retried id x hand) (E := Handled id hand) ?_
    (fun _ => .pure fun _ _ h => h) fun _ _ _ h => h
  refine hfind.bind fun row => ?_
  cases row with
  | none => exact .pure fun d s h => h.1.pass fun he => absurd he (h.2 rfl)
  | some row =>
    dsimp only
    split
    · refine Task.Flags.bind (B := fun _ => Handled id hand) ?_ fun _ => .pure fun _ _ h => h
      exact (hend _ rfl).mono (fun _ _ h => h.1) fun _ _ _ h => h
    · refine Task.Flags.bind ((hretry _).mono (fun _ _ h => h.1) fun _ _ _ h => h) fun updated =>
        .pure fun d s h => ?_
      cases updated with
      | true => exact ⟨rfl, h⟩
      | false => exact h

/-- The bundles to be retried are in hand, and of those the helper was given. -/
structure Retrying (id : BundleId) (ids : List BundleId)
    (results : List (Option ExecutionFailureResult)) (rest : List BundleId) (d : Prop) (s : State) :
    Prop where
  handled : Handled id (rest ++ (results.filterMap fun r => r).map (·.bundleId)) d s
  among : ∀ x ∈ rest ++ (results.filterMap fun r => r).map (·.bundleId), x ∈ ids

theorem stands_handleExecutionFailure (error : Err) (ids : List BundleId) (reason : FailureReason) :
    Stands id (Handled id ids) (handleExecutionFailure cfg error ids reason)
      (fun metaList d s => Handled id (metaList.map (·.bundleId)) d s ∧
        ∀ x ∈ metaList.map (·.bundleId), x ∈ ids) Never := by
  have hstep (results : List (Option ExecutionFailureResult)) (x : BundleId) (rest : List BundleId) :
      Stands id (Retrying id ids results (x :: rest)) (failBundleWith (failureDeps cfg error) reason x)
        (fun r => Retrying id ids (results ++ [r]) rest) Never := by
    refine Task.Flags.of_imp (p := ∀ y ∈ x :: rest ++ (results.filterMap fun r => r).map (·.bundleId),
      y ∈ ids) (fun _ _ h => h.among) fun hamong => ?_
    refine (stands_failBundleWith _ reason x).mono (fun _ _ h => h.handled) fun r d s h => ?_
    cases r with
    | error => exact h.elim
    | ok r =>
      cases r with
      | none =>
        have hids : ((results ++
            [(none : Option ExecutionFailureResult)]).filterMap fun r => r).map (·.bundleId) =
            (results.filterMap fun r => r).map (·.bundleId) := by simp
        refine ⟨?_, fun y hy => hamong y (.tail x ?_)⟩
        · rw [hids]
          exact h
        · rwa [hids] at hy
      | some m =>
        obtain ⟨hm, hhandled⟩ := h
        have hids : ((results ++ [some m]).filterMap fun r => r).map (·.bundleId) =
            (results.filterMap fun r => r).map (·.bundleId) ++ [x] := by simp [hm]
        have hperm : (rest ++ ((results.filterMap fun r => r).map (·.bundleId) ++ [x])).Perm
            (x :: rest ++ (results.filterMap fun r => r).map (·.bundleId)) := by
          rw [← List.append_assoc]
          exact List.perm_append_singleton x _
        refine ⟨?_, fun y hy => hamong y ?_⟩
        · rw [hids]
          exact hhandled.perm hperm
        · rw [hids] at hy
          exact hperm.mem_iff.mp hy
  have hloop : Stands id (Retrying id ids [] ids)
      (Task.collect (failBundleWith (failureDeps cfg error) reason) ids)
      (fun results => Retrying id ids ([] ++ results) []) Never := Task.Flags.collect hstep
  refine (hloop.mono (fun d s h => ⟨by simpa using h, by simp⟩) fun _ _ _ h => h).bind fun results =>
    .pure fun d s h => ?_
  exact ⟨h.handled, h.among⟩

/-- The bundles that are built for the retry are those that were returned. -/
theorem buildRetryBundles_perm {slot : Slot} {metaList : List ExecutionFailureResult}
    (hslot : (slot.bundles.map (·.bundleId)).Nodup) (hnodup : (metaList.map (·.bundleId)).Nodup)
    (hamong : ∀ x ∈ metaList.map (·.bundleId), x ∈ slot.bundles.map (·.bundleId)) :
    ((buildRetryBundles slot metaList).map (·.bundleId)).Perm (metaList.map (·.bundleId)) := by
  refine (List.perm_ext_iff_of_nodup ((buildRetryBundles_ids slot metaList).nodup hslot) hnodup).mpr
    fun x => ?_
  constructor
  · intro hx
    obtain ⟨bundle, hbundle, rfl⟩ := List.mem_map.mp hx
    obtain ⟨b, -, hretry⟩ := List.mem_filterMap.mp hbundle
    obtain ⟨m, hm, rfl⟩ := Option.map_eq_some_iff.mp hretry
    have hmem := List.mem_reverse.mp (List.mem_of_find?_eq_some hm)
    have hid : m.bundleId = b.bundleId := by simpa using List.find?_some hm
    exact List.mem_map.mpr ⟨m, hmem, hid⟩
  · intro hx
    obtain ⟨b, hb, rfl⟩ := List.mem_map.mp (hamong x hx)
    obtain ⟨m, hm, hid⟩ := List.mem_map.mp hx
    have hfound : (retryMeta metaList b.bundleId).isSome = true := by
      rw [retryMeta, List.find?_isSome]
      exact ⟨m, List.mem_reverse.mpr hm, by simpa using hid⟩
    obtain ⟨m', hm'⟩ := Option.isSome_iff_exists.mp hfound
    refine List.mem_map.mpr ⟨{ b with
      retryCount := m'.nextRetryCount
      lastFailureReason := some m'.lastFailureReason }, List.mem_filterMap.mpr ⟨b, hb, ?_⟩, rfl⟩
    rw [hm', Option.map_some]

/-! ## The retry -/

theorem stands_markExpired (bundle : SlotBundle) :
    Stands id (Handled id (bundle.bundleId :: hand)) (Mempool.markExpired bundle)
      (fun _ => Handled id hand) (Handled id hand) := by
  have hwrite : Stands id (Handled id (bundle.bundleId :: hand))
      (command (.updateBundle bundle.bundleId { status := some .expired }))
      (fun _ => Handled id hand) (Handled id hand) :=
    stands_about (q := .command (.updateBundle _ _)) rfl fun d s h =>
      h.endRow (wrote_updateBundle s _ _) fun hlive => updateBundle_ends hlive rfl (by decide)
  refine hwrite.bind fun _ => ?_
  exact (stands_emitForPp _ _).mono (fun _ _ h => h) fun r _ _ h => by
    cases r with
    | ok => exact h
    | error => exact h.elim

/-- The activation of a bundle was rejected: it leaves the queue next. -/
structure Leaving (id x : BundleId) (hand : List BundleId) (d : Prop) (s : State) : Prop where
  live : s.Live id
  referenced : s.Referenced
  apart : (hand ++ s.memory.mempool.queuedIds).Nodup
  inHand : id ∈ hand → ¬ d
  passed : id ∉ hand → x ≠ id → (d ↔ ¬ s.LookedAfter id)
  leaves : x = id → (d ↔ ¬ s.Settled id)

/-- What a purge of one bundle leaves in the queue. -/
theorem Mempool.purgeBundles_ids (mempool : Mempool) (x : BundleId) :
    (mempool.purgeBundles [x]).2.queuedIds = mempool.queuedIds.filter (· ≠ x) := by
  rw [queuedIds, (mempool.purged [x]).queued, queuedIds, List.filter_map]
  congr 1
  refine List.filter_congr fun b _ => ?_
  simp

theorem Leaving.purge (h : Leaving id x hand d s) :
    Handled id hand (d ∨ LetsGo id (.ran s (.purgeBundles [x]))) (runOp (.purgeBundles [x]) s).2 := by
  have hqueue : (ProviderPlatform.runOp (.purgeBundles [x]) s).2.memory.mempool.queuedIds =
      s.memory.mempool.queuedIds.filter (· ≠ x) :=
    Mempool.purgeBundles_ids _ x
  have hsettled : (ProviderPlatform.runOp (.purgeBundles [x]) s).2.Settled id ↔ s.Settled id := Iff.rfl
  have hflag : (d ∨ LetsGo id (.ran s (.purgeBundles [x]))) = d := by simp [LetsGo]
  rw [hflag]
  refine ⟨h.live, h.referenced, ?_, h.inHand, fun hid => ?_⟩
  · rw [hqueue]
    exact h.apart.sublist (List.filter_sublist.append_left hand)
  · rw [State.LookedAfter, hsettled, hqueue]
    by_cases he : x = id
    · rw [h.leaves he]
      simp [he]
    · rw [h.passed hid he, State.LookedAfter]
      simp [Ne.symm he]

/-- A gated update to PROCESSING ends nothing. -/
theorem activate_ended (hlive : s.Live x) :
    (serve (.command (.updateStatusIfActive x .processing BundleStatus.active)) s).2.Ended x ↔
      s.Ended x := by
  obtain ⟨row, hrow, hdeleted⟩ := live_iff.mp hlive
  have hkey : row.id = x := Table.find_key hrow
  have hfind := updateStatusIfActive_find s x x .processing BundleStatus.active
  rw [hrow, Option.map_some] at hfind
  simp only [State.Ended, hfind, hrow, Option.some.injEq, exists_eq_left', hkey, beq_self_eq_true,
    Bool.true_and]
  cases hactive : row.isIn BundleStatus.active with
  | true =>
    have hnot : row.status ∈ BundleStatus.active := by
      simpa [OperationsBundle.isIn, hdeleted] using hactive
    have hprocessing : BundleStatus.processing ∈ BundleStatus.active := by decide
    simp [hnot, hprocessing]
  | false => simp

theorem stands_activate (bundle : SlotBundle) (hnot : bundle.bundleId ∉ hand) :
    Stands id (Handled id hand) (Mempool.activate bundle) (fun _ => Handled id hand)
      (Handled id hand) := by
  have hwrite : Stands id (Handled id hand)
      (command (.updateStatusIfActive bundle.bundleId .processing BundleStatus.active))
      (fun updated d s => Handled id hand d s ∧
        (updated = false → bundle.bundleId = id → s.Ended id)) (Leaving id bundle.bundleId hand) := by
    refine Task.Flags.call (fun _ hb => hb) (fun n _ _ h => h.pass_time n) (fun d s h => ?_)
      fun _ e d s _ _ h => ?_
    · have hw := wrote_updateStatusIfActive s bundle.bundleId .processing
      have hflag : (d ∨ LetsGo id (.served s (.command
          (.updateStatusIfActive bundle.bundleId .processing BundleStatus.active)))) = d := by
        simp [LetsGo]
      rw [hflag]
      refine ⟨h.wrote hw fun he _ => ?_, fun hfalse he => ?_⟩
      · subst he
        exact activate_ended h.live
      · subst he
        obtain ⟨updated, hans, hended⟩ := updateIfStatusIn_answer h.live { status := some .processing }
        exact hended ((Except.ok.inj hans).symm.trans hfalse)
    · refine ⟨h.live, h.referenced, h.apart, fun hid => ?_, fun hid hne => ?_, fun he => ?_⟩
      · rintro (hd | ⟨habout, -⟩)
        · exact h.inHand hid hd
        · exact hnot (habout ▸ hid)
      · have hflag : ¬ LetsGo id (.rejected s (.command
            (.updateStatusIfActive bundle.bundleId .processing BundleStatus.active)) e) :=
          fun hl => hne hl.1
        simp only [hflag, or_false]
        exact h.passed hid
      · have hflag : LetsGo id (.rejected s (.command
            (.updateStatusIfActive bundle.bundleId .processing BundleStatus.active)) e) ↔
            ¬ s.Settled id := ⟨And.right, fun hs => ⟨he, hs⟩⟩
        have hpassed := h.passed (he ▸ hnot)
        rw [hflag, hpassed, State.LookedAfter]
        tauto
  have hpurge : Stands id (Leaving id bundle.bundleId hand) (run (.purgeBundles [bundle.bundleId]))
      (fun _ => Handled id hand) (Handled id hand) := .op fun _ _ h => h.purge
  refine Task.Flags.recover (B := fun _ => Handled id hand) (E := Leaving id bundle.bundleId hand) ?_
    (fun e => hpurge.bind fun _ => .fail fun _ _ h => h) fun _ _ _ h => h
  refine hwrite.bind fun updated => ?_
  cases updated with
  | true => exact .pure fun _ _ h => h.1
  | false =>
    have hgone : Stands id (fun d s => Handled id hand d s ∧
        (false = false → bundle.bundleId = id → s.Ended id))
        (run (.purgeBundles [bundle.bundleId])) (fun _ => Handled id hand)
        (Leaving id bundle.bundleId hand) := by
      refine .op fun d s h => Leaving.purge ?_
      refine ⟨h.1.live, h.1.referenced, h.1.apart, h.1.inHand, fun hid _ => h.1.passed hid, fun he => ?_⟩
      have hsettled : s.Settled id := .inl (h.2 rfl he)
      have hpassed := h.1.passed (he ▸ hnot)
      rw [hpassed, State.LookedAfter]
      tauto
    exact hgone.bind fun _ => .pure fun _ _ h => h

/-- A retried bundle is queued, or the flag says that nothing looks after it. -/
theorem stands_addBundle (bundle : SlotBundle) :
    Stands id (Handled id (bundle.bundleId :: hand)) (Mempool.addBundle cfg bundle)
      (fun _ => Handled id hand) (Handled id hand) := by
  refine Task.Flags.of_imp (p := bundle.bundleId ∉ hand)
    (fun _ _ h hmem => (List.nodup_cons.mp h.apart).1 (List.mem_append_left _ hmem)) fun hnot => ?_
  have hnow : Stands id (Handled id (bundle.bundleId :: hand)) (run .now)
      (fun _ => Handled id (bundle.bundleId :: hand)) (Handled id hand) :=
    .op fun _ _ h => h.runOp (o := .now) trivial
  refine hnow.bind fun now => ?_
  split
  · exact stands_markExpired bundle
  have hplace : Stands id (Handled id (bundle.bundleId :: hand)) (run (.place bundle))
      (fun _ => Handled id hand) (Handled id hand) := .op fun _ _ h => h.place
  refine hplace.bind fun placement => ?_
  have hadded (newSlot : Bool) : Stands id (Handled id hand) (do
      emitForPp bundle.ppPublicKey (Mempool.bundleAddedPayload bundle newSlot)
      Mempool.activate bundle) (fun _ => Handled id hand) (Handled id hand) := by
    refine Task.Flags.bind (B := fun _ => Handled id hand) ?_ fun _ => stands_activate bundle hnot
    exact (stands_emitForPp _ _).mono (fun _ _ h => h) fun r _ _ h => by
      cases r with
      | ok => exact h
      | error => exact h.elim
  cases placement with
  | existingSlot => exact hadded false
  | newSlot => exact hadded true
  | slotFull => exact .fail fun _ _ h => h

theorem stands_reAddBundles (bundles : List SlotBundle) :
    Stands id (Handled id (bundles.map (·.bundleId))) (Mempool.reAddBundles cfg bundles)
      (fun _ => Handled id []) Never := by
  exact stands_forEach (J := fun rest => Handled id (rest.map (·.bundleId)))
    (fun bundle rest => (stands_addBundle bundle).recover (fun _ => .pure fun _ _ h => h)
      fun _ _ _ h => h) bundles

/-! ## The tick -/

theorem stands_emitExecutionFailed (slot : Slot) (ids : List BundleId) (error : Err) :
    Stands id (Handled id hand) (emitExecutionFailed slot ids error)
      (fun _ => Handled id hand) Never := by
  unfold emitExecutionFailed
  split
  · exact stands_emitForBundles ids _
  · exact .pure fun _ _ h => h

theorem stands_handleSlotFailure {slot : Slot} (hnodup : (slot.bundles.map (·.bundleId)).Nodup)
    (error : Err) :
    Stands id (Handled id (slot.bundles.map (·.bundleId))) (handleSlotFailure cfg slot error)
      (fun _ => Handled id []) Never := by
  unfold handleSlotFailure
  split
  · rename_i detail
    have hloop := stands_forEach (J := Handled id)
      (fun x rest => stands_failInsufficientFees detail x) (slot.bundles.map (·.bundleId))
    exact hloop.bind fun _ => stands_emitExecutionFailed slot _ _
  · unfold retrySlot
    have hnow : Stands id (Handled id (slot.bundles.map (·.bundleId))) (run .now)
        (fun _ => Handled id (slot.bundles.map (·.bundleId))) Never :=
      .op fun _ _ h => h.runOp (o := .now) trivial
    refine hnow.bind fun now => ?_
    refine (stands_emitExecutionFailed slot _ _).bind fun _ => ?_
    refine (stands_handleExecutionFailure error _ _).bind fun metaList => ?_
    have hretry {d : Prop} {s : State} (h : Handled id (metaList.map (·.bundleId)) d s ∧
        ∀ x ∈ metaList.map (·.bundleId), x ∈ slot.bundles.map (·.bundleId)) :
        Handled id ((buildRetryBundles slot metaList).map (·.bundleId)) d s :=
      h.1.perm (buildRetryBundles_perm hnodup h.1.apart.of_append_left h.2)
    dsimp only
    split
    · exact (stands_reAddBundles _).mono (fun _ _ h => hretry h) fun _ _ _ h => h
    · rename_i hnone
      have hnil : buildRetryBundles slot metaList = [] := by
        simpa using hnone
      refine .pure fun d s h => ?_
      have hleft := hretry h
      rwa [hnil] at hleft

theorem stands_processSlot {slot : Slot} :
    Stands id (Handled id (slot.bundles.map (·.bundleId))) (processSlot cfg slot)
      (fun _ => Handled id []) Never := by
  refine Task.Flags.of_imp (fun _ _ h => h.apart.of_append_left) fun hnodup => ?_
  refine (stands_evict hnodup).bind fun left => ?_
  refine Task.Flags.of_imp (fun _ _ h => h.apart.of_append_left) fun hleft => ?_
  split
  · rename_i hempty
    have hnil : left.bundles = [] := List.isEmpty_iff.mp hempty
    refine .pure fun d s h => ?_
    rwa [hnil] at h
  · exact stands_executeSlot.recover (fun e => stands_handleSlotFailure hleft e) fun _ _ _ h => h

/-- The tick that pulls a slot. -/
theorem stands_executeNext {slot : Slot} (hidle : s.memory.isProcessing = false)
    (hpull : s.memory.mempool.removeFirstSlot.1 = some slot)
    (hhand : ∀ b : Bool, Handled id (slot.bundles.map (·.bundleId)) False
      (runOp .removeFirstSlot { s with memory := { s.memory with isProcessing := b } }).2) :
    Stands id (fun d s' => d = False ∧ s' = s) (executeNext cfg) (fun _ => Handled id []) Never := by
  have hread : Stands id (fun d s' => d = False ∧ s' = s) (run .isProcessing)
      (fun b d s' => b = false ∧ d = False ∧ s' = s) Never :=
    .op fun d s' h => by
      obtain ⟨rfl, rfl⟩ := h
      exact ⟨hidle, by simp [LetsGo], rfl⟩
  refine hread.bind fun isProcessing => ?_
  cases isProcessing with
  | true => exact .of_imp (fun _ _ h => h.1) fun h => by cases h
  | false =>
    have hset : Stands id (fun d s' => false = false ∧ d = False ∧ s' = s) (run (.setProcessing true))
        (fun _ d s' => d = False ∧
          s' = { s with memory := { s.memory with isProcessing := true } }) Never :=
      .op fun d s' h => by
        obtain ⟨-, rfl, rfl⟩ := h
        exact ⟨by simp [LetsGo], rfl⟩
    refine hset.bind fun _ => Task.Flags.ensure (Q := Task.Ends (fun _ => Handled id []) Never) ?_
      fun r d s' h => ?_
    · have hremove : Stands id (fun d s' => d = False ∧
          s' = { s with memory := { s.memory with isProcessing := true } }) (run .removeFirstSlot)
          (fun found d s' => found = some slot ∧ Handled id (slot.bundles.map (·.bundleId)) d s')
          Never :=
        .op fun d s' h => by
          obtain ⟨rfl, rfl⟩ := h
          refine ⟨hpull, ?_⟩
          have hflag : (False ∨ LetsGo id (.ran { s with memory := { s.memory with
              isProcessing := true } } .removeFirstSlot)) = False := by simp [LetsGo]
          rw [hflag]
          exact hhand true
      refine hremove.bind fun found => ?_
      refine Task.Flags.of_imp (fun _ _ h => h.1) fun hfound => ?_
      subst hfound
      dsimp only
      split
      · rename_i hempty
        have hnil : slot.bundles = [] := List.isEmpty_iff.mp hempty
        refine .pure fun d s h => ?_
        have hleft := h.2
        rwa [hnil] at hleft
      · exact stands_processSlot.mono (fun _ _ h => h.2) fun _ _ _ h => h
    · cases r with
      | ok => exact h.runOp trivial
      | error => exact h.elim

end Tick

/-! ## The result -/

/-- Every bundle of the slot that the tick pulls is looked after when it returns. -/
def TickStrandsNone (cfg : Config) (slot : Slot) (bs : List (Beat Err)) (s : State) : Prop :=
  ∀ b ∈ slot.bundles, ((executeNext cfg).eval host bs s).2.2.LookedAfter b.bundleId

/-- No step of the tick lets go of a bundle of the slot. -/
def TickKeepsHold (cfg : Config) (slot : Slot) (bs : List (Beat Err)) (s : State) : Prop :=
  ∀ b ∈ slot.bundles, ∀ st ∈ (executeNext cfg).trace host bs s, ¬ LetsGo b.bundleId st

theorem tickStrandsNone_iff (cfg : Config) {slot : Slot} {s : State} (hs : s.Orderly)
    (hidle : s.memory.isProcessing = false)
    (hpull : s.memory.mempool.removeFirstSlot.1 = some slot) {bs : List (Beat Err)}
    (hlives : ∀ b ∈ bs, Beat.Lives b) : TickStrandsNone cfg slot bs s ↔ TickKeepsHold cfg slot bs s := by
  have hqueue : s.memory.mempool.queuedIds =
      slot.bundles.map (·.bundleId) ++ s.memory.mempool.removeFirstSlot.2.queuedIds := by
    rw [Mempool.queuedIds, Mempool.queued_of_removeFirstSlot hpull, List.map_append]
    rfl
  refine forall₂_congr fun b hb => ?_
  have hmem : b.bundleId ∈ slot.bundles.map (·.bundleId) := List.mem_map_of_mem hb
  have hhand (p : Bool) : Handled b.bundleId (slot.bundles.map (·.bundleId)) False
      (runOp .removeFirstSlot { s with memory := { s.memory with isProcessing := p } }).2 := by
    refine ⟨hs.live _ ?_, hs.referenced, ?_, fun _ => not_false, fun hid => absurd hmem hid⟩
    · rw [hqueue]
      exact List.mem_append_left _ hmem
    · have honce := hs.once
      rw [hqueue] at honce
      exact honce
  have hticks : Stands b.bundleId (fun d s' => d = False ∧ s' = s) (executeNext cfg)
      (fun _ => Handled b.bundleId []) Never := stands_executeNext hidle hpull hhand
  obtain ⟨r, -, hend⟩ := hticks bs s False hlives ⟨rfl, rfl⟩
  cases r with
  | error e => exact hend.elim
  | ok =>
    have hflag := hend.passed (by simp)
    rw [false_or] at hflag
    rw [← not_iff_not, ← hflag]
    simp

/-- **A tick strands no bundle** of its slot exactly when no step of it lets go
of one. What a provider reaches is orderly. -/
theorem tick_strands_none_iff (cfg : Config) (fuel : Nat) :
    (∀ s : State, s.Orderly → s.memory.isProcessing = false → ∀ slot : Slot,
      s.memory.mempool.removeFirstSlot.1 = some slot → ∀ bs : List (Beat Err),
      (∀ b ∈ bs, Beat.Lives b) → (TickStrandsNone cfg slot bs s ↔ TickKeepsHold cfg slot bs s)) ∧
    ∀ (s : State) (c : ProviderPool), s.memory = .boot cfg → s.Intact →
      (operated cfg fuel).Run Machine.Free ((operated cfg fuel).init s) c → c.state.Orderly :=
  ⟨fun _ hs hidle _ hpull _ hlives => tickStrandsNone_iff cfg hs hidle hpull hlives,
    fun _ _ hboot hintact h => .of_run hboot hintact h⟩

namespace Small

theorem intact : State.Intact state where
  kept _ _ h := absurd (Table.find_mem h) List.not_mem_nil
  referenced _ _ h := absurd (Table.find_mem h) List.not_mem_nil

/-- A channel that cannot be resolved, and then a row that cannot be read. -/
def unreadable : List (Beat Err) :=
  [⟨0, .reject (.error "channel")⟩, ⟨0, .serve⟩, ⟨0, .serve⟩, ⟨0, .reject (.database "down")⟩]

end Small

/-- The tick that submits the bundle that was admitted. -/
theorem tick_strands_none_iff_small :
    ∃ (c : ProviderPool) (slot : Slot), c.state.memory.mempool.removeFirstSlot.1 = some slot ∧
      slot.bundles.map (·.bundleId) = ["deposit 10"] ∧
      (TickStrandsNone Small.config slot [] c.state ↔ TickKeepsHold Small.config slot [] c.state) := by
  obtain ⟨c, hr, hp⟩ := Machine.exists_run_of_replay (M := operated Small.config 1)
    (G := Machine.Free) (c := (operated Small.config 1).init Small.state) Small.admitted
    (fun s => !s.memory.isProcessing && (s.memory.mempool.removeFirstSlot.1.map fun slot =>
      slot.bundles.map (·.bundleId)) == some ["deposit 10"]) (by decide +kernel)
  simp only [Bool.and_eq_true, Bool.not_eq_true', beq_iff_eq] at hp
  obtain ⟨slot, hslot, hids⟩ := Option.map_eq_some_iff.mp hp.2
  obtain ⟨hiff, horderly⟩ := tick_strands_none_iff Small.config 1
  exact ⟨c, slot, hslot, hids,
    hiff c.state (horderly Small.state c rfl Small.intact hr) hp.1 slot hslot [] (by simp)⟩

/-- The channel of the bundle cannot be resolved, and then its row cannot be read:
the row stays PROCESSING, and the bundle is neither queued nor linked. -/
theorem tick_strands_bundle :
    ¬ ∀ (cfg : Config) (fuel : Nat) (s : State) (c : ProviderPool), s.memory = .boot cfg →
      (operated cfg fuel).Run Machine.Free ((operated cfg fuel).init s) c →
      c.state.memory.isProcessing = false → ∀ slot : Slot,
      c.state.memory.mempool.removeFirstSlot.1 = some slot → ∀ bs : List (Beat Err),
      (∀ b ∈ bs, Beat.Lives b) → TickStrandsNone cfg slot bs c.state := by
  intro h
  obtain ⟨c, hr, hp⟩ := Machine.exists_run_of_replay (M := operated Small.config 1)
    (G := Machine.Free) (c := (operated Small.config 1).init Small.state) Small.admitted
    (fun s =>
      let s' := ((executeNext Small.config).eval host Small.unreadable s).2.2
      (!s.memory.isProcessing && (s.memory.mempool.removeFirstSlot.1.map fun slot =>
        slot.bundles.map (·.bundleId)) == some ["deposit 10"]) &&
      (s'.memory.mempool.queuedIds == [] && s'.db.bundlesTransactions.rows == [] &&
        (s'.db.operationsBundles.find "deposit 10").map (·.status) == some .processing))
    (by decide +kernel)
  simp only [Bool.and_eq_true, Bool.not_eq_true', beq_iff_eq] at hp
  obtain ⟨⟨hidle, hpulled⟩, ⟨hqueue, hlinks⟩, hstatus⟩ := hp
  obtain ⟨slot, hslot, hids⟩ := Option.map_eq_some_iff.mp hpulled
  have hmem : "deposit 10" ∈ slot.bundles.map (·.bundleId) := by simp [hids]
  obtain ⟨b, hb, hid⟩ := List.mem_map.mp hmem
  have hlooked := h Small.config 1 Small.state c rfl hr hidle slot hslot Small.unreadable
    (by simp [Small.unreadable, Beat.Lives]) b hb
  rw [hid] at hlooked
  obtain (⟨row, hrow, hended⟩ | hawaited) | hqueued := hlooked
  · rw [hrow, Option.map_some, Option.some.injEq] at hstatus
    simp [hstatus, BundleStatus.active] at hended
  · obtain ⟨txId, -, -, -, -, link, hlink, -⟩ := awaited_iff.mp hawaited
    have hrow := Table.find_mem hlink
    rw [hlinks] at hrow
    cases hrow
  · rw [hqueue] at hqueued
    cases hqueued

end ProviderPlatform
