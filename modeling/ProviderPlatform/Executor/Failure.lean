import ProviderPlatform.Mempool.Admission

/-! # A failed execution

What the failure helper does to the rows of the bundles of a slot, which of
them it returns, and which bundles of the slot go back to the mempool. -/
namespace ProviderPlatform
open Async Store

namespace FailureDeps
variable (deps : FailureDeps) (reason : FailureReason)

/-- One more failed attempt is the last one. -/
def isTerminal (row : OperationsBundle) : Bool :=
  deps.deterministic || decide (row.retryCount + 1 ≥ deps.maxRetryAttempts)

/-- What is written to the row when it is not retried any more. -/
def failed (row : OperationsBundle) : OperationsBundlePatch where
  status := some .failed
  retryCount := some (row.retryCount + 1)
  lastFailureReason := some reason
  failureDetail := some (.structured deps.failureDetail)

/-- What is written to the row when it is retried. -/
def retried (row : OperationsBundle) : OperationsBundlePatch where
  status := some .pending
  retryCount := some (row.retryCount + 1)
  lastFailureReason := some reason

/-- The row after the failure, written at the time `now`. -/
def failRow (now : Time) (row : OperationsBundle) : OperationsBundle :=
  if row.isIn BundleStatus.active then
    row.set now (if deps.isTerminal row then deps.failed reason row else retried reason row)
  else row

/-- What is returned for the bundle, by its row before the failure. -/
def result (id : BundleId) (row : Option OperationsBundle) : Option ExecutionFailureResult :=
  (row.filter fun row => row.isIn BundleStatus.active && !deps.isTerminal row).map fun row =>
    ⟨id, row.retryCount + 1, reason⟩

end FailureDeps

section Helper
variable {deps : FailureDeps} {reason : FailureReason} {id : BundleId} {s : State}

/-- The gated update of a row, served. -/
theorem updateIfStatusIn_eval {bs : List (Beat Err)} (hserves : ∀ b ∈ bs, Beat.Serves b)
    {row : OperationsBundle} (hrow : s.db.operationsBundles.find id = some row)
    (data : OperationsBundlePatch) :
    ∃ s', (command (.updateIfStatusIn id data BundleStatus.active)).eval host bs s =
        (some (.ok (row.isIn BundleStatus.active)), bs.tail, s') ∧
      (∀ other, other ≠ id →
        s'.db.operationsBundles.find other = s.db.operationsBundles.find other) ∧
      ∃ now, s'.db.operationsBundles.find id =
        some (if row.isIn BundleStatus.active then row.set now data else row) := by
  let s₁ := host.pass (bs.headD .calm).elapsed s
  have heval : (command (.updateIfStatusIn id data BundleStatus.active)).eval host bs s =
      (some (serve (.command (.updateIfStatusIn id data BundleStatus.active)) s₁).1, bs.tail,
        (serve (.command (.updateIfStatusIn id data BundleStatus.active)) s₁).2) :=
    Task.eval_call host (Beat.head_serves hserves)
  have hrow₁ : s₁.db.operationsBundles.find id = some row := hrow
  have hans : (serve (.command (.updateIfStatusIn id data BundleStatus.active)) s₁).1 =
      .ok (row.isIn BundleStatus.active) := congrArg Except.ok (select_gated hrow₁ _)
  rw [hans] at heval
  refine ⟨_, heval, fun other hne => ?_, s₁.clock, ?_⟩
  · rw [updateIfStatusIn_find]
    show (s.db.operationsBundles.find other).map _ = _
    cases hother : s.db.operationsBundles.find other with
    | none => rfl
    | some row' => simp [Table.find_key hother, hne]
  · rw [updateIfStatusIn_find, hrow₁]
    simp [Table.find_key hrow]

/-- **One bundle**, with every request served: the result and the row follow from
the row it had, and no other row changes. -/
theorem failBundleWith_eval (deps : FailureDeps) (reason : FailureReason) (id : BundleId)
    {bs : List (Beat Err)} (hserves : ∀ b ∈ bs, Beat.Serves b) (s : State) :
    ∃ bs' s', (failBundleWith deps reason id).eval host bs s =
        (some (.ok (deps.result reason id (s.db.operationsBundles.find id))), bs', s') ∧
      (∀ b ∈ bs', Beat.Serves b) ∧
      (∀ other, other ≠ id →
        s'.db.operationsBundles.find other = s.db.operationsBundles.find other) ∧
      ∃ now, s'.db.operationsBundles.find id =
        (s.db.operationsBundles.find id).map (deps.failRow reason now) := by
  let s₁ := host.pass (bs.headD .calm).elapsed s
  have htail : ∀ b ∈ bs.tail, Beat.Serves b := fun b hb => hserves b (List.mem_of_mem_tail hb)
  have htail₂ : ∀ b ∈ bs.tail.tail, Beat.Serves b := fun b hb => htail b (List.mem_of_mem_tail hb)
  have hquery : (query (.findBundleById id)).eval host bs s =
      (some (.ok ((s.db.operationsBundles.find id).filter (·.deletedAt.isNone))), bs.tail, s₁) :=
    Task.eval_call host (Beat.head_serves hserves)
  rw [failBundleWith, Task.recover, Task.eval_settle, Task.eval_bind_ok host hquery]
  cases hrow : s.db.operationsBundles.find id with
  | none => exact ⟨bs.tail, s₁, rfl, htail, fun _ _ => rfl, 0, hrow⟩
  | some row =>
    cases hdeleted : row.deletedAt with
    | some at' =>
      have hinactive : row.isIn BundleStatus.active = false := by simp [OperationsBundle.isIn, hdeleted]
      refine ⟨bs.tail, s₁, ?_, htail, fun _ _ => rfl, 0, ?_⟩
      · simp [Option.filter_some, hdeleted, FailureDeps.result, hinactive]
        rfl
      · simp [FailureDeps.failRow, hinactive]
        exact hrow
    | none =>
      simp only [Option.filter_some, hdeleted, Option.isNone_none, if_true]
      cases hterminal : deps.isTerminal row with
      | true =>
        obtain ⟨s₂, hupdate, hothers, now, hnow⟩ := updateIfStatusIn_eval (s := s₁) htail hrow
          (deps.failed reason row)
        refine ⟨bs.tail.tail, s₂, ?_, htail₂, hothers, now, ?_⟩
        · have hcond : (deps.deterministic ||
              decide (row.retryCount + 1 ≥ deps.maxRetryAttempts)) = true := hterminal
          have hnone : deps.result reason id (some row) = none := by
            simp [FailureDeps.result, hterminal]
          have hbody := Task.eval_bind_ok host (k := fun _ =>
            (pure none : Promise (Option ExecutionFailureResult))) hupdate
          unfold FailureDeps.failed at hbody
          simp only [hcond, if_true, hnone]
          rw [hbody]
          rfl
        · rw [hnow, Option.map_some, FailureDeps.failRow, hterminal]
          rfl
      | false =>
        obtain ⟨s₂, hupdate, hothers, now, hnow⟩ := updateIfStatusIn_eval (s := s₁) htail hrow
          (FailureDeps.retried reason row)
        refine ⟨bs.tail.tail, s₂, ?_, htail₂, hothers, now, ?_⟩
        · have hcond : (deps.deterministic ||
              decide (row.retryCount + 1 ≥ deps.maxRetryAttempts)) = false := hterminal
          have hresult : deps.result reason id (some row) =
              if row.isIn BundleStatus.active then some ⟨id, row.retryCount + 1, reason⟩ else none := by
            cases hin : row.isIn BundleStatus.active <;>
              simp [FailureDeps.result, hterminal, hin]
          have hbody := Task.eval_bind_ok host (k := fun updated =>
            (pure (if updated then some ⟨id, row.retryCount + 1, reason⟩ else none) :
              Promise (Option ExecutionFailureResult))) hupdate
          unfold FailureDeps.retried at hbody
          simp only [hcond, Bool.false_eq_true, if_false, hresult]
          rw [hbody]
          rfl
        · rw [hnow, Option.map_some, FailureDeps.failRow, hterminal]
          rfl

/-- **A list of bundles**, each at most once in it. -/
theorem collect_failures (deps : FailureDeps) (reason : FailureReason) :
    ∀ (ids : List BundleId), ids.Nodup → ∀ {bs : List (Beat Err)}, (∀ b ∈ bs, Beat.Serves b) →
    ∀ s : State, ∃ bs' s', (Task.collect (I := platform) (failBundleWith deps reason) ids).eval host
        bs s = (some (.ok (ids.map fun id =>
          deps.result reason id (s.db.operationsBundles.find id))), bs', s') ∧
      (∀ other, other ∉ ids →
        s'.db.operationsBundles.find other = s.db.operationsBundles.find other) ∧
      ∀ id ∈ ids, ∃ now, s'.db.operationsBundles.find id =
        (s.db.operationsBundles.find id).map (deps.failRow reason now)
  | [], _, bs, _, s => ⟨bs, s, rfl, fun _ _ => rfl, fun _ hid => nomatch hid⟩
  | id :: ids, hnodup, bs, hserves, s => by
    obtain ⟨hnotin, hnodup⟩ := List.nodup_cons.mp hnodup
    obtain ⟨bs₁, s₁, hfirst, hserves₁, hothers₁, now, hnow⟩ :=
      failBundleWith_eval deps reason id hserves s
    obtain ⟨bs₂, s₂, hrest, hothers₂, hrows⟩ := collect_failures deps reason ids hnodup hserves₁ s₁
    have hbefore : ∀ other ∈ ids,
        s₁.db.operationsBundles.find other = s.db.operationsBundles.find other := fun other hother =>
      hothers₁ other fun he => hnotin (he ▸ hother)
    have hresults : ids.map (fun id => deps.result reason id (s₁.db.operationsBundles.find id)) =
        ids.map fun id => deps.result reason id (s.db.operationsBundles.find id) :=
      List.map_congr_left fun other hother => by rw [hbefore other hother]
    rw [hresults] at hrest
    refine ⟨bs₂, s₂, ?_, fun other hother => ?_, fun other hother => ?_⟩
    · rw [Task.collect, Task.eval_bind_ok host hfirst, Task.eval_bind_ok host hrest]
      rfl
    · obtain ⟨hne, hother⟩ := not_or.mp (mt List.mem_cons.mpr hother)
      rw [hothers₂ other hother, hothers₁ other hne]
    · obtain rfl | hother := List.mem_cons.mp hother
      · exact ⟨now, by rw [hothers₂ other hnotin, hnow]⟩
      · obtain ⟨now', hnow'⟩ := hrows other hother
        exact ⟨now', by rw [hnow', hbefore other hother]⟩

/-! ## What is returned -/

theorem result_eq_some {rows : Option OperationsBundle} {m : ExecutionFailureResult} :
    deps.result reason id rows = some m ↔ ∃ row, rows = some row ∧
      row.isIn BundleStatus.active = true ∧ deps.isTerminal row = false ∧
      m = ⟨id, row.retryCount + 1, reason⟩ := by
  cases rows with
  | none => simp [FailureDeps.result]
  | some row =>
    simp only [FailureDeps.result, Option.map_eq_some_iff, Option.filter_eq_some_iff,
      Option.some.injEq, Bool.and_eq_true, Bool.not_eq_true']
    constructor
    · rintro ⟨row', ⟨rfl, hactive, hterminal⟩, rfl⟩
      exact ⟨row, rfl, hactive, hterminal, rfl⟩
    · rintro ⟨row', rfl, hactive, hterminal, rfl⟩
      exact ⟨row, ⟨rfl, hactive, hterminal⟩, rfl⟩

theorem mem_results {ids : List BundleId} {rows : BundleId → Option OperationsBundle}
    {m : ExecutionFailureResult} :
    m ∈ ids.filterMap (fun id => deps.result reason id (rows id)) ↔
      m.bundleId ∈ ids ∧ deps.result reason m.bundleId (rows m.bundleId) = some m := by
  rw [List.mem_filterMap]
  constructor
  · rintro ⟨id, hid, hresult⟩
    obtain ⟨row, -, -, -, rfl⟩ := result_eq_some.mp hresult
    exact ⟨hid, hresult⟩
  · rintro ⟨hid, hresult⟩
    exact ⟨m.bundleId, hid, hresult⟩

/-- The ids that are returned, in the order of the list. -/
theorem results_ids (rows : BundleId → Option OperationsBundle) : ∀ ids : List BundleId,
    (ids.filterMap fun id => deps.result reason id (rows id)).map (·.bundleId) =
      ids.filter fun id => (rows id).any fun row =>
        row.isIn BundleStatus.active && !deps.isTerminal row
  | [] => rfl
  | id :: ids => by
    have ih := results_ids rows ids
    cases hrow : rows id with
    | none => simpa [hrow, FailureDeps.result] using ih
    | some row =>
      cases hretried : row.isIn BundleStatus.active && !deps.isTerminal row with
      | true => simpa [hrow, FailureDeps.result, Option.filter_some, hretried] using ih
      | false => simpa [hrow, FailureDeps.result, Option.filter_some, hretried] using ih

/-- The metadata that `buildRetryBundles` finds is the entry of the bundle. -/
theorem retryMeta_results {ids : List BundleId} {rows : BundleId → Option OperationsBundle}
    {m : ExecutionFailureResult} :
    retryMeta (ids.filterMap fun id => deps.result reason id (rows id)) id = some m ↔
      m ∈ ids.filterMap (fun id => deps.result reason id (rows id)) ∧ m.bundleId = id := by
  constructor
  · intro hfound
    exact ⟨List.mem_reverse.mp (List.mem_of_find?_eq_some hfound),
      by simpa using List.find?_some hfound⟩
  · rintro ⟨hmem, rfl⟩
    cases hfound : retryMeta (ids.filterMap fun id => deps.result reason id (rows id)) m.bundleId with
    | none =>
      have hnone := List.find?_eq_none.mp hfound m (List.mem_reverse.mpr hmem)
      simp at hnone
    | some m' =>
      have hmem' := List.mem_reverse.mp (List.mem_of_find?_eq_some hfound)
      have hid : m'.bundleId = m.bundleId := by simpa using List.find?_some hfound
      have hresult := (mem_results.mp hmem).2
      have hresult' := (mem_results.mp hmem').2
      rw [hid, hresult] at hresult'
      exact hresult'.symm

end Helper

/-- What a failed execution comes to: rows that are missing, soft-deleted or in a
terminal status are untouched, an active row is FAILED for good or PENDING
again with one more attempt, the latter are returned, and their bundles go back
as they are in the slot but for what was persisted of the retry. -/
structure FailureHandled (deps : FailureDeps) (ids : List BundleId) (reason : FailureReason)
    (s s' : State) (metaList : List ExecutionFailureResult) : Prop where
  untouched : ∀ id, (∀ row, s.db.operationsBundles.find id = some row →
      id ∉ ids ∨ row.isIn BundleStatus.active = false) →
    s'.db.operationsBundles.find id = s.db.operationsBundles.find id
  failed : ∀ id ∈ ids, ∀ row, s.db.operationsBundles.find id = some row →
    row.isIn BundleStatus.active = true →
    deps.deterministic = true ∨ deps.maxRetryAttempts ≤ row.retryCount + 1 →
    ∃ now, s'.db.operationsBundles.find id = some (row.set now {
      status := some .failed
      retryCount := some (row.retryCount + 1)
      lastFailureReason := some reason
      failureDetail := some (.structured deps.failureDetail) })
  retried : ∀ id ∈ ids, ∀ row, s.db.operationsBundles.find id = some row →
    row.isIn BundleStatus.active = true →
    ¬ (deps.deterministic = true ∨ deps.maxRetryAttempts ≤ row.retryCount + 1) →
    ∃ now, s'.db.operationsBundles.find id = some (row.set now {
      status := some .pending
      retryCount := some (row.retryCount + 1)
      lastFailureReason := some reason })
  returned : ∀ id, id ∈ metaList.map (·.bundleId) ↔ id ∈ ids ∧
    ∃ row, s.db.operationsBundles.find id = some row ∧ row.isIn BundleStatus.active = true ∧
      ¬ (deps.deterministic = true ∨ deps.maxRetryAttempts ≤ row.retryCount + 1)
  inOrder : (metaList.map (·.bundleId)).Sublist ids
  rebuilt : ∀ slot : Slot, buildRetryBundles slot metaList = slot.bundles.filterMap fun b =>
    if b.bundleId ∈ metaList.map (·.bundleId) then
      (s'.db.operationsBundles.find b.bundleId).map fun row =>
        { b with retryCount := row.retryCount, lastFailureReason := row.lastFailureReason }
    else none

theorem FailureDeps.isTerminal_iff {deps : FailureDeps} {row : OperationsBundle} :
    deps.isTerminal row = true ↔
      deps.deterministic = true ∨ deps.maxRetryAttempts ≤ row.retryCount + 1 := by
  simp [isTerminal]

/-- **Execution-failure handling**, for every list of distinct ids, every contents
of the rows and every schedule whose requests are served. -/
theorem execution_failure_handled (deps : FailureDeps) (ids : List BundleId) (hnodup : ids.Nodup)
    (reason : FailureReason) (bs : List (Beat Err)) (hserves : ∀ b ∈ bs, Beat.Serves b)
    (s : State) :
    ∃ metaList, ((handleExecutionFailureWith deps ids reason).eval host bs s).1 =
        some (.ok metaList) ∧
      FailureHandled deps ids reason s
        ((handleExecutionFailureWith deps ids reason).eval host bs s).2.2 metaList := by
  obtain ⟨bs', s', heval, hothers, hrows⟩ := collect_failures deps reason ids hnodup hserves s
  let rows : BundleId → Option OperationsBundle := fun id => s.db.operationsBundles.find id
  have hend : (handleExecutionFailureWith deps ids reason).eval host bs s =
      (some (.ok (ids.filterMap fun id => deps.result reason id (rows id))), bs', s') := by
    rw [handleExecutionFailureWith, Task.eval_bind_ok host heval, List.filterMap_map]
    rfl
  have hmem (id : BundleId) :
      id ∈ (ids.filterMap fun id => deps.result reason id (rows id)).map (·.bundleId) ↔
        id ∈ ids ∧ ∃ row, rows id = some row ∧ row.isIn BundleStatus.active = true ∧
          deps.isTerminal row = false := by
    rw [results_ids, List.mem_filter, Option.any_eq_true]
    simp
  have hretried : ∀ id ∈ ids, ∀ row, rows id = some row → row.isIn BundleStatus.active = true →
      deps.isTerminal row = false →
      ∃ now, s'.db.operationsBundles.find id = some (row.set now (FailureDeps.retried reason row)) := by
    intro id hid row hrow hactive hterminal
    obtain ⟨now, hnow⟩ := hrows id hid
    refine ⟨now, ?_⟩
    rw [hnow, show s.db.operationsBundles.find id = some row from hrow, Option.map_some,
      FailureDeps.failRow, if_pos hactive, hterminal]
    rfl
  refine ⟨ids.filterMap fun id => deps.result reason id (rows id), by rw [hend], ?_⟩
  rw [hend]
  constructor
  · intro id hkept
    by_cases hid : id ∈ ids
    · obtain ⟨now, hnow⟩ := hrows id hid
      rw [hnow]
      cases hrow : s.db.operationsBundles.find id with
      | none => rfl
      | some row =>
        have hinactive := (hkept row hrow).resolve_left (not_not.mpr hid)
        simp [FailureDeps.failRow, hinactive]
    · exact hothers id hid
  · intro id hid row hrow hactive hterminal
    obtain ⟨now, hnow⟩ := hrows id hid
    refine ⟨now, ?_⟩
    rw [hnow, hrow, Option.map_some, FailureDeps.failRow, if_pos hactive,
      FailureDeps.isTerminal_iff.mpr hterminal]
    rfl
  · intro id hid row hrow hactive hterminal
    exact hretried id hid row hrow hactive
      (Bool.eq_false_iff.mpr (mt FailureDeps.isTerminal_iff.mp hterminal))
  · intro id
    simp only [hmem, ← FailureDeps.isTerminal_iff, Bool.not_eq_true]
    rfl
  · rw [results_ids]
    exact List.filter_sublist
  · intro slot
    refine List.filterMap_congr fun b _ => ?_
    by_cases hb : b.bundleId ∈
        (ids.filterMap fun id => deps.result reason id (rows id)).map (·.bundleId)
    · obtain ⟨m, hm, hid⟩ := List.mem_map.mp hb
      obtain ⟨hin, hresult⟩ := mem_results.mp hm
      obtain ⟨row, hrow, hactive, hterminal, hmeta⟩ := result_eq_some.mp hresult
      obtain ⟨now, hnow⟩ := hretried m.bundleId hin row hrow hactive hterminal
      rw [if_pos hb, retryMeta_results.mpr ⟨hm, hid⟩, ← hid, hnow, hmeta]
      rfl
    · have hnone : retryMeta (ids.filterMap fun id => deps.result reason id (rows id)) b.bundleId =
          none := by
        refine Option.eq_none_iff_forall_ne_some.mpr fun m hfound => hb ?_
        obtain ⟨hm, hid⟩ := retryMeta_results.mp hfound
        exact List.mem_map.mpr ⟨m, hm, hid⟩
      rw [if_neg hb, hnone]
      rfl

namespace Small

def deposit : SlotBundle := slotBundle "deposit" 1 1 "GPP"

/-- A bundle is queued and PENDING. -/
def retrying : State := holding [deposit] [deposit]

/-- A PENDING row that is soft-deleted. -/
def withDeleted : State :=
  { state with db := { database with operationsBundles :=
      ⟨[{ pendingRow deposit with deletedAt := some 0 }], by decide⟩ } }

/-- A slot of that bundle. -/
def depositSlot : Slot := (Slot.new 10 "channel").push deposit

/-- A failure that may go away. -/
def unreachable : FailureDeps := failureDeps config (.database "down")

def down : FailureReason := .slotExecution 0 "slotExecution" (.database "down") 1 1 ["deposit"]

/-- A failure that repeats. -/
def reverted : FailureDeps := failureDeps config (.contractError 7 "Spent" "")

/-- A row that may be retried, one that has been retried too often, one that has
ended and one that is soft-deleted. -/
def failing : State :=
  { state with db := { database with operationsBundles :=
      ⟨[pendingRow (slotBundle "fresh" 1 1 "GPP"),
        { pendingRow (slotBundle "tired" 1 1 "GPP") with status := .processing, retryCount := 2 },
        { pendingRow (slotBundle "settled" 1 1 "GPP") with status := .completed },
        { pendingRow (slotBundle "deleted" 1 1 "GPP") with deletedAt := some 0 }], by decide⟩ } }

/-- Its rows, and a bundle that has none. -/
def failingIds : List BundleId := ["tired", "unknown", "fresh", "settled", "deleted"]

/-- What the row of a bundle says of its execution. -/
def outcome (s : State) (id : BundleId) : Option (BundleStatus × Nat) :=
  (s.db.operationsBundles.find id).map fun row => (row.status, row.retryCount)

end Small

theorem execution_failure_handled_small :
    (∃ metaList, metaList.map (·.bundleId) = ["fresh"] ∧
      let s' := ((handleExecutionFailureWith Small.unreachable Small.failingIds Small.down).eval host
        [] Small.failing).2.2
      FailureHandled Small.unreachable Small.failingIds Small.down Small.failing s' metaList ∧
      Small.failingIds.map (Small.outcome s') =
        [some (.failed, 3), none, some (.pending, 1), some (.completed, 0), some (.pending, 0)]) ∧
    ∃ metaList,
      let s' := ((handleExecutionFailureWith Small.reverted Small.failingIds Small.down).eval host
        [] Small.failing).2.2
      FailureHandled Small.reverted Small.failingIds Small.down Small.failing s' metaList ∧
      Small.failingIds.map (Small.outcome s') =
        [some (.failed, 3), none, some (.failed, 1), some (.completed, 0), some (.pending, 0)] := by
  constructor
  · obtain ⟨metaList, hret, hhandled⟩ := execution_failure_handled Small.unreachable
      Small.failingIds (by decide) Small.down [] nofun Small.failing
    obtain ⟨metaList', hret', hids⟩ := Task.exists_value_of_eval host
      (handleExecutionFailureWith Small.unreachable Small.failingIds Small.down) [] Small.failing
      (fun metaList => metaList.map (·.bundleId) == ["fresh"]) (by decide +kernel)
    rw [hret, Option.some.injEq, Except.ok.injEq] at hret'
    exact ⟨metaList, hret' ▸ eq_of_beq hids, hhandled, by decide +kernel⟩
  · obtain ⟨metaList, -, hhandled⟩ := execution_failure_handled Small.reverted
      Small.failingIds (by decide) Small.down [] nofun Small.failing
    exact ⟨metaList, hhandled, by decide +kernel⟩

/-- A soft-deleted row is left as it is, PENDING or not, and a bundle that is
retried carries the reason of the failure. -/
theorem execution_failure_not_exact :
    (¬ ∀ (deps : FailureDeps) (ids : List BundleId) (reason : FailureReason)
        (bs : List (Beat Err)) (s : State) (row : OperationsBundle), ids.Nodup →
      (∀ b ∈ bs, Beat.Serves b) → ∀ id ∈ ids, s.db.operationsBundles.find id = some row →
      row.status ∈ BundleStatus.active →
      (((handleExecutionFailureWith deps ids reason).eval host bs s).2.2.db.operationsBundles.find
        id).map (·.retryCount) = some (row.retryCount + 1)) ∧
    ¬ ∀ (deps : FailureDeps) (ids : List BundleId) (reason : FailureReason) (bs : List (Beat Err))
        (s : State) (slot : Slot) (metaList : List ExecutionFailureResult), ids.Nodup →
      (∀ b ∈ bs, Beat.Serves b) →
      ((handleExecutionFailureWith deps ids reason).eval host bs s).1 = some (.ok metaList) →
      ∀ b' ∈ buildRetryBundles slot metaList, ∃ b ∈ slot.bundles,
        b' = { b with retryCount := b'.retryCount } := by
  constructor
  · intro h
    have hcount := h Small.unreachable ["deposit"] Small.down [] Small.withDeleted
      { Small.pendingRow Small.deposit with deletedAt := some 0 } (by decide) nofun "deposit"
      (by simp) (by decide +kernel) (by decide)
    revert hcount
    decide +kernel
  · intro h
    obtain ⟨metaList, hret, hbuilt⟩ := Task.exists_value_of_eval host
      (handleExecutionFailureWith Small.unreachable ["deposit"] Small.down) [] Small.retrying
      (fun metaList => (buildRetryBundles Small.depositSlot metaList).map (·.lastFailureReason) ==
        [some Small.down]) (by decide +kernel)
    have hbuilt := eq_of_beq hbuilt
    obtain ⟨b', hb'⟩ := List.exists_mem_of_length_pos
      (l := buildRetryBundles Small.depositSlot metaList) (by
        have hlength := congrArg List.length hbuilt
        simp only [List.length_map, List.length_singleton] at hlength
        omega)
    obtain ⟨b, hb, heq⟩ := h Small.unreachable ["deposit"] Small.down [] Small.retrying
      Small.depositSlot metaList (by decide) nofun hret b' hb'
    have hreason : b'.lastFailureReason = some Small.down := by
      have hmem := List.mem_map_of_mem (f := fun b : SlotBundle => b.lastFailureReason) hb'
      rw [hbuilt] at hmem
      exact List.mem_singleton.mp hmem
    have hslot : b = Small.deposit := by
      rw [show Small.depositSlot.bundles = [Small.deposit] from rfl] at hb
      exact List.mem_singleton.mp hb
    rw [heq, hslot] at hreason
    cases hreason

end ProviderPlatform
