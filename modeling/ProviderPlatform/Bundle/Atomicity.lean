import ProviderPlatform.Bundle.Checks

/-! # Rejected requests

The checks of a request write nothing. The row of the bundle, the rows of its
UTXOs and the queue are separate writes after that, and a later rejection
takes none of them back: a rejected request left everything as it was exactly
when it was rejected before its bundle row was written. -/
namespace ProviderPlatform
open Async Store

/-! ## Up to the bundle row -/

/-- The checks of a request and the write of its bundle row. -/
def writeBundle (cfg : Config) (input : BundleRequest) :
    Promise (Admission × Written OperationsBundle) := do
  let adm ← checkRequest cfg input
  let bundleEntity ← persistBundle input adm
  pure (adm, bundleEntity)

/-- The rest of the admission. -/
def finishBundle (cfg : Config) (input : BundleRequest)
    (written : Admission × Written OperationsBundle) : Promise (Option BundleId) := do
  enqueueBundle cfg input written.1 written.2
  pure (written.2.get (·.id))

theorem addOperationsBundle_eq (cfg : Config) (input : BundleRequest) :
    addOperationsBundle cfg input = writeBundle cfg input >>= finishBundle cfg input := by
  rw [writeBundle, Task.bind_assoc]
  refine congrArg (checkRequest cfg input >>= ·) (funext fun adm => ?_)
  rw [Task.bind_assoc]
  rfl

/-! ## What has changed -/

/-- The bundles, the UTXOs and the queue are what they were. -/
structure Untouched (before after : State) : Prop where
  operationsBundles : after.db.operationsBundles = before.db.operationsBundles
  utxos : after.db.utxos = before.db.utxos
  mempool : after.memory.mempool = before.memory.mempool

/-- A row that was not there. -/
structure Created (id : BundleId) (before after : State) : Prop where
  fresh : before.db.operationsBundles.find id = none
  row : (after.db.operationsBundles.find id).isSome

/-- A row that was EXPIRED or FAILED is PENDING. -/
structure Reset (id : BundleId) (before after : State) : Prop where
  was : ∃ row, before.db.operationsBundles.find id = some row ∧
    (row.status = .expired ∨ row.status = .failed)
  now : ∃ row, after.db.operationsBundles.find id = some row ∧ row.status = .pending

section Changed
variable {before after : State} {id : BundleId}

theorem Untouched.refl (s : State) : Untouched s s := ⟨rfl, rfl, rfl⟩

theorem stable_untouched (before : State) : Stable (Untouched before) where
  runOp o s ho hs := by
    cases o <;> first | exact ⟨hs.operationsBundles, hs.utxos, hs.mempool⟩ | exact ho.elim
  serve q s hq hs := by
    cases q with
    | command w =>
      cases w with
      | recordInteraction pp account =>
        simp only [serve, Command.run]
        split <;> exact ⟨hs.operationsBundles, hs.utxos, hs.mempool⟩
      | _ => exact hq.elim
    | query q => exact hs
    | rpc r => exact ⟨hs.operationsBundles, hs.utxos, hs.mempool⟩
  pass _ _ hs := ⟨hs.operationsBundles, hs.utxos, hs.mempool⟩

theorem Created.not_untouched (h : Created id before after) : ¬ Untouched before after := by
  intro hu
  have hrow := h.row
  rw [hu.operationsBundles, h.fresh] at hrow
  cases hrow

theorem Reset.not_untouched (h : Reset id before after) : ¬ Untouched before after := by
  intro hu
  obtain ⟨row, hrow, hwas⟩ := h.was
  obtain ⟨row', hrow', hnow⟩ := h.now
  rw [hu.operationsBundles, hrow] at hrow'
  cases hrow'
  rw [hnow] at hwas
  rcases hwas with h | h <;> cases h

/-- No step takes a created row back. -/
theorem Created.keeps {α : Type} {ok : Beat Err → Prop} (t : Promise α) :
    Task.Settles host ok (Created id before) t (fun _ => Created id before) (Created id before) := by
  refine Task.Settles.of_uses (fun o s _ hs => ⟨hs.fresh, ?_⟩) (fun q s _ hs => ⟨hs.fresh, ?_⟩)
    (fun _ _ hs => ⟨hs.fresh, hs.row⟩) t.uses_any
  · show ((runOp o s).2.db.operationsBundles.find id).isSome
    rw [runOp_db]
    exact hs.row
  · cases q with
    | command w => exact w.run_keeps_bundle s.clock hs.row
    | query q => exact hs.row
    | rpc r => exact hs.row

/-- Writes no bundle. -/
def Req.LeavesBundles : Req → Prop
  | .command (.createUtxo _) | .command (.updateUtxo _ _) | .query _ | .rpc _ => True
  | _ => False

theorem serve_bundles {s : State} {q : Req} (hq : q.LeavesBundles) :
    (serve q s).2.db.operationsBundles = s.db.operationsBundles := by
  cases q with
  | command w =>
    cases w with
    | createUtxo data =>
      simp only [serve, Command.run]
      repeat' split
      all_goals rfl
    | updateUtxo id data =>
      simp only [serve, Command.run]
      split <;> rfl
    | _ => exact hq.elim
  | _ => rfl

theorem Reset.keeps {α : Type} {ok : Beat Err → Prop} {t : Promise α}
    (ht : Keeps (fun _ => True) Req.LeavesBundles t) :
    Task.Settles host ok (Reset id before) t (fun _ => Reset id before) (Reset id before) := by
  refine Task.Settles.of_uses (fun o s _ hs => ⟨hs.was, ?_⟩) (fun q s hq hs => ⟨hs.was, ?_⟩)
    (fun _ _ hs => ⟨hs.was, hs.now⟩) ht
  · show ∃ row, (runOp o s).2.db.operationsBundles.find id = some row ∧ row.status = .pending
    rw [runOp_db]
    exact hs.now
  · show ∃ row, (serve q s).2.db.operationsBundles.find id = some row ∧ row.status = .pending
    rw [serve_bundles hq]
    exact hs.now

end Changed

/-! ## The writes -/

section Writes
variable {cfg : Config} {input : BundleRequest} {ok : Beat Err → Prop} {before : State}

/-- What the write of the bundle row leaves behind. -/
def Wrote (id : BundleId) (before after : State) : Written OperationsBundle → Prop
  | .row _ => Created id before after
  | .array _ => Reset id before after

theorem createBundle_settles {adm : Admission} (data : NewOperationsBundle)
    (hid : data.id = adm.bundleId) :
    Task.Settles host ok (Untouched before) (command (.createBundle data))
      (fun _ => Created adm.bundleId before) (Untouched before) := by
  refine .call (stable_untouched before).pass (fun s hs => ?_) fun _ _ _ _ hs => hs
  simp only [host, serve, Command.run]
  split
  · rename_i t ht
    have hfresh := (Table.insert?_eq_some ht).1
    have hfind := Table.find_insert ht data.id
    rw [NewOperationsBundle.row_id, if_pos rfl] at hfind
    rw [hs.operationsBundles] at hfresh
    exact hid ▸ ⟨hfresh, Option.isSome_of_eq_some hfind⟩
  · exact ⟨hs.operationsBundles, hs.utxos, hs.mempool⟩

theorem updateBundle_settles {id : BundleId} {data : OperationsBundlePatch} {row : OperationsBundle}
    (hdata : data.status = some .pending) (hrow : before.db.operationsBundles.find id = some row)
    (hstatus : row.status = .expired ∨ row.status = .failed) :
    Task.Settles host ok (Untouched before) (command (.updateBundle id data))
      (fun _ => Reset id before) (Untouched before) := by
  refine .call (stable_untouched before).pass (fun s hs => ?_) fun _ _ _ _ hs => hs
  have hfind := Command.updateBundle_find s.db s.clock id data
  rw [hs.operationsBundles, hrow] at hfind
  refine ⟨⟨row, hrow, hstatus⟩, row.set s.clock data, hfind, ?_⟩
  rw [OperationsBundle.set_status, hdata]
  rfl

/-- The write of the bundle row happens or it does not. -/
theorem persistBundle_settles {adm : Admission} (hadm : Checked cfg input (Untouched before) adm) :
    Task.Settles host ok (Untouched before) (persistBundle input adm)
      (fun entity s => Wrote adm.bundleId before s entity) (Untouched before) := by
  unfold persistBundle
  split
  · rename_i hreuse
    obtain ⟨s₀, hs₀, row, hrow, hstatus⟩ := hadm.reuse hreuse
    rw [hs₀.operationsBundles] at hrow
    exact (updateBundle_settles rfl hrow hstatus).bind fun rows => .pure fun _ hs => hs
  · have hnow : Task.Settles host ok (Untouched before) (run .now) (fun _ => Untouched before)
        (Untouched before) := .op fun _ hs => hs
    refine hnow.bind fun now => ?_
    exact (createBundle_settles _ rfl).bind fun row => .pure fun _ hs => hs

theorem writeBundle_settles :
    Task.Settles host ok (Untouched before) (writeBundle cfg input)
      (fun written s => ∃ id, Wrote id before s written.2) (Untouched before) := by
  refine Task.Settles.bind (checkRequest_gives (stable_untouched before) input) fun adm => ?_
  refine .of_state fun s hs => Task.Settles.mono ?_ (fun _ he => he ▸ hs.1) (fun _ _ h => h)
    fun _ h => h
  exact (persistBundle_settles hs.2).bind fun entity => .pure fun _ h => ⟨adm.bundleId, h⟩

/-- The rest of the admission keeps what the write left. -/
theorem finishBundle_settles {id : BundleId} (adm : Admission)
    (entity : Written OperationsBundle) :
    Task.Settles host ok (Wrote id before · entity) (finishBundle cfg input (adm, entity))
      (fun _ s => Wrote id before s entity) (Wrote id before · entity) := by
  cases entity with
  | row row => exact Created.keeps _
  | array rows =>
    have h : Reads (fun _ => True) Req.LeavesBundles :=
      ⟨fun _ => trivial, fun _ => trivial, trivial⟩
    refine Reset.keeps ?_
    refine Task.Uses.bind ((persistCreateOperations_keeps h (fun _ => trivial) _ _ _).bind
      fun _ => ?_) fun _ => keeps_pure _
    refine (persistSpendOperations_keeps h (fun _ _ => trivial) _ _ _ _ _).bind fun _ => ?_
    exact (keeps_run h.now).bind fun _ => keeps_done _

theorem Wrote.not_untouched {id : BundleId} {after : State} {entity : Written OperationsBundle}
    (h : Wrote id before after entity) : ¬ Untouched before after := by
  cases entity with
  | row row => exact Created.not_untouched h
  | array rows => exact Reset.not_untouched h

end Writes

/-- **Rejected requests.** A rejected request left the bundles, the UTXOs and
the queue as they were exactly when the checks or the write of its bundle row
rejected it. -/
theorem rejected_untouched_iff (cfg : Config) (input : BundleRequest) (s : State)
    (bs : List (Beat Err)) (e : Err)
    (h : ((addOperationsBundle cfg input).eval host bs s).1 = some (.error e)) :
    Untouched s ((addOperationsBundle cfg input).eval host bs s).2.2 ↔
      ((writeBundle cfg input).eval host bs s).1 = some (.error e) := by
  have hwrite : Task.Ended (fun written s' => ∃ id, Wrote id s s' written.2) (Untouched s)
      ((writeBundle cfg input).eval host bs s).1 ((writeBundle cfg input).eval host bs s).2.2 :=
    writeBundle_settles bs s (fun _ _ => trivial) (Untouched.refl s)
  rw [addOperationsBundle_eq, Task.bind_eq_settle, Task.eval_settle] at h ⊢
  revert h hwrite
  rcases (writeBundle cfg input).eval host bs s with ⟨_ | e' | written, bs', s'⟩
  · exact fun h _ => nomatch h
  · intro h hs
    cases h
    exact iff_of_true hs rfl
  · rintro h ⟨id, hs⟩
    have hkept : Task.Ended (fun _ s' => Wrote id s s' written.2) (Wrote id s · written.2)
        ((finishBundle cfg input written).eval host bs' s').1
        ((finishBundle cfg input written).eval host bs' s').2.2 :=
      finishBundle_settles written.1 written.2 bs' s' (fun _ _ => trivial) hs
    exact iff_of_false (hkept.of_error h).not_untouched fun hw => nomatch hw

/-- A spend of a UTXO without a row: the request is rejected, its row is there. -/
theorem rejected_not_untouched :
    ¬ ∀ (cfg : Config) (input : BundleRequest) (s : State) (bs : List (Beat Err)) (e : Err),
      ((addOperationsBundle cfg input).eval host bs s).1 = some (.error e) →
      Untouched s ((addOperationsBundle cfg input).eval host bs s).2.2 := by
  intro h
  have hrejected : ((addOperationsBundle Small.config (Small.request ["spend a", "withdraw 3"])).eval
      host [] Small.funded).1 = some (.error (.utxoNotFound "a")) := by decide +kernel
  have hrows := (h _ _ _ _ _ hrejected).operationsBundles
  have hlen : ((addOperationsBundle Small.config (Small.request ["spend a", "withdraw 3"])).eval
      host [] Small.funded).2.2.db.operationsBundles.rows.length = 1 := by decide +kernel
  rw [hrows] at hlen
  cases hlen

/-- The same request where the write of its row fails, the ninth call. -/
theorem rejected_untouched_small :
    Untouched Small.funded ((addOperationsBundle Small.config
      (Small.request ["spend a", "withdraw 3"])).eval host
        (List.replicate 8 .calm ++ [⟨0, .reject (.database "down")⟩]) Small.funded).2.2 :=
  (rejected_untouched_iff _ _ _ _ (.database "down") (by decide +kernel)).mpr (by decide +kernel)

end ProviderPlatform
