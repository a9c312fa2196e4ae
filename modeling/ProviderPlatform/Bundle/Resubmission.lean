import ProviderPlatform.Bundle.Checks

/-! # Resubmission

`assertBundleIsExpired` lets a request reuse the row of an expired or failed
bundle. The reuse path hands on what `BaseRepository.update` returns, an array
of rows, where the first submission hands on the row: the slot bundle cannot
be built from it, so a request whose bundle has a row is never admitted. -/
namespace ProviderPlatform
open Async

/-- The bundle has a row, and the mempool is this one. -/
def Known (id : BundleId) (mempool : Mempool) (s : State) : Prop :=
  (s.db.operationsBundles.find id).isSome ∧ s.memory.mempool = mempool

section Known
variable {α : Type} {cfg : Config} {input : BundleRequest} {ok : Beat Err → Prop}
variable {id : BundleId} {mempool : Mempool}

theorem Known.runOp {s : State} {o : Op} (h : Known id mempool s) (ho : o.Looks) :
    Known id mempool (runOp o s).2 := by
  refine ⟨by rw [runOp_db]; exact h.1, ?_⟩
  cases o <;> first | exact h.2 | exact ho.elim

theorem Known.serve {s : State} (h : Known id mempool s) (q : Req) :
    Known id mempool (serve q s).2 := by
  cases q with
  | command w => exact ⟨w.run_keeps_bundle s.clock h.1, h.2⟩
  | _ => exact h

theorem stable_known (id : BundleId) (mempool : Mempool) : Stable (Known id mempool) where
  runOp _ _ ho hs := hs.runOp ho
  serve q _ _ hs := hs.serve q
  pass _ _ hs := hs

theorem known_gives {t : Promise α} (ht : Keeps Op.Looks (fun _ => True) t) :
    Task.Gives host ok (Known id mempool) t fun _ => True :=
  .of_uses (fun _ _ ho hs => hs.runOp ho) (fun q _ _ hs => hs.serve q) (fun _ _ hs => hs) ht

theorem permits_lookingOn : Permits Op.Looks fun _ => True where
  query _ := trivial
  rpc _ := trivial
  now := trivial
  emit _ _ := trivial
  isDisabled _ := trivial

/-- Where the bundle has a row, its write fails or hands back an array. -/
theorem persistBundle_gives {adm : Admission} (hid : adm.bundleId = id) :
    Task.Gives host ok (Known id mempool) (persistBundle input adm)
      fun entity => ∃ rows, entity = .array rows := by
  have h := permits_lookingOn
  unfold persistBundle
  split
  · exact (known_gives (keeps_command trivial)).bind fun rows _ => .pure ⟨rows, rfl⟩
  · refine (known_gives (keeps_run h.now)).bind fun now _ => ?_
    refine Task.Gives.bind (Q := fun _ => False) (.call (fun _ _ hs => hs) fun s hs =>
      ⟨hs.serve _, fun row hrow => ?_⟩) fun _ hf => hf.elim
    simp only [host, serve, Command.run] at hrow
    split at hrow
    · rename_i t ht
      have hnone := (Store.Table.insert?_eq_some ht).1
      have hsome : (s.db.operationsBundles.find adm.bundleId).isSome := hid ▸ hs.1
      rw [show (NewOperationsBundle.row _ _).id = adm.bundleId from rfl] at hnone
      rw [hnone] at hsome
      cases hsome
    · cases hrow

/-- No slot bundle is built from an array. -/
theorem enqueueBundle_gives (adm : Admission) (rows : List OperationsBundle) :
    Task.Gives host ok (Known id mempool) (enqueueBundle cfg input adm (.array rows))
      fun _ => False := by
  have h := permits_lookingOn
  refine (known_gives (persistCreateOperations_keeps h.toReads (fun _ => trivial) _ _ _)).bind fun _ _ => ?_
  refine (known_gives (persistSpendOperations_keeps h.toReads (fun _ _ => trivial) _ _ _ _ _)).bind
    fun _ _ => ?_
  refine (known_gives (keeps_run h.now)).bind fun now _ => ?_
  refine (Task.Gives.done (Q := fun _ => False) fun _ he => ?_).bind fun _ hf => hf.elim
  simp only [createSlotBundle, reduceCtorEq] at he

end Known

/-- **A known bundle is never admitted.** Whatever the schedule, a request whose
bundle has an EXPIRED or FAILED row (or any other) does not return, and leaves
the mempool as it was. -/
theorem resubmission_never_returns (cfg : Config) (input : BundleRequest) (s : State)
    (bs : List (Beat Err))
    (hrow : (s.db.operationsBundles.find (generateBundleId cfg input.operationsMLXDR)).isSome) :
    (∀ id, ((addOperationsBundle cfg input).eval host bs s).1 ≠ some (.ok id)) ∧
      ((addOperationsBundle cfg input).eval host bs s).2.2.memory.mempool = s.memory.mempool := by
  have hgives : Task.Gives host (fun _ => True)
      (Known (generateBundleId cfg input.operationsMLXDR) s.memory.mempool)
      (addOperationsBundle cfg input) fun _ => False := by
    refine (checkRequest_gives (stable_known _ _) input).bind fun adm hadm => ?_
    refine (persistBundle_gives hadm.bundleId).bind fun entity he => ?_
    obtain ⟨rows, rfl⟩ := he
    exact (enqueueBundle_gives adm rows).bind fun _ hf => hf.elim
  have hs : Known (generateBundleId cfg input.operationsMLXDR) s.memory.mempool s := ⟨hrow, rfl⟩
  exact ⟨fun _ he => hgives.value hs he, (hgives.keeps hs).2⟩

namespace Small

/-- The row of a deposit that failed. -/
def failedRow : OperationsBundle where
  id := "deposit 10"
  status := .failed
  channelContractId := some "channel"
  ttl := 100
  operationsMLXDR := ["deposit 10"]
  fee := 10
  retryCount := 3
  ppPublicKey := some "GPP"
  createdAt := 0
  updatedAt := 0

/-- The platform with that row, and nothing queued. -/
def withFailed : State :=
  { state with db := { database with operationsBundles := ⟨[failedRow], by decide⟩ } }

end Small

/-- The deposit is submitted again and passes every check, no call fails, and
the request is rejected with a TypeError. -/
theorem resubmission_not_admitted :
    ¬ ∀ (cfg : Config) (input : BundleRequest) (s : State) (row : OperationsBundle)
      (adm : Admission),
      s.db.operationsBundles.find (generateBundleId cfg input.operationsMLXDR) = some row →
      row.status = .expired ∨ row.status = .failed →
      ((checkRequest cfg input).eval host [] s).1 = some (.ok adm) →
      s.clock < adm.ttl → calculateBundleWeight adm.classified cfg.weightConfig ≤ cfg.slotCapacity →
      ((addOperationsBundle cfg input).eval host [] s).1 = some (.ok (some adm.bundleId)) := by
  intro h
  obtain ⟨adm, heval, hp⟩ := Task.exists_value_of_eval host
    (checkRequest Small.config (Small.request ["deposit 10"])) [] Small.withFailed
    (fun adm => Small.withFailed.clock < adm.ttl &&
      decide (calculateBundleWeight adm.classified Small.config.weightConfig ≤ 10))
    (by decide +kernel)
  simp only [Bool.and_eq_true, decide_eq_true_eq] at hp
  have hok := h Small.config (Small.request ["deposit 10"]) Small.withFailed Small.failedRow adm
    (by decide +kernel) (.inr rfl) heval hp.1 hp.2
  have herr : ((addOperationsBundle Small.config (Small.request ["deposit 10"])).eval host []
      Small.withFailed).1.map (·.isOk) = some false := by decide +kernel
  rw [hok] at herr
  cases herr

/-- The same request, under the schedule that serves every call. -/
theorem resubmission_never_returns_small :
    (∀ id, ((addOperationsBundle Small.config (Small.request ["deposit 10"])).eval host []
        Small.withFailed).1 ≠ some (.ok id)) ∧
      ((addOperationsBundle Small.config (Small.request ["deposit 10"])).eval host []
        Small.withFailed).2.2.memory.mempool = .new 10 :=
  resubmission_never_returns Small.config (Small.request ["deposit 10"]) Small.withFailed []
    (by decide +kernel)

end ProviderPlatform
