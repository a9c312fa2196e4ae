import ProviderPlatform.Executor.Process
import ProviderPlatform.Async.Eval
import ProviderPlatform.Bundle.AddBundle

/-! # One row, two constructors

Admission builds a slot bundle from the row it inserted and the entity it read,
hydration from a row and the rows it looks up. Both fill in `slotBundle`, so
they can only differ in the priority and in the submitter, and a retry changes
the same two fields in the row and in the copy. -/
namespace ProviderPlatform
open Async

/-- The slot bundle of a row: what both constructors fill in. -/
def OperationsBundle.slotBundle (cfg : Config) (row : OperationsBundle)
    (classified : ClassifiedOperations) (priorityScore : Rat)
    (submitter : Option String × List String) : SlotBundle where
  bundleId := row.id
  channelContractId := row.channelContractId.getD ""
  operationsMLXDR := row.operationsMLXDR
  operations := classified
  fee := row.fee
  weight := calculateBundleWeight classified cfg.weightConfig
  ttl := row.ttl
  createdAt := row.createdAt
  priorityScore := priorityScore
  retryCount := row.retryCount
  lastFailureReason := row.lastFailureReason
  ppPublicKey := row.ppPublicKey.getD ""
  entityName := submitter.1
  jurisdictions := submitter.2
  amount := aggregateBundleAmount classified

/-- The columns a slot bundle is made of, and the submitter. -/
def OperationsBundle.content (row : OperationsBundle) : OperationsBundle :=
  { row with
    status := .pending
    failureDetail := none
    updatedAt := 0
    updatedBy := none
    deletedAt := none }

/-- The bundle is what the row says, whatever its priority and its submitter. -/
def Mirrors (cfg : Config) (row : OperationsBundle) (bundle : SlotBundle) : Prop :=
  ∃ operations, parseOperations cfg row.operationsMLXDR = .ok operations ∧
    bundle = row.slotBundle cfg (classifyOperations operations) bundle.priorityScore
      (bundle.entityName, bundle.jurisdictions)

/-- The submitter of a bundle, as the rows of its account and its entity name it. -/
def submitterOf (entity : Option Entity) : Option String × List String :=
  (entity.bind (·.name), (entity.bind (·.jurisdictions)).getD [])

/-- What a retry changes in the copy in memory. -/
def SlotBundle.retried (bundle : SlotBundle) (m : ExecutionFailureResult) : SlotBundle :=
  { bundle with
    retryCount := m.nextRetryCount
    lastFailureReason := some m.lastFailureReason }

section Mirrors
variable {cfg : Config} {row row' : OperationsBundle} {bundle : SlotBundle}
  {operations : List MoonlightOperation}

@[simp] theorem SlotBundle.retried_bundleId (m : ExecutionFailureResult) :
    (bundle.retried m).bundleId = bundle.bundleId := rfl

theorem Mirrors.bundleId (h : Mirrors cfg row bundle) : bundle.bundleId = row.id := by
  obtain ⟨operations, -, hbundle⟩ := h
  rw [hbundle]
  rfl

/-- A row mirrors its slot bundles through its content. -/
theorem mirrors_content : Mirrors cfg row.content bundle ↔ Mirrors cfg row bundle := Iff.rfl

theorem Mirrors.of_content (h : Mirrors cfg row bundle) (hsame : row'.content = row.content) :
    Mirrors cfg row' bundle := by
  rwa [← mirrors_content, hsame, mirrors_content]

theorem mirrors_slotBundle (h : parseOperations cfg row.operationsMLXDR = .ok operations)
    (priorityScore : Rat) (submitter : Option String × List String) :
    Mirrors cfg row
      (row.slotBundle cfg (classifyOperations operations) priorityScore submitter) :=
  ⟨operations, h, rfl⟩

/-- The retry writes the same to the row and to the copy. -/
theorem Mirrors.retried (h : Mirrors cfg row bundle) (m : ExecutionFailureResult) :
    Mirrors cfg { row with
        retryCount := m.nextRetryCount
        lastFailureReason := some m.lastFailureReason } (bundle.retried m) := by
  obtain ⟨operations, hparse, hbundle⟩ := h
  refine ⟨operations, hparse, ?_⟩
  unfold SlotBundle.retried
  rw [hbundle]
  rfl

/-! ## Both constructors -/

/-- Admission mirrors the row it inserted and shows the entity it read. -/
theorem createSlotBundle_mirrors {now : Time} {entity : Option Entity}
    (hparse : parseOperations cfg row.operationsMLXDR = .ok operations)
    (h : createSlotBundle cfg now (.row row) (classifyOperations operations)
      (entity.bind (·.name)) ((entity.bind (·.jurisdictions)).getD []) = .ok bundle) :
    Mirrors cfg row bundle ∧ (bundle.entityName, bundle.jurisdictions) = submitterOf entity := by
  cases h
  exact ⟨mirrors_slotBundle hparse _ (submitterOf entity), rfl⟩

/-- Hydration mirrors the row it is given. -/
theorem createSlotBundleFromEntity_mirrors (row : OperationsBundle) :
    (createSlotBundleFromEntity cfg row).Yields (Mirrors cfg row) := by
  have hparse : (Task.done (I := platform) (parseOperations cfg row.operationsMLXDR)).Yields
      fun operations => parseOperations cfg row.operationsMLXDR = .ok operations :=
    fun _ he => he
  refine hparse.bind fun operations hoperations => ?_
  refine (Task.yields_any _).bind fun now _ => ?_
  exact (Task.yields_any _).bind fun submitter _ =>
    .pure (mirrors_slotBundle hoperations _ submitter)

theorem query_eval {q : Query} {a : q.Ans} {s : State} (h : q.run s.db = a) :
    ∃ s', s'.db = s.db ∧ (query q).eval host [] s = (some (.ok a), [], s') := by
  subst h
  exact ⟨host.pass 0 s, rfl, Task.eval_call host rfl⟩

theorem lookupSubmitter_eval {pubkey : AccountId} {account : Account} {entity : Option Entity}
    {s : State} (hne : pubkey ≠ "")
    (haccount : (Query.findAccountById pubkey).run s.db = some account)
    (hentity : (Query.findEntityById account.entityId).run s.db = entity) :
    ((lookupSubmitter (some pubkey)).eval host [] s).1 = some (.ok (submitterOf entity)) := by
  have hpubkey : (some pubkey).filter (· ≠ "") = some pubkey := by simp [hne]
  obtain ⟨s₁, hdb₁, heval₁⟩ := query_eval haccount
  rw [← hdb₁] at hentity
  obtain ⟨s₂, -, heval₂⟩ := query_eval hentity
  unfold lookupSubmitter
  rw [hpubkey]
  refine (congrArg Prod.fst (Task.eval_bind_ok host heval₁)).trans ?_
  refine (congrArg Prod.fst (Task.eval_bind_ok host heval₂)).trans ?_
  cases entity <;> rfl

/-- Hydration of a row whose submitter reads as it did. -/
theorem createSlotBundleFromEntity_eval {pubkey : AccountId} {account : Account}
    {entity : Option Entity} {s : State} (h : Mirrors cfg row bundle)
    (hby : row.createdBy = some pubkey) (hne : pubkey ≠ "")
    (haccount : (Query.findAccountById pubkey).run s.db = some account)
    (hentity : (Query.findEntityById account.entityId).run s.db = entity)
    (hsubmitter : (bundle.entityName, bundle.jurisdictions) = submitterOf entity) :
    ∃ priorityScore, ((createSlotBundleFromEntity cfg row).eval host [] s).1 =
      some (.ok { bundle with priorityScore := priorityScore }) := by
  obtain ⟨operations, hparse, hbundle⟩ := h
  refine ⟨calculatePriorityScore s.clock row.fee row.ttl row.createdAt, ?_⟩
  have hlookup := lookupSubmitter_eval hne haccount hentity
  rcases heval : (lookupSubmitter (some pubkey)).eval host [] s with ⟨r, bs, s'⟩
  rw [heval] at hlookup
  apply (Task.eval_bind_eq_ok host).mpr
  refine ⟨operations, [], s, by rw [hparse]; rfl, ?_⟩
  apply (Task.eval_bind_eq_ok host).mpr
  refine ⟨s.clock, [], s, rfl, ?_⟩
  apply (Task.eval_bind_eq_ok host).mpr
  refine ⟨submitterOf entity, bs, s', ?_, ?_⟩
  · rw [hby, heval]
    exact congrArg (fun r => (r, bs, s')) hlookup
  · rw [hbundle, hsubmitter]
    rfl

end Mirrors

end ProviderPlatform
