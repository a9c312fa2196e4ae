import ProviderPlatform.Lifecycle.Stamped

/-! # Every bundle was vouched for

What a request is shown by its lookups (the context of its channel, its session,
the account of the session, the approval of the account by the PP, and whether
the channel is open) is kept beside the run. Every bundle that waits or was handed
over for submission goes back to a request that was shown all of it. -/
namespace ProviderPlatform
open Async Store

/-! ## What a request is shown -/

inductive Sighting
  | context (channelContractId : ContractId) (ppPublicKey : PublicKey)
  | session (id : String) (accountId : AccountId)
  | account (id : AccountId) (found : AccountId)
  | approval (ppPublicKey : PublicKey) (accountId : AccountId)
  | openChannel (channelContractId : ContractId)
  deriving DecidableEq

def Query.sightings : (q : Query) → q.Ans → List Sighting
  | .findSessionById id, some session => [.session id session.accountId]
  | .findAccountById id, some account => [.account id account.id]
  | .findByPpAndAccount ppPublicKey accountId, some approval =>
    if approval.status = .approved then [.approval ppPublicKey accountId] else []
  | _, _ => []

def Req.sightings : (q : Req) → Except Err q.Ans → List Sighting
  | .query q, .ok answer => q.sightings answer
  | .rpc (.resolveChannelContext channelContractId ppPublicKey), .ok _ =>
    [.context channelContractId ppPublicKey]
  | _, _ => []

def Op.sightings : (o : Op) → o.Out → List Sighting
  | .isDisabled channelContractId, false => [.openChannel channelContractId]
  | _, _ => []

abbrev Sightings := List (BundleRequest × Sighting)

/-- Under the request that saw it. -/
def Call.saw : Call → List Sighting → Sightings
  | .addOperationsBundle input, seen => seen.map fun x => (input, x)
  | _, _ => []

def sightings : Observer platform State Call Sightings where
  onOp l s o m := m ++ l.saw (o.sightings (runOp o s).1)
  onServe l s q m := m ++ l.saw (q.sightings (serve q s).1)
  onCrash m := m

theorem sightings_looksback (M : Sightings) : sightings.Looksback (· ⊆ M) where
  op _ _ _ _ h := fun _ hx => h (List.mem_append_left _ hx)
  serve _ _ _ _ h := fun _ hx => h (List.mem_append_left _ hx)
  crash _ h := h

/-! ## Requests that were let through -/

/-- The account of the session, approved by the PP. -/
def BundleRequest.Approved (M : Sightings) (input : BundleRequest) (accountId : AccountId) : Prop :=
  ∃ found, (input, .session input.sessionId accountId) ∈ M ∧
    (input, .account accountId found) ∈ M ∧ (input, .approval input.ppPublicKey found) ∈ M

/-- The request passed the gate: it is small enough and names a PP that has the
channel; the PP approved the account of its session; its operations can be read,
every spend is signed, and the channel was open, or all it does is withdraw. -/
structure BundleRequest.Mediated (cfg : Config) (M : Sightings) (input : BundleRequest) : Prop where
  size : input.operationsMLXDR.length ≤ cfg.bundleMaxOperations
  pp : input.ppPublicKey ≠ ""
  context : (input, .context input.channelContractId input.ppPublicKey) ∈ M
  approved : ∃ accountId, input.Approved M accountId
  operations : ∃ operations, parseOperations cfg input.operationsMLXDR = .ok operations ∧
    (∀ op ∈ (classifyOperations operations).spend, op.isSignedByUtxo = true) ∧
    ((input, .openChannel input.channelContractId) ∈ M ∨
      isWithdrawOnlyBundle (classifyOperations operations) = true)

/-- The row is the one that the request asked for. -/
structure OperationsBundle.AskedBy (cfg : Config) (input : BundleRequest) (row : OperationsBundle) :
    Prop where
  id : row.id = generateBundleId cfg input.operationsMLXDR
  channelContractId : row.channelContractId = some input.channelContractId
  operationsMLXDR : row.operationsMLXDR = input.operationsMLXDR
  ppPublicKey : row.ppPublicKey = some input.ppPublicKey

/-- The bundle is the one that the request asked for, with its very operations. -/
structure SlotBundle.AskedBy (cfg : Config) (input : BundleRequest) (b : SlotBundle) : Prop where
  id : b.bundleId = generateBundleId cfg input.operationsMLXDR
  channelContractId : b.channelContractId = input.channelContractId
  operationsMLXDR : b.operationsMLXDR = input.operationsMLXDR
  ppPublicKey : b.ppPublicKey = input.ppPublicKey
  operations : ∃ operations, parseOperations cfg input.operationsMLXDR = .ok operations ∧
    b.operations = classifyOperations operations

def mediation (cfg : Config) (M : Sightings) : Stamp cfg where
  row r := ∃ input : BundleRequest, input.Mediated cfg M ∧ r.AskedBy cfg input
  bundle b := ∃ input : BundleRequest, input.Mediated cfg M ∧ b.AskedBy cfg input
  spares r now data hdata hrow := by
    obtain ⟨input, hinput, hasked⟩ := hrow
    refine ⟨input, hinput, hasked.id, ?_, ?_, ?_⟩
    · simpa [OperationsBundle.set, hdata.channelContractId] using hasked.channelContractId
    · simpa [OperationsBundle.set, hdata.operationsMLXDR] using hasked.operationsMLXDR
    · simpa [OperationsBundle.set, hdata.ppPublicKey] using hasked.ppPublicKey
  hydrates r hrow := by
    obtain ⟨input, hinput, hasked⟩ := hrow
    have hparse : (Task.done (I := platform) (parseOperations cfg r.operationsMLXDR)).Yields
        fun operations => parseOperations cfg input.operationsMLXDR = .ok operations := by
      rw [hasked.operationsMLXDR]
      exact fun _ he => he
    refine hparse.bind fun operations hoperations => ?_
    refine (Task.yields_any _).bind fun now _ => ?_
    refine (Task.yields_any _).bind fun submitter _ => .pure ⟨input, hinput, ?_⟩
    refine ⟨hasked.id, ?_, hasked.operationsMLXDR, ?_, operations, hoperations, rfl⟩
    · rw [hasked.channelContractId]
      rfl
    · rw [hasked.ppPublicKey]
      rfl
  retries b _ _ hb := by
    obtain ⟨input, hinput, hasked⟩ := hb
    exact ⟨input, hinput, hasked.id, hasked.channelContractId, hasked.operationsMLXDR,
      hasked.ppPublicKey, hasked.operations⟩

/-! ## The gate -/

section Gate
variable {cfg : Config} {M : Sightings} {input : BundleRequest}

/-- A step of a request that keeps the stamps. -/
abbrev Mediates {α : Type} (cfg : Config) (M : Sightings) (input : BundleRequest) (t : Promise α)
    (Q : α → Prop) : Prop :=
  Stamps (mediation cfg M) sightings (· ⊆ M) (.addOperationsBundle input) t Q

/-- What a request is shown by an answer is kept. -/
theorem call_mediates {q : Req} (hq : q.Stamped (mediation cfg M)) :
    Mediates cfg M input (Task.call (I := platform) q) fun a =>
      ∀ x ∈ q.sightings (.ok a), (input, x) ∈ M := by
  refine Task.Returning.call fun p _ hs hmay => ⟨fun a ha x hx => ?_, State.Stamped.serve hs hq⟩
  have hserved : (serve q p.1).1 = .ok a := ha
  have hmay : p.2 ++ (q.sightings (serve q p.1).1).map (fun x => (input, x)) ⊆ M := hmay
  rw [hserved] at hmay
  exact hmay (List.mem_append_right _ (List.mem_map_of_mem hx))

theorem query_mediates (q : Query) :
    Mediates cfg M input (query q) fun a => ∀ x ∈ q.sightings a, (input, x) ∈ M :=
  call_mediates (q := .query q) trivial

theorem validateSession_mediates : Mediates cfg M input (validateSession input.sessionId)
    fun session => (input, .session input.sessionId session.accountId) ∈ M := by
  refine Task.Returning.bind (query_mediates _) fun session hseen => ?_
  cases session with
  | none => exact .fail _
  | some session => exact .pure (hseen _ (List.mem_singleton_self _))

/-- The submitter that passes is approved. -/
theorem validateSubmitter_mediates :
    Mediates cfg M input (validateSubmitter input.ppPublicKey input.sessionId) fun submitter =>
      input.Approved M submitter.1 := by
  have hreject {α : Type} (account : AccountId) (Q : α → Prop) :
      Mediates cfg M input (rejectSubmitter input.ppPublicKey account) Q := by
    refine stamps_yields (rejectSubmitter_keeps (fun _ _ => trivial) _ _) ?_
    exact (Task.yields_any _).bind fun _ _ => Task.Yields.fail _
  refine Task.Returning.bind validateSession_mediates fun session hsession => ?_
  refine Task.Returning.bind (query_mediates _) fun account haccount => ?_
  cases account with
  | none => exact hreject _ _
  | some account =>
    refine Task.Returning.bind (query_mediates _) fun approval happroval => ?_
    split
    · rename_i happroved
      refine Task.Returning.bind (query_mediates _) fun entity _ => .pure ?_
      refine ⟨account.id, hsession, haccount _ (List.mem_singleton_self _), ?_⟩
      obtain ⟨found, rfl, hfound⟩ := Option.map_eq_some_iff.mp happroved
      exact happroval _ (by simp [Query.sightings, hfound])
    · exact hreject _ _

theorem isDisabled_mediates : Mediates cfg M input (run (.isDisabled input.channelContractId))
    fun isDisabled : Bool => isDisabled = false → (input, .openChannel input.channelContractId) ∈ M := by
  refine Task.Returning.op fun p _ hs hmay => ⟨fun hopen => ?_, State.Stamped.runOp hs trivial⟩
  have hmay : p.2 ++ (Op.sightings (.isDisabled input.channelContractId)
      (runOp (.isDisabled input.channelContractId) p.1).1).map (fun x => (input, x)) ⊆ M := hmay
  have hanswer : (runOp (.isDisabled input.channelContractId) p.1).1 = false := hopen
  rw [hanswer] at hmay
  exact hmay (List.mem_append_right _ (List.mem_singleton_self _))

theorem signed_of_validateSpendOperations {operations : List SpendOperation}
    (h : validateSpendOperations operations = .ok ()) : ∀ op ∈ operations, op.isSignedByUtxo = true := by
  unfold validateSpendOperations at h
  split at h
  · cases h
  · rename_i hnone
    simpa using hnone

/-- **The gate.** A request that passes its checks was mediated. -/
theorem checkRequest_mediates : Mediates cfg M input (checkRequest cfg input) fun adm =>
    input.Mediated cfg M ∧ OperationsChecked cfg input adm := by
  have hp := permits_stamped (T := mediation cfg M)
  unfold checkRequest
  split
  · exact .fail _
  rename_i hsize
  split
  · exact .fail _
  rename_i hpp
  have hresolved : Mediates cfg M input (withAdmissionTimeout input.channelContractId
      (rpc (.resolveChannelContext input.channelContractId input.ppPublicKey))) fun _ =>
      (input, .context input.channelContractId input.ppPublicKey) ∈ M := by
    refine Task.Returning.recover ((call_mediates (q := .rpc (.resolveChannelContext _ _))
      trivial).imp fun _ hseen => hseen _ (List.mem_singleton_self _)) fun e => ?_
    split <;> exact .fail _
  refine Task.Returning.bind hresolved fun ctx hcontext => ?_
  refine Task.Returning.bind validateSubmitter_mediates fun submitter hsubmitter => ?_
  refine Task.Returning.bind (stamps_uses (assertBundleIsExpired_keeps hp.query _)) fun _ _ => ?_
  refine Task.Returning.bind (Q := fun operations =>
    parseOperations cfg input.operationsMLXDR = .ok operations) (.done fun _ he => he)
    fun operations hoperations => ?_
  refine Task.Returning.bind (Q := fun _ =>
    ∀ op ∈ (classifyOperations operations).spend, op.isSignedByUtxo = true)
    (.done fun _ he => signed_of_validateSpendOperations he) fun _ hsigned => ?_
  refine Task.Returning.bind isDisabled_mediates fun isDisabled hopen => ?_
  split
  · exact .fail _
  rename_i hgate
  refine Task.Returning.bind (stamps_uses (calculateFeeAndTtl_keeps hp.toReads _ _ _))
    fun feeAndTtl _ => .pure ⟨?_, rfl, operations, hoperations, rfl⟩
  refine ⟨Nat.le_of_not_lt hsize, hpp, hcontext, ⟨_, hsubmitter⟩, operations, hoperations, hsigned, ?_⟩
  cases isDisabled with
  | false => exact .inl (hopen rfl)
  | true => exact .inr (by simpa using hgate)

theorem addOperationsBundle_mediates :
    Mediates cfg M input (addOperationsBundle cfg input) fun _ => True := by
  refine addOperationsBundle_stamps checkRequest_mediates ?_ ?_
  · rintro adm ⟨hinput, hchecked⟩ row hof
    exact ⟨input, hinput, hof.id.trans hchecked.bundleId, hof.channelContractId,
      hof.operationsMLXDR, hof.ppPublicKey⟩
  · rintro adm ⟨hinput, hchecked⟩ row hof now entityName jurisdictions bundle hbundle
    cases hbundle
    refine ⟨input, hinput, hof.id.trans hchecked.bundleId, ?_, hof.operationsMLXDR, ?_,
      hchecked.classified⟩
    · show row.channelContractId.getD "" = _
      rw [hof.channelContractId]
      rfl
    · show row.ppPublicKey.getD "" = _
      rw [hof.ppPublicKey]
      rfl

end Gate

/-! ## Runs -/

/-- **Complete mediation.** In every run from a fresh database each bundle that is
queued, each row that is PENDING or PROCESSING and each bundle that was handed over
for submission goes back to a request that was shown, in this run, that its PP has
the channel and approved the account of its session, and that passed the gate with
the very operations that are stored, queued and submitted. -/
theorem bundles_mediated {cfg : Config} {fuel : Nat} {s : State} {c : ProviderPool} {m : Sightings}
    (hfresh : Fresh cfg s)
    (h : (operated cfg fuel).Observed sightings Machine.Free ((operated cfg fuel).init s) [] c m) :
    (∀ b ∈ c.state.memory.mempool.queued,
      ∃ input : BundleRequest, input.Mediated cfg m ∧ b.AskedBy cfg input) ∧
    (∀ id row, c.state.db.operationsBundles.find id = some row → row.status ∈ BundleStatus.active →
      ∃ input : BundleRequest, input.Mediated cfg m ∧ row.AskedBy cfg input) ∧
    ∀ channel pp bundles, .handed channel pp bundles ∈ c.state.history → ∀ b ∈ bundles,
      ∃ input : BundleRequest, input.Mediated cfg m ∧ b.AskedBy cfg input := by
  have hstamped : c.state.Stamped (mediation cfg m) := by
    refine stamped_reachable (sightings_looksback m) (fun s l hl => ?_)
      (fun _ _ _ => addOperationsBundle_mediates) (.fresh hfresh) h (List.Subset.refl m)
    exact (Bool.and_eq_true_iff.mp hl).2
  exact ⟨hstamped.queued, hstamped.rows, hstamped.handed⟩

/-- The deposit that has been admitted goes back to its request. -/
theorem bundles_mediated_small : ∃ (c : ProviderPool) (m : Sightings) (b : SlotBundle)
    (input : BundleRequest), c.state.memory.mempool.queued = [b] ∧ b.bundleId = "deposit 10" ∧
      input.Mediated Small.config m ∧ b.AskedBy Small.config input := by
  have hwatch : ((operated Small.config 1).watch sightings Machine.Free Small.admitted
      ((operated Small.config 1).init Small.state) []).map
        (fun r => r.1.state.memory.mempool.queuedIds == ["deposit 10"]) = some true := by
    decide +kernel
  obtain ⟨c, m, h, hp⟩ := Machine.exists_observed Small.admitted (fun (s : State) (_ : Sightings) =>
    s.memory.mempool.queuedIds == ["deposit 10"]) hwatch
  obtain ⟨b, hqueued, hid⟩ := List.map_eq_singleton_iff.mp (eq_of_beq hp)
  obtain ⟨input, hmediated, hasked⟩ := (bundles_mediated Small.fresh h).1 b (by simp [hqueued])
  exact ⟨c, m, b, input, hqueued, hid, hmediated, hasked⟩

end ProviderPlatform
