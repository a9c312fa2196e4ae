import ProviderPlatform.Async.Trace
import ProviderPlatform.Verifier.Overlap

/-! # Settlement across a crash

A settlement makes the row of the transaction final before the rows of its
bundles, and later cycles only look at UNVERIFIED transactions. So what a fault
between the two leaves undone stays undone, and nothing else does. -/
namespace ProviderPlatform
open Async Store

/-! ## What the chain asks -/

/-- What the network says of a transaction. -/
def Network.result (net : Network) (txHash : TxHash) : VerificationResult :=
  match net.transaction txHash with
  | some .success => .verified
  | some (.failed resultXdr) =>
    .failed ("Transaction failed with result code: " ++ resultXdr.getD "unknown")
  | _ => .pending

/-- The status that a settlement gives the bundles. -/
def VerificationResult.status : VerificationResult → BundleStatus
  | .verified => .completed
  | _ => .failed

/-- The transactions that a cycle looks at. -/
def Database.unverified (db : Database) : List Transaction :=
  (Query.findTransactionsByStatus .unverified).run db

namespace State

def status (s : State) (id : BundleId) : Option BundleStatus :=
  (s.db.operationsBundles.find id).map (·.status)

/-- The bundle has a row that `findById` finds. -/
def Live (s : State) (id : BundleId) : Prop := ((Query.findBundleById id).run s.db).isSome = true

/-- A cycle settles the transaction, and gives its bundles the status `F`. -/
def Asks (s : State) (F : BundleStatus) (transaction : Transaction) : Prop :=
  (s.network.result transaction.id = .pending → s.clock > transaction.timeout) ∧
    (s.network.result transaction.id).status = F

/-- The UNVERIFIED transactions of the bundle all ask for `F`. -/
def Agreed (s : State) (id : BundleId) (F : BundleStatus) : Prop :=
  ∀ transaction ∈ s.db.unverified, id ∈ s.db.linkedTo transaction.id → s.Asks F transaction

/-- The bundle is linked to an UNVERIFIED transaction. -/
def Awaited (s : State) (id : BundleId) : Prop :=
  ∃ transaction ∈ s.db.unverified, id ∈ s.db.linkedTo transaction.id

end State

theorem mem_unverified {db : Database} {transaction : Transaction} :
    transaction ∈ db.unverified ↔ transaction ∈ db.transactions.rows ∧
      transaction.deletedAt = none ∧ transaction.status = .unverified := by
  simp [Database.unverified, Query.run, Table.mem_select]

/-! ## What settlements leave as it is -/

/-- From one state to a later one: links, rows that can be found and what the
network says stay; no transaction becomes UNVERIFIED. -/
structure Forward (s s' : State) : Prop where
  links : s'.db.bundlesTransactions = s.db.bundlesTransactions
  answers : s'.network.transaction = s.network.transaction
  clock : s.clock ≤ s'.clock
  unverified : ∀ transaction ∈ s'.db.unverified, transaction ∈ s.db.unverified
  live : ∀ id, s.Live id → s'.Live id

namespace Forward
variable {s s' s'' : State} {id : BundleId} {F : BundleStatus} {transaction : Transaction}

theorem refl (s : State) : Forward s s := ⟨rfl, rfl, le_refl _, fun _ h => h, fun _ h => h⟩

theorem trans (h : Forward s s') (h' : Forward s' s'') : Forward s s'' where
  links := h'.links.trans h.links
  answers := h'.answers.trans h.answers
  clock := h.clock.trans h'.clock
  unverified t ht := h.unverified t (h'.unverified t ht)
  live id hid := h'.live id (h.live id hid)

theorem linkedTo (h : Forward s s') (txId : TxHash) : s'.db.linkedTo txId = s.db.linkedTo txId := by
  rw [Database.linkedTo, Database.linkedTo, Query.run, Query.run, h.links]

theorem result (h : Forward s s') (txId : TxHash) : s'.network.result txId = s.network.result txId := by
  rw [Network.result, Network.result, h.answers]

theorem asks (h : Forward s s') (ha : s.Asks F transaction) : s'.Asks F transaction := by
  rw [State.Asks, h.result]
  refine ⟨fun hpending => ?_, ha.2⟩
  have hlate := ha.1 hpending
  have hclock := h.clock
  unfold Time at *
  omega

theorem agreed (h : Forward s s') (ha : s.Agreed id F) : s'.Agreed id F := by
  intro transaction ht hlinked
  rw [h.linkedTo] at hlinked
  exact h.asks (ha transaction (h.unverified _ ht) hlinked)

theorem awaited (h : Forward s s') (ha : s'.Awaited id) : s.Awaited id := by
  obtain ⟨transaction, ht, hlinked⟩ := ha
  rw [h.linkedTo] at hlinked
  exact ⟨transaction, h.unverified _ ht, hlinked⟩

end Forward

/-- What a settlement of `txId` asks of the repositories. -/
def Req.Settling (txId : TxHash) (ids : List BundleId) (F : BundleStatus) : Req → Prop
  | .command (.updateTransaction id status) => id = txId ∧ status ≠ .unverified
  | .command (.updateBundle id data) => id ∈ ids ∧ data.status = some F
  | .command _ => False
  | _ => True

theorem permits_settling (txId : TxHash) (ids : List BundleId) (F : BundleStatus) :
    Permits (fun _ => True) (Req.Settling txId ids F) where
  query _ := trivial
  rpc _ := trivial
  now := trivial
  emit _ _ := trivial
  isDisabled _ := trivial

theorem settleTransaction_settling (cfg : Config) (transaction : Transaction) (ids : List BundleId)
    (result : VerificationResult) :
    Keeps (fun _ => True) (Req.Settling transaction.id ids result.status)
      (settleTransaction cfg transaction ids result) := by
  have h := permits_settling transaction.id ids result.status
  cases result with
  | verified =>
    have hverified : (TransactionStatus.verified) ≠ .unverified := by decide
    exact handleVerificationSuccess_keeps h cfg ⟨rfl, hverified⟩ fun id hid => ⟨hid, rfl⟩
  | failed reason =>
    have hfailed : (TransactionStatus.failed) ≠ .unverified := by decide
    refine (findFirstBundleChannel_keeps h.toReads _).bind fun channel => ?_
    refine Task.Uses.bind ?_ fun _ => emitFailed_keeps h _ _ _ _
    exact handleVerificationFailure_keeps h.toReads cfg reason _ ⟨rfl, hfailed⟩
      fun id hid data hdata => ⟨hid, hdata⟩
  | pending =>
    have hfailed : (TransactionStatus.failed) ≠ .unverified := by decide
    refine (keeps_run h.now).bind fun now => keeps_ite (fun _ => ?_) fun _ => keeps_pure _
    exact handleVerificationFailure_keeps h.toReads cfg _ _ ⟨rfl, hfailed⟩
      fun id hid data hdata => ⟨hid, hdata⟩

theorem forward_runOp (o : Op) (s : State) : Forward s (runOp o s).2 := by
  refine ⟨by rw [runOp_db], by rw [runOp_network], ?_, by rw [runOp_db]; exact fun _ h => h, ?_⟩
  · cases o <;> exact le_refl _
  · intro id h
    rwa [State.Live, runOp_db]

theorem forward_pass (n : Nat) (s : State) : Forward s (host.pass n s) :=
  ⟨rfl, rfl, by simp [host], fun _ h => h, fun _ h => h⟩

theorem live_updateBundle {s : State} {id : BundleId} (h : s.Live id) (id' : BundleId)
    (data : OperationsBundlePatch) : (serve (.command (.updateBundle id' data)) s).2.Live id := by
  unfold State.Live at h ⊢
  simp only [Query.run] at h ⊢
  rw [find_updateBundle]
  cases hrow : s.db.operationsBundles.find id with
  | none =>
    rw [hrow] at h
    cases h
  | some row =>
    rw [hrow] at h
    rw [Option.map_some]
    split
    · have hset : (row.set s.clock data).deletedAt = row.deletedAt := rfl
      simpa [Option.filter_some, hset] using h
    · exact h

/-- A settled transaction is no longer UNVERIFIED; the others are as they were. -/
theorem unverified_updateTransaction (s : State) (txId : TxHash) {status : TransactionStatus}
    (h : status ≠ .unverified) (transaction : Transaction) :
    transaction ∈ (serve (.command (.updateTransaction txId status)) s).2.db.unverified ↔
      transaction ∈ s.db.unverified ∧ transaction.id ≠ txId := by
  have hrows : (serve (.command (.updateTransaction txId status)) s).2.db.transactions.rows =
      s.db.transactions.rows.map fun r => if r.id == txId then r.setStatus s.clock status else r := by
    rfl
  rw [mem_unverified, mem_unverified, hrows, List.mem_map]
  constructor
  · rintro ⟨⟨row, hrow, rfl⟩, hdeleted, hstatus⟩
    split at hdeleted
    · rename_i hid
      rw [if_pos hid] at hstatus
      exact absurd hstatus h
    · rename_i hid
      rw [if_neg hid] at hstatus ⊢
      exact ⟨⟨hrow, hdeleted, hstatus⟩, by simpa using hid⟩
  · rintro ⟨⟨hrow, hdeleted, hstatus⟩, hid⟩
    exact ⟨⟨transaction, hrow, if_neg (by simpa using hid)⟩, hdeleted, hstatus⟩

theorem forward_serve {txId : TxHash} {ids : List BundleId} {F : BundleStatus} {q : Req}
    (hq : q.Settling txId ids F) (s : State) : Forward s (serve q s).2 := by
  cases q with
  | query q => exact .refl s
  | rpc r =>
    have hanswers : (r.run s.network).2.transaction = s.network.transaction := by
      cases r with
      | invokeRaw ctx operations =>
        simp only [Rpc.run]
        repeat' split
        all_goals rfl
      | _ => rfl
    exact ⟨rfl, hanswers, le_refl _, fun _ h => h, fun _ h => h⟩
  | command w =>
    cases w with
    | updateTransaction id status =>
      exact ⟨rfl, rfl, le_refl _, fun t ht =>
        ((unverified_updateTransaction s id hq.2 t).mp ht).1, fun _ h => h⟩
    | updateBundle id data =>
      exact ⟨rfl, rfl, le_refl _, fun _ h => h, fun id' h => live_updateBundle h id data⟩
    | _ => exact hq.elim

/-! ## The status of a bundle -/

section Status
variable {s : State} {id : BundleId} {F : BundleStatus}

theorem status_runOp (o : Op) (s : State) (id : BundleId) :
    (runOp o s).2.status id = s.status id := by
  rw [State.status, runOp_db]
  rfl

theorem status_isSome (h : s.Live id) : (s.status id).isSome = true := by
  unfold State.Live at h
  unfold State.status
  simp only [Query.run] at h
  cases hrow : s.db.operationsBundles.find id with
  | none =>
    rw [hrow] at h
    cases h
  | some row => rfl

theorem status_updateBundle (s : State) (id id' : BundleId) {data : OperationsBundlePatch}
    (hdata : data.status = some F) :
    (serve (.command (.updateBundle id' data)) s).2.status id =
      if id = id' then (s.status id).map fun _ => F else s.status id := by
  unfold State.status
  rw [find_updateBundle]
  cases hrow : s.db.operationsBundles.find id with
  | none => split <;> rfl
  | some row =>
    have hid : row.id = id := Table.find_key hrow
    simp only [Option.map_some, hid, beq_iff_eq]
    split
    · simp [OperationsBundle.set, hdata]
    · rfl

/-- A request of a settlement gives a bundle the status `F` or leaves its status. -/
theorem status_serve {txId : TxHash} {ids : List BundleId} {q : Req}
    (hq : q.Settling txId ids F) (s : State) (id : BundleId) :
    (serve q s).2.status id = s.status id ∨
      id ∈ ids ∧ (serve q s).2.status id = (s.status id).map fun _ => F := by
  cases q with
  | query q => exact .inl rfl
  | rpc r => exact .inl rfl
  | command w =>
    cases w with
    | updateTransaction id status => exact .inl rfl
    | updateBundle id' data =>
      rw [status_updateBundle s id id' hq.2]
      split
      · rename_i hid
        exact .inr ⟨hid ▸ hq.1, rfl⟩
      · exact .inl rfl
    | _ => exact hq.elim

/-- A bundle that has the status `F` keeps it. -/
theorem status_serve_keeps {txId : TxHash} {ids : List BundleId} {q : Req}
    (hq : q.Settling txId ids F) (h : s.status id = some F) : (serve q s).2.status id = some F := by
  rcases status_serve hq s id with hsame | ⟨-, hset⟩
  · rw [hsame, h]
  · rw [hset, h]
    rfl

end Status

/-! ## A cycle that nothing disturbs -/

section Clean
variable {cfg : Config} {s₀ : State} {b : BundleId} {F : BundleStatus} {ids rest : List BundleId}

/-- The bundle is still to be settled, or has the status `F`. -/
def Due (s₀ : State) (b : BundleId) (F : BundleStatus) (rest : List BundleId) (s : State) : Prop :=
  Forward s₀ s ∧ (b ∈ rest ∨ s.status b = some F)

theorem Due.pass {n : Nat} {s : State} (h : Due s₀ b F rest s) : Due s₀ b F rest (host.pass n s) :=
  ⟨h.1.trans (forward_pass n s), h.2⟩

theorem Due.runOp {o : Op} {s : State} (h : Due s₀ b F rest s) :
    Due s₀ b F rest (ProviderPlatform.runOp o s).2 :=
  ⟨h.1.trans (forward_runOp o s), by rw [status_runOp]; exact h.2⟩

theorem Due.serve {txId : TxHash} {q : Req} {s : State} (hq : q.Settling txId ids F)
    (h : Due s₀ b F rest s) : Due s₀ b F rest (ProviderPlatform.serve q s).2 :=
  ⟨h.1.trans (forward_serve hq s), h.2.imp_right (status_serve_keeps hq)⟩

/-- The next bundle gets the status `F`. -/
theorem Due.update {id : BundleId} {data : OperationsBundlePatch} {s : State}
    (hlive : s₀.Live b) (hdata : data.status = some F) (h : Due s₀ b F (id :: rest) s) :
    Due s₀ b F rest (ProviderPlatform.serve (.command (.updateBundle id data)) s).2 := by
  have hq : (Req.command (.updateBundle id data)).Settling "" [id] F :=
    ⟨List.mem_singleton_self id, hdata⟩
  refine ⟨h.1.trans (forward_serve hq s), ?_⟩
  rcases h.2 with hmem | hstatus
  · rcases List.mem_cons.mp hmem with rfl | hmem
    · right
      obtain ⟨status, hstatus⟩ := Option.isSome_iff_exists.mp (status_isSome (h.1.live b hlive))
      rw [status_updateBundle s b b hdata, if_pos rfl, hstatus]
      rfl
    · exact .inl hmem
  · exact .inr (status_serve_keeps hq hstatus)

/-- A bundle without a row is not the one. -/
theorem Due.skip {id : BundleId} {s : State} (hlive : s₀.Live b)
    (hnone : (Query.findBundleById id).run s.db = none) (h : Due s₀ b F (id :: rest) s) :
    Due s₀ b F rest s := by
  refine ⟨h.1, h.2.imp_left fun hmem => ?_⟩
  rcases List.mem_cons.mp hmem with rfl | hmem
  · have hrow := h.1.live b hlive
    rw [State.Live, hnone] at hrow
    cases hrow
  · exact hmem

theorem query_clean {q : Query} {P : State → Prop} {B : q.Ans → State → Prop}
    (hpass : ∀ n s, P s → P (host.pass n s)) (h : ∀ s, P s → B (q.run s.db) s) :
    Task.Guided host Step.Answered P (query q) B fun _ => False :=
  Task.Guided.answered hpass fun s hp => ⟨_, rfl, h s hp⟩

theorem updateBundle_clean {id : BundleId} {data : OperationsBundlePatch} (hlive : s₀.Live b)
    (hdata : data.status = some F) :
    Task.Guided host Step.Answered (Due s₀ b F (id :: rest)) (command (.updateBundle id data))
      (fun _ => Due s₀ b F rest) fun _ => False :=
  Task.Guided.answered (fun _ _ h => h.pass) fun _ h => ⟨_, rfl, h.update hlive hdata⟩

theorem completeBundle_clean (hlive : s₀.Live b) (id : BundleId) :
    Task.Guided host Step.Answered (Due s₀ b .completed (id :: rest)) (completeBundle id)
      (fun _ => Due s₀ b .completed rest) fun _ => False := by
  apply Task.Guided.recover (E := fun _ => False)
  · exact (updateBundle_clean hlive rfl).bind fun _ => .pure fun _ h => h
  · exact fun _ => .pure fun _ h => h.elim
  · exact fun _ h => h

theorem failBundleVerification_clean (hlive : s₀.Live b) (txId : TxHash) (reason : String)
    (detail : StructuredFailureDetail) (id : BundleId) :
    Task.Guided host Step.Answered (Due s₀ b .failed (id :: rest))
      (failBundleVerification cfg txId reason true detail id) (fun _ => Due s₀ b .failed rest)
      fun _ => False := by
  apply Task.Guided.recover (E := fun _ => False)
  · have hfind : Task.Guided host Step.Answered (Due s₀ b .failed (id :: rest))
        (query (.findBundleById id)) (fun row s => Due s₀ b .failed (id :: rest) s ∧
          (Query.findBundleById id).run s.db = row) fun _ => False :=
      query_clean (fun _ _ h => h.pass) fun s h => ⟨h, rfl⟩
    apply hfind.bind
    intro row
    cases row with
    | none => exact .pure fun s h => h.1.skip hlive h.2
    | some row =>
      have hnow : Task.Guided host Step.Answered
          (fun s => Due s₀ b .failed (id :: rest) s ∧ (Query.findBundleById id).run s.db = some row)
          (run .now) (fun _ => Due s₀ b .failed (id :: rest)) fun _ => False :=
        Task.Guided.op fun s h _ => h.1
      apply hnow.bind
      intro now
      exact (updateBundle_clean hlive (by rw [Bool.true_or]; rfl)).bind fun _ => .pure fun _ h => h
  · exact fun _ => .pure fun _ h => h.elim
  · exact fun _ h => h

theorem findFirstBundleChannel_clean {P : State → Prop} (hpass : ∀ n s, P s → P (host.pass n s)) :
    ∀ ids, Task.Guided host Step.Answered P (findFirstBundleChannel ids) (fun _ => P) fun _ => False
  | [] => .pure fun _ h => h
  | id :: ids => by
    have hfind : Task.Guided host Step.Answered P (query (.findBundleById id)) (fun _ => P)
        fun _ => False := query_clean hpass fun _ h => h
    apply hfind.bind
    intro bundle
    split
    · exact .pure fun _ h => h
    · exact findFirstBundleChannel_clean hpass ids

theorem updateTransactionStatus_clean (txId : TxHash) {status : TransactionStatus}
    (hstatus : status ≠ .unverified) :
    Task.Guided host Step.Answered (Due s₀ b F rest) (updateTransactionStatus txId status)
      (fun _ => Due s₀ b F rest) fun _ => False := by
  have hq : (Req.command (.updateTransaction txId status)).Settling txId [] F := ⟨rfl, hstatus⟩
  have hupdate : Task.Guided host Step.Answered (Due s₀ b F rest)
      (command (.updateTransaction txId status)) (fun _ => Due s₀ b F rest) fun _ => False :=
    Task.Guided.answered (fun _ _ h => h.pass) fun _ h => ⟨_, rfl, h.serve hq⟩
  exact hupdate.bind fun _ => .pure fun _ h => h

/-- Nothing that follows takes the status back. -/
theorem due_uses {α : Type} {t : Promise α}
    (ht : Keeps (fun _ => True) (Req.Settling "" [] F) t) :
    Task.Guided host Step.Answered (Due s₀ b F []) t (fun _ => Due s₀ b F []) (Due s₀ b F []) :=
  Task.Guided.of_uses (fun _ _ _ h _ => h.runOp) (fun _ _ hq h => h.serve hq)
    (fun _ _ h => h.pass) ht

theorem handleVerificationFailure_clean (hlive : s₀.Live b) (txId : TxHash) (reason : String)
    (detail : StructuredFailureDetail) :
    Task.Guided host Step.Answered (Due s₀ b .failed ids)
      (handleVerificationFailure cfg txId reason ids true detail) (fun _ => Due s₀ b .failed [])
      fun _ => False := by
  apply (updateTransactionStatus_clean txId (by decide)).bind
  intro _
  have hloop : Task.Guided host Step.Answered (Due s₀ b .failed ids)
      (Task.collect (I := platform) (failBundleVerification cfg txId reason true detail) ids)
      (fun _ => Due s₀ b .failed []) fun _ => False :=
    Task.Guided.collect fun id rest => failBundleVerification_clean hlive txId reason detail id
  have hnone := @Task.Yields.collect _ _ _ _ _ ids
    fun id _ => failBundleVerification_yields cfg txId reason detail id
  apply hloop.bind_yields hnone
  intro retryable h
  have hempty : retryable.filterMap id = [] := List.filterMap_eq_nil_iff.mpr h
  rw [hempty]
  exact .pure fun _ hs => hs

/-- A settlement that is not disturbed gives every bundle its status. -/
theorem settleTransaction_clean {transaction : Transaction} {result : VerificationResult}
    (hlive : s₀.Live b) (hmem : b ∈ ids)
    (hlate : result = .pending → s₀.clock > transaction.timeout) :
    Task.Guided host Step.Answered (Forward s₀) (settleTransaction cfg transaction ids result)
      (fun _ => Due s₀ b result.status []) (Due s₀ b result.status []) := by
  have hdue (F : BundleStatus) (s : State) (h : Forward s₀ s) : Due s₀ b F ids s := ⟨h, .inl hmem⟩
  have hpermits (F : BundleStatus) := permits_settling "" [] F
  have hnever {F : BundleStatus} (s : State) (h : False) : Due s₀ b F [] s := h.elim
  cases result with
  | verified =>
    have hchannel := findFirstBundleChannel_clean (P := Due s₀ b .completed ids)
      (fun _ _ h => h.pass) ids
    have hloop : Task.Guided host Step.Answered (Due s₀ b .completed ids)
        (Task.forEach (I := platform) completeBundle ids) (fun _ => Due s₀ b .completed [])
        fun _ => False := Task.Guided.forEach fun id rest => completeBundle_clean hlive id
    apply Task.Guided.bind (hchannel.mono (hdue _) (fun _ _ h => h) hnever)
    intro channel
    apply Task.Guided.bind
      ((updateTransactionStatus_clean _ (by decide)).mono (fun _ h => h) (fun _ _ h => h) hnever)
    intro _
    apply Task.Guided.bind (hloop.mono (fun _ h => h) (fun _ _ h => h) hnever)
    exact fun _ => due_uses (emitCompleted_keeps (hpermits _) cfg _ _ _)
  | failed reason =>
    have hchannel := findFirstBundleChannel_clean (P := Due s₀ b .failed ids)
      (fun _ _ h => h.pass) ids
    have hfail := @handleVerificationFailure_clean cfg s₀ b ids
      hlive transaction.id reason onchainTxFailed
    apply Task.Guided.bind (hchannel.mono (hdue _) (fun _ _ h => h) hnever)
    intro channel
    apply Task.Guided.bind (hfail.mono (fun _ h => h) (fun _ _ h => h) hnever)
    exact fun _ => due_uses (emitFailed_keeps (hpermits _) _ _ _ _)
  | pending =>
    have hnow : Task.Guided host Step.Answered (Forward s₀) (run .now)
        (fun now s => Forward s₀ s ∧ now = s.clock) (Due s₀ b .failed []) :=
      Task.Guided.op fun s h _ => ⟨h, rfl⟩
    apply hnow.bind
    intro now
    split
    · apply (handleVerificationFailure_clean hlive _ _ _).mono ?_ (fun _ _ h => h) hnever
      exact fun s h => hdue _ s h.1
    · rename_i hnot
      apply Task.Guided.pure
      rintro s ⟨h, rfl⟩
      have hclock := h.clock
      have hpast := hlate rfl
      unfold Time at *
      omega

theorem verifyTransactionOnNetwork_clean {P : State → Prop} (txHash : TxHash)
    (hpass : ∀ n s, P s → P (host.pass n s)) :
    Task.Guided host Step.Answered P (verifyTransactionOnNetwork txHash)
      (fun result s => P s ∧ result = s.network.result txHash) fun _ => False := by
  apply Task.Guided.recover (E := fun _ => False)
  · have hrpc : Task.Guided host Step.Answered P (rpc (.getTransaction txHash))
        (fun response s => P s ∧ response = s.network.transaction txHash) fun _ => False :=
      Task.Guided.answered hpass fun s h => ⟨_, rfl, h, rfl⟩
    apply hrpc.bind
    intro response
    split
    · apply Task.Guided.pure
      rintro s ⟨h, heq⟩
      exact ⟨h, by rw [Network.result, ← heq]⟩
    · apply Task.Guided.pure
      rintro s ⟨h, heq⟩
      exact ⟨h, by rw [Network.result, ← heq]⟩
    · rename_i hverified hfailed
      apply Task.Guided.pure
      rintro s ⟨h, rfl⟩
      refine ⟨h, ?_⟩
      unfold Network.result
      split
      · exact absurd ‹_› hverified
      · exact absurd ‹_› (hfailed _)
      · rfl
  · exact fun _ => .pure fun _ h => h.elim
  · exact fun _ h => h

/-- The cycle settles one transaction, which is all that it does to a bundle. -/
theorem verifyTransaction_clean {transaction : Transaction} {status : Option BundleStatus}
    (hlive : s₀.Live b)
    (hasks : b ∈ s₀.db.linkedTo transaction.id → s₀.Asks F transaction) :
    Task.Guided host Step.Answered (fun s => Forward s₀ s ∧ s.status b = status)
      (verifyTransaction cfg transaction)
      (fun _ s => Forward s₀ s ∧
        s.status b = if b ∈ s₀.db.linkedTo transaction.id then some F else status)
      fun _ => False := by
  have hpass (n : Nat) (s : State) (h : Forward s₀ s ∧ s.status b = status) :
      Forward s₀ (host.pass n s) ∧ (host.pass n s).status b = status :=
    ⟨h.1.trans (forward_pass n s), h.2⟩
  apply Task.Guided.recover_lives (E := fun s => Forward s₀ s ∧
    s.status b = if b ∈ s₀.db.linkedTo transaction.id then some F else status) (fun _ _ h => h)
  · have hlinks : Task.Guided host Step.Answered (fun s => Forward s₀ s ∧ s.status b = status)
        (query (.findLinksByTransactionId transaction.id))
        (fun links s => (Forward s₀ s ∧ s.status b = status) ∧
          links.map (·.bundleId) = s₀.db.linkedTo transaction.id) fun _ => False :=
      query_clean hpass fun s h => ⟨h, h.1.linkedTo transaction.id⟩
    apply Task.Guided.bind (hlinks.mono (fun _ h => h) (fun _ _ h => h) fun _ h => h.elim)
    intro links
    apply Task.Guided.of_state
    rintro s₁ ⟨h₁, hids⟩
    dsimp only
    rw [hids]
    split
    · rename_i hempty
      apply Task.Guided.pure
      rintro _ rfl
      rw [List.isEmpty_iff.mp hempty, if_neg List.not_mem_nil]
      exact h₁
    · have hresult := verifyTransactionOnNetwork_clean
        (P := fun s => Forward s₀ s ∧ s.status b = status) transaction.id hpass
      apply Task.Guided.bind (hresult.mono (by rintro _ rfl; exact h₁) (fun _ _ h => h)
        fun _ h => h.elim)
      intro result
      apply Task.Guided.of_state
      rintro s₂ ⟨⟨hforward, hstatus⟩, rfl⟩
      rw [hforward.result]
      by_cases hmem : b ∈ s₀.db.linkedTo transaction.id
      · obtain ⟨hlate, rfl⟩ := hasks hmem
        rw [if_pos hmem]
        apply (settleTransaction_clean hlive hmem hlate).mono
        · rintro _ rfl
          exact hforward
        · exact fun _ s h => ⟨h.1, h.2.resolve_left List.not_mem_nil⟩
        · exact fun s h => ⟨h.1, h.2.resolve_left List.not_mem_nil⟩
      · rw [if_neg hmem]
        have huses := settleTransaction_settling cfg transaction
          (s₀.db.linkedTo transaction.id) (s₀.network.result transaction.id)
        have hkept : Task.Guided host Step.Answered (fun s => Forward s₀ s ∧ s.status b = status)
            (settleTransaction cfg transaction (s₀.db.linkedTo transaction.id)
              (s₀.network.result transaction.id)) (fun _ s => Forward s₀ s ∧ s.status b = status)
            fun s => Forward s₀ s ∧ s.status b = status := by
          apply Task.Guided.of_uses ?_ ?_ hpass huses
          · intro o s _ h _
            exact ⟨h.1.trans (forward_runOp o s), (status_runOp o s b).trans h.2⟩
          · intro q s hq h
            refine ⟨h.1.trans (forward_serve hq s), ?_⟩
            rcases status_serve hq s b with hsame | ⟨hin, -⟩
            · exact hsame.trans h.2
            · exact absurd hin hmem
        apply hkept.mono ?_ (fun _ _ h => h) fun _ h => h
        rintro _ rfl
        exact ⟨hforward, hstatus⟩
  · exact fun _ => .pure fun _ h => h

/-- What a cycle does to a bundle whose transactions agree. -/
structure Cycled (s₀ : State) (b : BundleId) (F : BundleStatus) (s : State) : Prop where
  forward : Forward s₀ s
  settled : s₀.Awaited b → s.status b = some F
  same : ¬ s₀.Awaited b → s.status b = s₀.status b

theorem verifyTransactions_clean (hlive : s₀.Live b) (hagreed : s₀.Agreed b F) :
    Task.Guided host Step.Answered (· = s₀) (verifyTransactions cfg)
      (fun _ => Cycled s₀ b F) fun _ => False := by
  let J (rest : List Transaction) (s : State) : Prop :=
    Forward s₀ s ∧ rest ⊆ s₀.db.unverified ∧
      (s₀.Awaited b → (∃ t ∈ rest, b ∈ s₀.db.linkedTo t.id) ∨ s.status b = some F) ∧
      (¬ s₀.Awaited b → s.status b = s₀.status b)
  have hstep (t : Transaction) (rest : List Transaction) :
      Task.Guided host Step.Answered (J (t :: rest)) (verifyTransaction cfg t) (fun _ => J rest)
        fun _ => False := by
    apply Task.Guided.of_state
    rintro s ⟨hforward, hsub, hsettled, hsame⟩
    obtain ⟨ht, hrest⟩ := List.cons_subset.mp hsub
    apply (@verifyTransaction_clean _ _ _ _ _ (s.status b) hlive (hagreed t ht)).mono
    · rintro _ rfl
      exact ⟨hforward, rfl⟩
    · rintro _ s' ⟨hforward', hstatus⟩
      refine ⟨hforward', hrest, fun hawaited => ?_, fun hnot => ?_⟩
      · by_cases hmem : b ∈ s₀.db.linkedTo t.id
        · rw [if_pos hmem] at hstatus
          exact .inr hstatus
        · rw [if_neg hmem] at hstatus
          rcases hsettled hawaited with ⟨t', ht', hlinked⟩ | hdone
          · rcases List.mem_cons.mp ht' with rfl | ht'
            · exact absurd hlinked hmem
            · exact .inl ⟨t', ht', hlinked⟩
          · exact .inr (hstatus.trans hdone)
      · rw [if_neg fun hmem => hnot ⟨t, ht, hmem⟩] at hstatus
        exact hstatus.trans (hsame hnot)
    · exact fun _ h => h
  apply Task.Guided.recover (E := fun _ => False)
  · have hlist : Task.Guided host Step.Answered (fun s => Forward s₀ s ∧ s.db = s₀.db)
        (query (.findTransactionsByStatus .unverified))
        (fun transactions => fun s => J transactions s) fun _ => False := by
      apply query_clean
      · exact fun n s h => ⟨h.1.trans (forward_pass n s), h.2⟩
      · rintro s ⟨hforward, hdb⟩
        rw [hdb]
        refine ⟨hforward, List.Subset.refl _, fun hawaited => .inl hawaited, fun _ => ?_⟩
        rw [State.status, hdb]
        rfl
    apply Task.Guided.bind (hlist.mono ?_ (fun _ _ h => h) fun _ h => h)
    · intro transactions
      apply (Task.Guided.forEach hstep).mono (fun _ h => h) ?_ fun _ h => h
      rintro _ s ⟨hforward, -, hsettled, hsame⟩
      refine ⟨hforward, fun hawaited => (hsettled hawaited).resolve_left ?_, hsame⟩
      rintro ⟨t, ht, -⟩
      cases ht
    · rintro _ rfl
      exact ⟨.refl _, rfl⟩
  · exact fun _ => .pure fun _ h => h.elim
  · exact fun _ h => h

end Clean

/-! ## Cycles after a fault -/

/-- Verifier cycles one after the other, each under a schedule. -/
def cycles (cfg : Config) (schedules : List (List (Beat Err))) (s : State) : State :=
  schedules.foldl (fun s bs => ((verifyTransactions cfg).eval host bs s).2.2) s

/-- Every call of every cycle succeeds, after any time. -/
def AllServe (schedules : List (List (Beat Err))) : Prop :=
  ∀ bs ∈ schedules, ∀ b ∈ bs, b.Serves

section Cycles
variable {cfg : Config} {s : State} {b : BundleId} {F : BundleStatus}

theorem cycled {bs : List (Beat Err)} (hserve : ∀ b ∈ bs, b.Serves) (hlive : s.Live b)
    (hagreed : s.Agreed b F) : Cycled s b F ((verifyTransactions cfg).eval host bs s).2.2 := by
  have hend := @verifyTransactions_clean cfg _ _ _ hlive hagreed bs s ?_ rfl
  · revert hend
    rcases ((verifyTransactions cfg).eval host bs s).1 with _ | e | a
    · exact fun h => h.elim
    · exact fun h => h.elim
    · exact fun h => h
  · intro st hst
    rcases Task.trace_serves host _ bs s hserve st hst with ⟨_, _, rfl⟩ | ⟨_, _, rfl⟩ <;> trivial

/-- Any number of undisturbed cycles do what the first of them does. -/
theorem cycles_settle {schedules : List (List (Beat Err))} : ∀ {s : State}, AllServe schedules →
    s.Live b → s.Agreed b F →
    (s.Awaited b → schedules ≠ [] → (cycles cfg schedules s).status b = some F) ∧
      (¬ s.Awaited b → (cycles cfg schedules s).status b = s.status b) := by
  induction schedules with
  | nil => exact fun _ _ _ => ⟨fun _ hne => absurd rfl hne, fun _ => rfl⟩
  | cons bs schedules ih =>
    intro s hserve hlive hagreed
    obtain ⟨hbs, hrest⟩ := List.forall_mem_cons.mp hserve
    have hfirst := @cycled cfg _ _ _ _ hbs hlive hagreed
    have hagreed' := hfirst.forward.agreed hagreed
    obtain ⟨hsettled, hsame⟩ := ih hrest (hfirst.forward.live b hlive) hagreed'
    constructor
    · intro hawaited _
      by_cases hstill : ((verifyTransactions cfg).eval host bs s).2.2.Awaited b
      · cases schedules with
        | nil => exact hfirst.settled hawaited
        | cons bs' schedules => exact hsettled hstill (by simp)
      · exact (hsame hstill).trans (hfirst.settled hawaited)
    · intro hnot
      exact (hsame fun hstill => hnot (hfirst.forward.awaited hstill)).trans (hfirst.same hnot)

end Cycles

/-! ## One settlement with a fault in it -/

/-- What comes after a settlement: perhaps another process, and a later clock. -/
structure Resumed (s s' : State) : Prop where
  db : s'.db = s.db
  network : s'.network = s.network
  clock : s.clock ≤ s'.clock

theorem Resumed.forward {s s' : State} (h : Resumed s s') : Forward s s' := by
  refine ⟨by rw [h.db], by rw [h.network], h.clock, by rw [h.db]; exact fun _ h => h, ?_⟩
  intro id hlive
  rwa [State.Live, h.db]

/-- The requests that make the row of the transaction final. -/
def Req.Finalizes (txId : TxHash) (q : Req) : Prop :=
  ∃ status, q = .command (.updateTransaction txId status)

/-- The requests that update the row of the bundle. -/
def Req.Updates (b : BundleId) (q : Req) : Prop := ∃ data, q = .command (.updateBundle b data)

section Fault
variable (cfg : Config) (s : State) (transaction : Transaction) (bs : List (Beat Err))

/-- The settlement that a cycle makes from a state, under a schedule. -/
def settling : Promise Unit :=
  settleTransaction cfg transaction (s.db.linkedTo transaction.id) (s.network.result transaction.id)

/-- The state that it leaves. -/
def settlement : State := ((settling cfg s transaction).eval host bs s).2.2

/-- It serves such a request. -/
def Serves (E : Req → Prop) : Prop :=
  ∃ s' q, E q ∧ .served s' q ∈ (settling cfg s transaction).trace host bs s

variable {cfg s transaction bs} {b : BundleId} {F : BundleStatus}

/-- What no request of a settlement undoes holds when it ends. -/
theorem settlement_keeps {P : State → Prop} (hop : ∀ o s', P s' → P (runOp o s').2)
    (hserve : ∀ q s', q.Settling transaction.id (s.db.linkedTo transaction.id)
      (s.network.result transaction.id).status → P s' → P (serve q s').2)
    (hpass : ∀ n s', P s' → P (host.pass n s')) (h : P s) :
    P (settlement cfg s transaction bs) := by
  have huses := settleTransaction_settling cfg transaction (s.db.linkedTo transaction.id)
    (s.network.result transaction.id)
  exact (Task.Gives.of_uses (H := host) (fun o s' _ => hop o s') hserve hpass huses).keeps h

theorem settlement_forward : Forward s (settlement cfg s transaction bs) :=
  settlement_keeps (fun o s' h => h.trans (forward_runOp o s'))
    (fun _ s' hq h => h.trans (forward_serve hq s')) (fun n s' h => h.trans (forward_pass n s'))
    (.refl s)

/-- The other transactions stay UNVERIFIED. -/
theorem settlement_other {other : Transaction} (h : other ∈ s.db.unverified)
    (hid : other.id ≠ transaction.id) :
    other ∈ (settlement cfg s transaction bs).db.unverified := by
  apply settlement_keeps (P := fun s' => other ∈ s'.db.unverified)
  · intro o s' h'
    rwa [runOp_db]
  · intro q s' hq h'
    cases q with
    | query q => exact h'
    | rpc r => exact h'
    | command w =>
      cases w with
      | updateTransaction id status =>
        exact (unverified_updateTransaction s' id hq.2 other).mpr ⟨h', hq.1 ▸ hid⟩
      | updateBundle id data => exact h'
      | _ => exact hq.elim
  · exact fun _ _ h' => h'
  · exact h

theorem settlement_status (h : s.status b = some F)
    (hF : (s.network.result transaction.id).status = F) :
    (settlement cfg s transaction bs).status b = some F := by
  subst hF
  apply settlement_keeps (P := fun s' => s'.status b = some _)
  · exact fun o s' h' => (status_runOp o s' b).trans h'
  · exact fun q s' hq h' => status_serve_keeps hq h'
  · exact fun _ _ h' => h'
  · exact h

/-- Once its row is final, the transaction is not looked at again. -/
theorem settlement_final (h : Serves cfg s transaction bs (Req.Finalizes transaction.id)) :
    ∀ t ∈ (settlement cfg s transaction bs).db.unverified, t.id ≠ transaction.id := by
  have huses := settleTransaction_settling cfg transaction (s.db.linkedTo transaction.id)
    (s.network.result transaction.id)
  have hkeeps (s' s'' : State) (hforward : Forward s' s'')
      (h' : ∀ t ∈ s'.db.unverified, t.id ≠ transaction.id) :
      ∀ t ∈ s''.db.unverified, t.id ≠ transaction.id :=
    fun t ht => h' t (hforward.unverified t ht)
  apply Task.eval_of_served (K := fun _ => True)
    (P := fun s' : State => ∀ t ∈ s'.db.unverified, t.id ≠ transaction.id) ?_ ?_ ?_ ?_ huses
    trivial h
  · exact fun o s' _ => ⟨hkeeps _ _ (forward_runOp o s'), fun _ => trivial⟩
  · exact fun q s' hq => ⟨hkeeps _ _ (forward_serve hq s'), fun _ => trivial⟩
  · exact fun n s' => ⟨fun h' => h', fun _ => trivial⟩
  · rintro _ s' hq ⟨status, rfl⟩ - t ht
    exact ((unverified_updateTransaction s' _ hq.2 t).mp ht).2

/-- A bundle whose row was updated has its status. -/
theorem settlement_updated (h : Serves cfg s transaction bs (Req.Updates b)) (hlive : s.Live b)
    (hF : (s.network.result transaction.id).status = F) :
    (settlement cfg s transaction bs).status b = some F := by
  subst hF
  have huses := settleTransaction_settling cfg transaction (s.db.linkedTo transaction.id)
    (s.network.result transaction.id)
  apply Task.eval_of_served (K := fun s' : State => s'.Live b)
    (P := fun s' : State => s'.status b = some (s.network.result transaction.id).status)
    ?_ ?_ ?_ ?_ huses hlive h
  · exact fun o s' _ => ⟨(status_runOp o s' b).trans, (forward_runOp o s').live b⟩
  · exact fun q s' hq => ⟨status_serve_keeps hq, (forward_serve hq s').live b⟩
  · exact fun n s' => ⟨fun h' => h', fun h' => h'⟩
  · rintro _ s' hq ⟨data, rfl⟩ hrow
    obtain ⟨status, hstatus⟩ := Option.isSome_iff_exists.mp (status_isSome hrow)
    show (serve (.command (.updateBundle b data)) s').2.status b = _
    rw [status_updateBundle s' b b hq.2, if_pos rfl, hstatus]
    rfl

/-- A bundle whose row was not updated is as it was. -/
theorem settlement_not_updated (h : ¬ Serves cfg s transaction bs (Req.Updates b)) :
    (settlement cfg s transaction bs).status b = s.status b := by
  have huses := settleTransaction_settling cfg transaction (s.db.linkedTo transaction.id)
    (s.network.result transaction.id)
  let g (st : Step platform State) : Prop := ∀ s' q, st = .served s' q → ¬ q.Updates b
  have hguided : Task.Guided host g (fun s' => s'.status b = s.status b)
      (settling cfg s transaction) (fun _ s' => s'.status b = s.status b)
      fun s' => s'.status b = s.status b := by
    apply Task.Guided.of_steps ?_ ?_ (fun _ _ h' => h') huses
    · exact fun o s' _ h' _ => (status_runOp o s' b).trans h'
    · intro q s' hq h' hg
      have hnot := hg s' q rfl
      cases q with
      | query q => exact h'
      | rpc r => exact h'
      | command w =>
        cases w with
        | updateTransaction id status => exact h'
        | updateBundle id data =>
          have hne : b ≠ id := fun heq => hnot ⟨data, heq ▸ rfl⟩
          show (serve (.command (.updateBundle id data)) s').2.status b = _
          rw [status_updateBundle s' b id hq.2, if_neg hne]
          exact h'
        | _ => exact hq.elim
  have hend := hguided bs s (fun st hst s' q heq hq => h ⟨s', q, hq, heq ▸ hst⟩) rfl
  unfold settlement
  revert hend
  rcases ((settling cfg s transaction).eval host bs s).1 with _ | e | a <;> exact id

/-- A settlement that never makes the row final writes nothing. -/
theorem settlement_open (h : ¬ Serves cfg s transaction bs (Req.Finalizes transaction.id)) :
    (settlement cfg s transaction bs).db = s.db := by
  let g (st : Step platform State) : Prop :=
    ∀ s' q, st = .served s' q → ¬ q.Finalizes transaction.id
  let Same (s' : State) : Prop := s'.db = s.db
  have hreads : Reads (fun _ => True) fun q => ∀ s', (serve q s').2.db = s'.db :=
    { query := fun _ _ => rfl, rpc := fun _ _ => rfl, now := trivial }
  have hchannel (ids : List BundleId) : Task.Guided host g Same (findFirstBundleChannel ids)
      (fun _ => Same) Same := by
    apply Task.Guided.of_uses ?_ ?_ (fun _ _ h' => h') (findFirstBundleChannel_keeps hreads ids)
    · exact fun o s' _ h' _ => (runOp_db o s').trans h'
    · exact fun q s' hq h' => (hq s').trans h'
  have hrow (status : TransactionStatus) : Task.Guided host g Same
      (updateTransactionStatus transaction.id status) (fun _ _ => False) Same := by
    apply Task.Guided.bind (B := fun _ _ => False)
    · apply Task.Guided.call (fun _ _ h' => h')
      · exact fun s' h' hg => absurd ⟨status, rfl⟩ (hg s' _ rfl)
      · exact fun _ _ h' _ => h'
      · exact fun _ h' _ => h'
    · exact fun _ => .pure fun _ h' => h'
  have hnever {α : Type} (t : Promise α) : Task.Guided host g (fun _ => False) t (fun _ => Same)
      Same := fun _ _ _ h' => h'.elim
  have hguided : Task.Guided host g Same (settling cfg s transaction) (fun _ => Same) Same := by
    unfold settling
    cases s.network.result transaction.id with
    | verified =>
      apply (hchannel _).bind
      intro channel
      exact (hrow _).bind fun _ => hnever _
    | failed reason =>
      apply (hchannel _).bind
      intro channel
      apply Task.Guided.bind (B := fun _ => Same)
      · exact (hrow _).bind fun _ => hnever _
      · intro _
        cases channel with
        | none => exact .pure fun _ h' => h'
        | some channel =>
          have hpermits : Permits (fun _ => True) fun q => ∀ s', (serve q s').2.db = s'.db :=
            { hreads with emit := fun _ _ => trivial, isDisabled := fun _ => trivial }
          apply Task.Guided.of_uses ?_ ?_ (fun _ _ h' => h')
            (emitForBundles_keeps hpermits _ _)
          · exact fun o s' _ h' _ => (runOp_db o s').trans h'
          · exact fun q s' hq h' => (hq s').trans h'
    | pending =>
      have hnow : Task.Guided host g Same (run .now) (fun _ => Same) Same :=
        Task.Guided.op fun _ h' _ => h'
      apply hnow.bind
      intro now
      split
      · exact (hrow _).bind fun _ => hnever _
      · exact .pure fun _ h' => h'
  have hend := hguided bs s (fun st hst s' q heq hq => h ⟨s', q, hq, heq ▸ hst⟩) rfl
  unfold settlement
  revert hend
  rcases ((settling cfg s transaction).eval host bs s).1 with _ | e | a <;> exact id

/-- **After a fault in a settlement, later cycles settle a bundle exactly if
the row of the transaction was not yet final, or the row of the bundle was
already updated (or needed no update), or another transaction of the bundle is
still UNVERIFIED.** -/
theorem settlement_recovers_iff (cfg : Config) (s : State) (transaction : Transaction)
    (bs : List (Beat Err)) (b : BundleId) (F : BundleStatus)
    (hunverified : transaction ∈ s.db.unverified) (hlinked : b ∈ s.db.linkedTo transaction.id)
    (hlive : s.Live b) (hagreed : s.Agreed b F) :
    (∀ (s₁ : State) (schedules : List (List (Beat Err))),
      Resumed (settlement cfg s transaction bs) s₁ → AllServe schedules → schedules ≠ [] →
        (cycles cfg schedules s₁).status b = some F) ↔
      ¬ Serves cfg s transaction bs (Req.Finalizes transaction.id) ∨
      Serves cfg s transaction bs (Req.Updates b) ∨ s.status b = some F ∨
      ∃ other ∈ s.db.unverified, other.id ≠ transaction.id ∧ b ∈ s.db.linkedTo other.id := by
  have hF := (hagreed transaction hunverified hlinked).2
  have hforward := @settlement_forward cfg s transaction bs
  have hlive' := hforward.live b hlive
  have hagreed' := hforward.agreed hagreed
  constructor
  · intro hrecovers
    by_contra hnot
    push Not at hnot
    obtain ⟨hfinal, hupdated, hstatus, hothers⟩ := hnot
    have hgone : ¬ (settlement cfg s transaction bs).Awaited b := by
      rintro ⟨t, ht, hlinkedt⟩
      rw [hforward.linkedTo] at hlinkedt
      exact hothers t (hforward.unverified t ht) (settlement_final hfinal t ht) hlinkedt
    have hserve : AllServe [[]] := by simp [AllServe]
    have hsame := (@cycles_settle cfg _ _ _ _ hserve hlive' hagreed').2 hgone
    have hend := hrecovers _ [[]] ⟨rfl, rfl, le_refl _⟩ hserve (List.cons_ne_nil _ _)
    rw [hsame, settlement_not_updated hupdated] at hend
    exact hstatus hend
  · intro hcond s₁ schedules hresumed hserve hne
    have hforward₁ := hresumed.forward
    have hend := @cycles_settle cfg _ _ _ _ hserve (hforward₁.live b hlive')
      (hforward₁.agreed hagreed')
    have hdone (h : s₁.Awaited b ∨ (settlement cfg s transaction bs).status b = some F) :
        (cycles cfg schedules s₁).status b = some F := by
      by_cases hawaited : s₁.Awaited b
      · exact hend.1 hawaited hne
      · rw [hend.2 hawaited, State.status, hresumed.db]
        exact h.resolve_left hawaited
    apply hdone
    rcases hcond with hopen | hupdated | hstatus | ⟨other, hother, hid, hlinkedo⟩
    · left
      refine ⟨transaction, ?_, ?_⟩
      · rw [hresumed.db, settlement_open hopen]
        exact hunverified
      · rw [hresumed.db, settlement_open hopen]
        exact hlinked
    · exact .inr (settlement_updated hupdated hlive hF)
    · exact .inr (settlement_status hstatus hF)
    · left
      refine ⟨other, ?_, ?_⟩
      · rw [hresumed.db]
        exact settlement_other hother hid
      · rw [hresumed.db, hforward.linkedTo]
        exact hlinkedo

end Fault

namespace Small

/-- The UNVERIFIED transaction that the network has found. -/
def unverifiedTx : Transaction := NewTransaction.row 0 ⟨"tx", .unverified, 5000, "0", 0, "GSUB"⟩

/-- The process stops before the row of the transaction is made final. -/
def stopsBefore : List (Beat Err) := [⟨0, .stop⟩]

/-- It stops after that, before the row of the bundle. -/
def stopsBetween : List (Beat Err) := [⟨0, .serve⟩, ⟨0, .serve⟩, ⟨0, .stop⟩]

theorem linked_unverified : linked.db.unverified = [unverifiedTx] := by decide +kernel

theorem linked_mem : unverifiedTx ∈ linked.db.unverified := by simp [linked_unverified]

theorem linked_live : linked.Live "bundle" := by
  unfold State.Live
  decide +kernel

theorem linked_agreed : linked.Agreed "bundle" .completed := by
  intro transaction ht _
  rw [linked_unverified, List.mem_singleton] at ht
  subst ht
  have hresult : linked.network.result unverifiedTx.id = .verified := by decide +kernel
  rw [State.Asks, hresult]
  exact ⟨nofun, rfl⟩

end Small

theorem settlement_recovers_iff_small :
    (cycles Small.config [[]] (settlement Small.config Small.linked Small.unverifiedTx
      Small.stopsBefore)).status "bundle" = some .completed := by
  have hstopped : ¬ Serves Small.config Small.linked Small.unverifiedTx Small.stopsBefore
      (Req.Finalizes Small.unverifiedTx.id) := by
    rintro ⟨s', q, -, hmem⟩
    have htrace : (settling Small.config Small.linked Small.unverifiedTx).trace host
        Small.stopsBefore Small.linked =
          [.stopped Small.linked (.query (.findBundleById "bundle"))] := rfl
    rw [htrace] at hmem
    cases List.mem_singleton.mp hmem
  have hrecovers := (settlement_recovers_iff Small.config Small.linked Small.unverifiedTx
    Small.stopsBefore "bundle" .completed Small.linked_mem (by decide +kernel) Small.linked_live
    Small.linked_agreed).mpr (.inl hstopped)
  apply hrecovers _ [[]] ⟨rfl, rfl, le_rfl⟩
  · intro bs hbs b hb
    rw [List.mem_singleton.mp hbs] at hb
    cases hb
  · simp

/-- The process stops between the two rows, and no later cycle sees the bundle. -/
theorem settlement_not_crash_safe :
    ¬ ∀ (cfg : Config) (s : State) (transaction : Transaction) (bs : List (Beat Err))
        (b : BundleId) (F : BundleStatus), transaction ∈ s.db.unverified →
        b ∈ s.db.linkedTo transaction.id → s.Live b → s.Agreed b F →
        ∀ (s₁ : State) (schedules : List (List (Beat Err))),
          Resumed (settlement cfg s transaction bs) s₁ → AllServe schedules → schedules ≠ [] →
          (cycles cfg schedules s₁).status b = some F := by
  intro h
  have hend := h Small.config Small.linked Small.unverifiedTx Small.stopsBetween "bundle"
    .completed Small.linked_mem (by decide +kernel) Small.linked_live Small.linked_agreed
    (settlement Small.config Small.linked Small.unverifiedTx Small.stopsBetween) [[]]
    ⟨rfl, rfl, le_refl _⟩ (by simp [AllServe]) (List.cons_ne_nil _ _)
  have hstranded : (cycles Small.config [[]] (settlement Small.config Small.linked
      Small.unverifiedTx Small.stopsBetween)).status "bundle" = some .processing := by
    decide +kernel
  rw [hstranded] at hend
  cases hend

end ProviderPlatform
