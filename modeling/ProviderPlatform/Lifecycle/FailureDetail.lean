import ProviderPlatform.Dashboard.Bundles
import ProviderPlatform.Lifecycle.Terminal
import ProviderPlatform.Verifier.Soundness

/-! # Failure details

A failure detail is only ever written with the status FAILED, and nothing
clears it. The gated updates find no FAILED row, so a detail outlives the
failure exactly where an update by id takes a row that has one to another
status: the reset of a resubmission, a late verification, an expiry mark. -/
namespace ProviderPlatform
open Async Store

/-! ## Rows -/

/-- A failure detail only on a FAILED row. -/
def OperationsBundle.Explained (row : OperationsBundle) : Prop :=
  row.failureDetail ≠ none → row.status = .failed

def Database.Explained (db : Database) : Prop :=
  ∀ id row, db.operationsBundles.find id = some row → row.Explained

/-- The patch takes no failure detail out of FAILED. -/
def OperationsBundlePatch.Spares (data : OperationsBundlePatch) (row : OperationsBundle) : Prop :=
  row.failureDetail = none ∨ data.status = some .failed

instance (data : OperationsBundlePatch) (row : OperationsBundle) : Decidable (data.Spares row) :=
  inferInstanceAs (Decidable (_ ∨ _))

/-- A patch writes a failure detail only with the status FAILED. -/
def OperationsBundlePatch.Explains (data : OperationsBundlePatch) : Prop :=
  data.failureDetail ≠ none → data.status = some .failed

section Rows
variable {row : OperationsBundle} {data : OperationsBundlePatch} {now : Time}

@[simp] theorem OperationsBundle.set_failureDetail :
    (row.set now data).failureDetail = (data.failureDetail <|> row.failureDetail) := rfl

theorem OperationsBundle.Explained.none_of_active (h : row.Explained)
    (hact : row.isIn BundleStatus.active = true) : row.failureDetail = none := by
  by_contra hne
  simp [OperationsBundle.isIn, BundleStatus.active, h hne] at hact

/-- A patch that explains its detail keeps a row explained if it spares it. -/
theorem OperationsBundlePatch.Spares.explained (h : data.Spares row) (hd : data.Explains) :
    (row.set now data).Explained := by
  intro hne
  have hstatus : data.status = some .failed := by
    rcases h with hnone | hfailed
    · refine hd fun hdata => hne ?_
      simp [hdata, hnone]
    · exact hfailed
  simp [hstatus]

/-- One that names a status does so only then. -/
theorem OperationsBundle.Explained.spares {status : BundleStatus}
    (h : (row.set now data).Explained) (hstatus : data.status = some status) :
    data.Spares row := by
  by_cases hnone : row.failureDetail = none
  · exact .inl hnone
  · refine .inr ?_
    have hne : (row.set now data).failureDetail ≠ none := by
      rw [OperationsBundle.set_failureDetail]
      cases data.failureDetail <;> simp [hnone]
    have := h hne
    rw [OperationsBundle.set_status, hstatus, Option.getD_some] at this
    rw [hstatus, this]

end Rows

/-! ## Commands -/

/-- What a command writes is explained. -/
def Command.Explains : Command → Prop
  | .updateBundle _ data | .updateIfStatusIn _ data _ => data.Explains
  | _ => True

def Req.Explains : Req → Prop
  | .command w => w.Explains
  | _ => True

/-- An update by id spares the row it finds. -/
def Command.Spares (db : Database) : Command → Prop
  | .updateBundle id data => ∀ row ∈ db.operationsBundles.find id, data.Spares row
  | _ => True

instance (db : Database) (w : Command) : Decidable (w.Spares db) := by
  cases w <;> unfold Command.Spares <;> infer_instance

theorem Database.Explained.setBundles {db : Database} (h : db.Explained) (now : Time)
    {p : OperationsBundle → Bool} {data : OperationsBundlePatch} (hd : data.Explains)
    (hp : ∀ id row, db.operationsBundles.find id = some row → p row = true → data.Spares row) :
    (db.setBundles now p data).2.Explained := by
  intro id row hrow
  rw [Database.setBundles_find] at hrow
  obtain ⟨old, hold, rfl⟩ := Option.map_eq_some_iff.mp hrow
  split
  · exact (hp id old hold ‹_›).explained hd
  · exact h id old hold

/-- **A command that spares the row it finds keeps every row explained.** The
gated updates find no row with a detail. -/
theorem Command.Spares.explained {db : Database} {w : Command} (h : w.Spares db)
    (hdb : db.Explained) (now : Time) (hgated : w.Gated) (hexplains : w.Explains) :
    (w.run now db).2.Explained := by
  have hactive {id row data} (hrow : db.operationsBundles.find id = some row)
      (hin : row.isIn BundleStatus.active = true) : OperationsBundlePatch.Spares data row :=
    .inl ((hdb id row hrow).none_of_active hin)
  have hstatus (status : BundleStatus) :
      OperationsBundlePatch.Explains { status := some status } := fun hne => absurd rfl hne
  cases w with
  | createBundle data =>
    intro id row hrow
    simp only [Command.run] at hrow
    split at hrow
    · rename_i t ht
      rw [Table.find_insert ht] at hrow
      split at hrow
      · cases hrow
        exact fun hne => absurd rfl hne
      · exact hdb id row hrow
    · exact hdb id row hrow
  | updateBundle id data =>
    refine hdb.setBundles now hexplains fun id' row hrow hp => ?_
    have hkey : row.id = id := by simpa using hp
    have hid : row.id = id' := Table.find_key hrow
    exact h row (by rw [← hkey, hid]; exact hrow)
  | updateStatusIfActive id status activeStatuses =>
    obtain rfl : activeStatuses = BundleStatus.active := hgated
    refine hdb.setBundles now (hstatus _) fun id' row hrow hp => hactive hrow ?_
    simp only [Bool.and_eq_true] at hp
    exact hp.2
  | updateIfStatusIn id data activeStatuses =>
    obtain rfl : activeStatuses = BundleStatus.active := hgated
    refine hdb.setBundles now hexplains fun id' row hrow hp => hactive hrow ?_
    simp only [Bool.and_eq_true] at hp
    exact hp.2
  | expireByIds ids activeStatuses =>
    obtain rfl : activeStatuses = BundleStatus.active := hgated
    refine hdb.setBundles now (hstatus _) fun id' row hrow hp => hactive hrow ?_
    simp only [Bool.and_eq_true] at hp
    exact hp.2
  | expireOlderThan olderThan statuses limit =>
    obtain rfl : statuses = BundleStatus.active := hgated
    refine hdb.setBundles now (hstatus _) fun id' row hrow hp => hactive hrow ?_
    exact isIn_of_mem_staleIds hrow (by simpa using hp)
  | updateTransaction _ _ => exact hdb
  | createUtxo _ | updateUtxo _ _ | createTransaction _ | createLink _ | recordInteraction _ _ =>
    intro id row hrow
    refine hdb id row ?_
    simp only [Command.run] at hrow
    repeat' split at hrow
    all_goals exact hrow

/-! ## Programs -/

theorem permits_explaining : Permits (fun _ => True) Req.Explains where
  query _ := trivial
  rpc _ := trivial
  now := trivial
  emit _ _ := trivial
  isDisabled _ := trivial

theorem OperationsBundlePatch.explains_of_failed {data : OperationsBundlePatch}
    (h : data.status = some .failed) : data.Explains := fun _ => h

theorem OperationsBundlePatch.explains_of_none {data : OperationsBundlePatch}
    (h : data.failureDetail = none) : data.Explains := fun hne => absurd h hne

theorem mayAdd_explaining : Mempool.MayAdd (fun _ => True) Req.Explains where
  toAnnounces := permits_explaining.toAnnounces
  place _ := trivial
  purge _ := trivial
  expire _ := OperationsBundlePatch.explains_of_none rfl
  activate _ := trivial

theorem mayExecute_explaining : MayExecute (fun _ => True) Req.Explains where
  toMayAdd := mayAdd_explaining
  emit _ _ := trivial
  isProcessing := trivial
  setProcessing _ := trivial
  removeFirstSlot := trivial
  returned _ _ := trivial
  evict _ := trivial
  failure _ _ h := h.elim OperationsBundlePatch.explains_of_failed fun h =>
    OperationsBundlePatch.explains_of_none h.2
  insufficient _ _ h := OperationsBundlePatch.explains_of_failed h
  createTransaction _ _ := trivial
  createLink _ := trivial

theorem mayVerify_explaining : MayVerify (fun _ => True) Req.Explains where
  toPermits := permits_explaining
  updateTransaction _ _ := trivial
  complete _ := OperationsBundlePatch.explains_of_none rfl
  failure _ _ h := OperationsBundlePatch.explains_of_failed h

theorem addOperationsBundle_explains (cfg : Config) (input : BundleRequest) :
    Keeps (fun _ => True) Req.Explains (addOperationsBundle cfg input) := by
  have h := permits_explaining
  refine (checkRequest_keeps h.toAnnounces (fun _ _ => trivial) cfg input).bind fun adm => ?_
  refine (persistBundle_keeps h.toReads (fun _ _ hd => OperationsBundlePatch.explains_of_none hd)
    fun _ _ _ => trivial).bind fun entity => ?_
  refine (enqueueBundle_keeps mayAdd_explaining (fun _ => trivial) (fun _ _ => trivial) cfg input
    adm entity).bind fun _ => ?_
  exact keeps_pure _

/-- **Every call writes a failure detail only with the status FAILED.** -/
theorem Call.program_explains (cfg : Config) (fuel : Nat) (l : Call) :
    Keeps (fun _ => True) Req.Explains (l.program cfg fuel) := by
  have h := mayAdd_explaining
  cases l with
  | launch =>
    exact (Mempool.initializeMempool_keeps h (fun _ _ => trivial) cfg fuel).bind fun _ =>
      keeps_run trivial
  | addOperationsBundle input =>
    exact (addOperationsBundle_explains cfg input).bind fun _ => keeps_pure _
  | executeNext => exact executeNext_keeps mayExecute_explaining (fun _ _ _ => trivial) cfg
  | verifyTransactions => exact verifyTransactions_keeps mayVerify_explaining cfg
  | expireBundles => exact Mempool.expireBundles_keeps h.toAnnounces trivial h.expire
  | addBundle bundle => exact Mempool.addBundle_keeps h cfg bundle
  | reAddBundles bundles => exact Mempool.reAddBundles_keeps h cfg bundles
  | purgeBundles _ | removeFirstSlot => exact (keeps_run trivial).bind fun _ => keeps_pure _
  | expireByIds ids =>
    have hw : Req.Explains (.command (.expireByIds ids BundleStatus.active)) := trivial
    exact (keeps_command hw).bind fun _ => keeps_pure _

/-! ## Runs -/

/-- A failure reason is on a FAILED bundle only: in the rows, in their DTOs, and
in the detail and the list of the dashboard. -/
structure DetailOnlyIfFailed (s : State) : Prop where
  rows : ∀ id row, s.db.operationsBundles.find id = some row →
    row.failureDetail ≠ none → row.status = .failed
  dto : ∀ row ∈ s.db.operationsBundles.rows,
    (toBundleDTO row).failureDetail ≠ none → (toBundleDTO row).status = .failed
  detail : ∀ cfg ppPublicKey bundleId message data,
    handleGetBundleDetail cfg s.db ppPublicKey bundleId = .ok message data →
      data.failureDetail ≠ none → data.status = .failed
  list : ∀ cfg now ppPublicKey limitParam,
    ∀ r ∈ handleListRecentBundles cfg s.db now ppPublicKey limitParam,
      r.failureDetail ≠ none → r.status = .failed

/-- An update by id that is served writes FAILED, or finds its row without a
failure detail. -/
def SparesDetails (s : State) : Req → Prop
  | .command w => w.Spares s.db
  | _ => True

instance (s : State) (q : Req) : Decidable (SparesDetails s q) := by
  cases q <;> unfold SparesDetails <;> infer_instance

section Runs
variable {cfg : Config} {fuel : Nat} {allowed : State → Call → Bool}
variable {c c' : ProviderPool} {ch : ProviderChoice}

/-- What is shown is what the rows hold. -/
theorem Database.Explained.shown {s : State} (h : s.db.Explained) : DetailOnlyIfFailed s where
  rows := h
  dto row hrow := h row.id row (Table.find_of_mem hrow)
  detail cfg pp id message data hdata := by
    obtain ⟨row, hrow, hstatus, hdetail⟩ := handleGetBundleDetail_shows hdata
    rw [hstatus, hdetail]
    exact h id row hrow
  list cfg now pp limit r hr := by
    obtain ⟨row, hrow, hstatus, hdetail⟩ := handleListRecentBundles_shows hr
    rw [hstatus, hdetail]
    exact h row.id row (Table.find_of_mem hrow)

theorem Database.Agrees.explained {db db' : Database} (h : db'.Agrees db) (hdb : db.Explained) :
    db'.Explained := fun id row hrow => hdb id row (h.bundles id ▸ hrow)

/-- The invariant of a run: the rows are explained, and so is what the tasks
may still write. -/
structure ExplainedRun (c : ProviderPool) : Prop where
  db : c.state.db.Explained
  gated : Machine.AllUse Call.mayRun Call.mayAwait c
  explains : Machine.AllUse (fun _ _ => True) (fun _ => Req.Explains) c

/-- **One step.** The rows stay explained exactly where the step spares them. -/
theorem ExplainedRun.step_iff (h : ExplainedRun c)
    (hs : (process cfg fuel allowed).step ch c = some c') :
    c'.state.db.Explained ↔ ServesMeet SparesDetails c ch := by
  rcases step_agrees hs with ⟨l, w, hserved, hdb⟩ | ⟨hnone, hagree⟩
  · have hw : l.mayWrite w := h.gated.served hserved
    have hexplains : w.Explains := h.explains.served hserved
    have hmeet : ServesMeet SparesDetails c ch ↔ w.Spares c.state.db := by
      simp [ServesMeet, hserved, SparesDetails]
    rw [hmeet, hdb]
    refine ⟨fun hnew => ?_, fun hspares => hspares.explained h.db _ hw.gated hexplains⟩
    cases w with
    | updateBundle id data =>
      intro row hrow
      obtain ⟨status, hstatus⟩ := mayWrite_status hw
      have hset : (row.set c.state.clock data).Explained := by
        refine hnew id _ ?_
        rw [Command.updateBundle_find, hrow, Option.map_some]
      exact hset.spares hstatus
    | _ => trivial
  · refine iff_of_true (hagree.explained h.db) fun p hp => ?_
    obtain ⟨l, q⟩ := p
    cases q with
    | command w => exact absurd hp (hnone l w)
    | _ => trivial

theorem ExplainedRun.step (h : ExplainedRun c) (hg : ServesMeet SparesDetails c ch)
    (hs : (process cfg fuel allowed).step ch c = some c') : ExplainedRun c' where
  db := (h.step_iff hs).mpr hg
  gated := h.gated.step _ (Call.program_keeps cfg fuel) hs
  explains := h.explains.step _ (Call.program_explains cfg fuel) hs

/-- **Failure details along runs.** From any database where only FAILED bundles
have a failure detail, every state of a run whose steps spare the details shows
a failure reason for FAILED bundles only; and the first step that does not
spare them breaks this. -/
theorem failure_detail_only_failed (s : State)
    (h : ∀ id row, s.db.operationsBundles.find id = some row →
      row.failureDetail ≠ none → row.status = .failed)
    (hrun : (process cfg fuel allowed).Run (ServesMeet SparesDetails)
      ((process cfg fuel allowed).init s) c) :
    DetailOnlyIfFailed c.state ∧
      ∀ ch c', (process cfg fuel allowed).step ch c = some c' →
        (DetailOnlyIfFailed c'.state ↔ ServesMeet SparesDetails c ch) := by
  have hinit : ExplainedRun ((process cfg fuel allowed).init s) :=
    ⟨h, .init (Call.program_keeps cfg fuel) s, .init (Call.program_explains cfg fuel) s⟩
  have hc := hrun.invariant (fun _ _ _ hc hg hs => hc.step hg hs) hinit
  refine ⟨hc.db.shown, fun ch c' hs => ?_⟩
  rw [← hc.step_iff hs]
  exact ⟨fun hshown => hshown.rows, fun hdb => hdb.shown⟩

end Runs

namespace Small

/-- The deposit fails on-chain and is submitted again, up to the reset. -/
def failedThenReset : List ProviderChoice :=
  refuted ++ [.start (.addOperationsBundle (request ["deposit 10"]))] ++ serves 4 8

/-- The row of the deposit has a failure detail. -/
def explains (status : BundleStatus) (s : State) : Bool :=
  (s.db.operationsBundles.find "deposit 10").any fun row =>
    row.status == status && row.failureDetail.isSome

theorem row_of_explains {status : BundleStatus} {s : State} (h : explains status s = true) :
    ∃ row, s.db.operationsBundles.find "deposit 10" = some row ∧ row.status = status ∧
      row.failureDetail ≠ none := by
  obtain ⟨row, hrow, hp⟩ := (Option.any_eq_true _ _).mp h
  simp only [Bool.and_eq_true, beq_iff_eq] at hp
  exact ⟨row, hrow, hp.1, Option.isSome_iff_ne_none.mp hp.2⟩

end Small

/-- The reset of a resubmission leaves the reason of the failure on the row. -/
theorem failure_detail_survives_reset :
    ¬ ∀ (cfg : Config) (fuel : Nat) (s : State) (c : ProviderPool), Fresh cfg s →
      (provider cfg fuel).Run Machine.Free ((provider cfg fuel).init s) c →
      DetailOnlyIfFailed c.state := by
  intro h
  obtain ⟨c, hr, hp⟩ := Machine.exists_run_of_replay (M := provider Small.config 1)
    (G := Machine.Free) (c := (provider Small.config 1).init Small.state) Small.failedThenReset
    (Small.explains .pending) (by decide +kernel)
  obtain ⟨row, hrow, hstatus, hdetail⟩ := Small.row_of_explains hp
  have hfailed := (h _ _ _ c Small.fresh hr).rows _ row hrow hdetail
  rw [hstatus] at hfailed
  cases hfailed

/-- The run up to the failure, from the empty database. -/
theorem failure_detail_only_failed_small :
    ∃ c : ProviderPool, (∃ row, c.state.db.operationsBundles.find "deposit 10" = some row ∧
        row.status = .failed ∧ row.failureDetail ≠ none) ∧
      DetailOnlyIfFailed c.state ∧
      ∀ ch c', (provider Small.config 1).step ch c = some c' →
        (DetailOnlyIfFailed c'.state ↔ ServesMeet SparesDetails c ch) := by
  obtain ⟨c, hr, hp⟩ := Machine.exists_run_of_replay (M := provider Small.config 1)
    (G := ServesMeet SparesDetails) (c := (provider Small.config 1).init Small.state)
    Small.refuted (Small.explains .failed) (by decide +kernel)
  refine ⟨c, Small.row_of_explains hp, ?_⟩
  exact failure_detail_only_failed Small.state (fun id row hrow => by cases hrow) hr

end ProviderPlatform
