import ProviderPlatform.Lifecycle.CopyCalls
import ProviderPlatform.Lifecycle.RetryBound
import ProviderPlatform.Verifier.Soundness

/-! # Hydration agrees with admission

A request shows in its bundle the submitter that it read, and inserts a row
that names the account. The copy and the row stay in step, so what the boot
would make of the row is the copy, as long as the submitter reads the same and
no resubmission has reset the row meanwhile. -/
namespace ProviderPlatform
open Async Store Task Machine

/-! ## What the log of a request shows -/

/-- The query was answered so. -/
def Asked (log : Log) (q : Query) (a : q.Ans) : Prop :=
  ∃ s, .served s (.query q) ∈ log ∧ q.run s.db = a

/-- The account and its entity were read and are the submitter. -/
def Showed (log : Log) (account : AccountId) (submitter : Option String × List String) : Prop :=
  ∃ found entity, Asked log (.findAccountById account) (some found) ∧
    Asked log (.findEntityById found.entityId) entity ∧ submitter = submitterOf entity

/-- The step inserts the row. -/
def Inserts (data : NewOperationsBundle) : Step platform State → Prop
  | .served s (.command (.createBundle inserted)) =>
    inserted = data ∧ s.db.operationsBundles.find data.id = none
  | _ => False

theorem inserts_iff {data : NewOperationsBundle} {st : Step platform State} : Inserts data st ↔
    ∃ s, st = .served s (.command (.createBundle data)) ∧
      s.db.operationsBundles.find data.id = none := by
  constructor
  · intro h
    unfold Inserts at h
    split at h
    · obtain ⟨rfl, hnone⟩ := h
      exact ⟨_, rfl, hnone⟩
    · exact h.elim
  · rintro ⟨s, rfl, hnone⟩
    exact ⟨rfl, hnone⟩

/-- The row of the bundle was inserted for the account. -/
def InsertedFor (log : Log) (id : BundleId) (account : AccountId) : Prop :=
  ∃ data, (∃ st ∈ log, Inserts data st) ∧ data.id = id ∧ data.createdBy = account

/-- A bundle is queued after its row was inserted for the submitter it shows. -/
def Introduced (log : Log) : Step platform State → Prop
  | .ran _ (.place bundle) => ∃ account, InsertedFor log bundle.bundleId account ∧
    Showed log account (bundle.entityName, bundle.jurisdictions)
  | _ => True

section Logs
variable {log log' : Log} {account : AccountId} {id : BundleId}
  {submitter : Option String × List String}

theorem Asked.mono {q : Query} {a : q.Ans} (h : Asked log q a) (hsub : log ⊆ log') :
    Asked log' q a := by
  obtain ⟨s, hs, ha⟩ := h
  exact ⟨s, hsub hs, ha⟩

theorem Showed.mono (h : Showed log account submitter) (hsub : log ⊆ log') :
    Showed log' account submitter := by
  obtain ⟨found, entity, haccount, hentity, hshown⟩ := h
  exact ⟨found, entity, haccount.mono hsub, hentity.mono hsub, hshown⟩

theorem InsertedFor.mono (h : InsertedFor log id account) (hsub : log ⊆ log') :
    InsertedFor log' id account := by
  obtain ⟨data, ⟨st, hst, hinserts⟩, hdata⟩ := h
  exact ⟨data, ⟨st, hsub hst, hinserts⟩, hdata⟩

theorem introduced_served {s : State} {q : Req} : Introduced log (.served s q) := trivial

theorem introduced_rejected {s : State} {q : Req} {e : Err} : Introduced log (.rejected s q e) :=
  trivial

end Logs

/-! ## The request -/

/-- A triple for what the log of a request shows. -/
abbrev RequestLogged {α : Type} (P : Log → Prop) (t : Promise α)
    (B : Except Err α → Log → Prop) : Prop :=
  Logged host (fun _ => True) Introduced P t B

section Request
variable {cfg : Config} {α : Type} {P : Log → Prop} (hP : ∀ log st, P log → P (log ++ [st]))
include hP

/-- What queues nothing. -/
theorem logged_unqueued {t : Promise α} (ht : Keeps Op.PlacesNothing (fun _ => True) t) :
    RequestLogged P t fun _ => P := by
  apply Logged.of_uses hP ?_ ?_ ?_ ht
  · intro log s o ho _
    cases o <;> trivial
  · exact fun _ _ _ _ _ => introduced_served
  · exact fun _ _ _ _ _ _ => introduced_rejected

theorem query_logged (q : Query) :
    RequestLogged P (query q) fun r log => P log ∧ ∀ a, r = .ok a → Asked log q a := by
  apply Logged.call
  · intro log s hlog _
    refine ⟨introduced_served, hP _ _ hlog, fun a ha => ?_⟩
    exact ⟨s, by simp, Except.ok.inj ha⟩
  · exact fun log s e hlog _ => ⟨introduced_rejected, hP _ _ hlog, fun _ => nofun⟩

theorem addBundle_logged {bundle : SlotBundle}
    (hplace : ∀ log s, P log → Introduced log (.ran s (.place bundle))) :
    RequestLogged P (Mempool.addBundle cfg bundle) fun _ => P := by
  have h := permits_placesNothing
  apply Logged.bind (logged_unqueued hP (keeps_run h.now))
  · intro now
    split
    · exact logged_unqueued hP (Mempool.markExpired_keeps h.toAnnounces (fun _ => trivial) bundle)
    · apply Logged.bind (B := fun _ => P)
      · exact Logged.op fun log s hlog _ => ⟨hplace log s hlog, hP _ _ hlog⟩
      · intro placement
        have hadded (newSlot : Bool) : RequestLogged P (do
            emitForPp bundle.ppPublicKey (Mempool.bundleAddedPayload bundle newSlot)
            Mempool.activate bundle) fun _ => P :=
          logged_unqueued hP ((emitForPp_keeps h.toAnnounces _ rfl).bind fun _ =>
            Mempool.activate_keeps (fun _ => trivial) (fun _ => trivial) bundle)
        cases placement with
        | existingSlot => exact hadded false
        | newSlot => exact hadded true
        | slotFull => exact .done fun _ hlog => hlog
      · exact fun _ _ hlog => hlog
  · exact fun _ _ hlog => hlog

end Request

section Admission
variable {cfg : Config}

theorem rejectSubmitter_logged {α : Type} {P : Log → Prop} {B : α → Log → Prop} (pp : PublicKey)
    (account : AccountId) : RequestLogged P (rejectSubmitter (α := α) pp account) fun r log =>
      ∀ a, r = .ok a → B a log := by
  have hrecord : Keeps Op.PlacesNothing (fun _ => True) (recordRejectedSubmitter pp account) :=
    (keeps_command trivial).recover fun _ => keeps_pure _
  apply Logged.mono (P := fun _ => True) ?_ (fun _ _ => trivial) fun _ _ h => h
  exact (logged_unqueued (fun _ _ h => h) hrecord).bind (fun _ => .done fun _ _ _ => nofun)
    fun _ _ _ _ => nofun

theorem validateSubmitter_logged (pp : PublicKey) (sessionId : String) :
    RequestLogged (fun _ => True) (validateSubmitter pp sessionId) fun r log =>
      ∀ p, r = .ok p → Showed log p.1 (submitterOf p.2) := by
  have hsession : Keeps Op.PlacesNothing (fun _ => True) (validateSession sessionId) := by
    refine (keeps_query permits_placesNothing.toReads _).bind fun session => ?_
    cases session
    · exact keeps_reject _
    · exact keeps_pure _
  apply Logged.bind (logged_unqueued (fun _ _ h => h) hsession)
  · intro session
    apply Logged.bind (query_logged (fun _ _ h => h) _)
    · intro found
      cases found with
      | none => exact rejectSubmitter_logged pp _
      | some account =>
        -- the account stays in the log while the approval and the entity are read
        have hmono (log : Log) (st : Step platform State)
            (h : Asked log (.findAccountById session.accountId) (some account)) :
            Asked (log ++ [st]) (.findAccountById session.accountId) (some account) :=
              h.mono (List.subset_append_left _ _)
        apply Logged.bind ((query_logged hmono _).mono (fun _ h => h.2 _ rfl) fun _ _ h => h)
        · intro approval
          split
          · apply Logged.bind ((query_logged hmono _).mono (fun _ h => h.1) fun _ _ h => h)
            · intro entity
              apply Logged.pure
              intro log h p hp
              cases hp
              exact ⟨account, entity, h.1, h.2 entity rfl, rfl⟩
            · exact fun _ _ _ _ => nofun
          · exact rejectSubmitter_logged pp _
        · exact fun _ _ _ _ => nofun
    · exact fun _ _ _ _ => nofun
  · exact fun _ _ _ _ => nofun

/-- The checks end with the account of the session and the entity it read. -/
theorem checkRequest_logged (input : BundleRequest) :
    RequestLogged (fun _ => True) (checkRequest cfg input) fun r log =>
      ∀ adm, r = .ok adm → Showed log adm.accountId (submitterOf adm.entity) := by
  have h := permits_placesNothing
  have hquiet {α : Type} {t : Promise α} {P : Log → Prop} (hP : ∀ log st, P log → P (log ++ [st]))
      (ht : Keeps Op.PlacesNothing (fun _ => True) t) : RequestLogged P t fun _ => P :=
    logged_unqueued hP ht
  have htrue (log : Log) (st : Step platform State) (hlog : True) : True := hlog
  unfold checkRequest
  split
  · exact .done fun _ _ _ => nofun
  split
  · exact .done fun _ _ _ => nofun
  apply Logged.bind (hquiet htrue (withAdmissionTimeout_keeps _ (keeps_rpc h.toReads _)))
  · intro ctx
    apply Logged.bind (validateSubmitter_logged _ _)
    · rintro ⟨accountId, entity⟩
      have hmono (log : Log) (st : Step platform State)
          (hshowed : Showed log accountId (submitterOf entity)) :
          Showed (log ++ [st]) accountId (submitterOf entity) :=
            hshowed.mono (List.subset_append_left _ _)
      apply Logged.bind ((hquiet hmono (assertBundleIsExpired_keeps h.query _)).mono
        (fun _ hlog => hlog _ rfl) fun _ _ hlog => hlog)
      · intro isBundleExpired
        apply Logged.bind (hquiet hmono (keeps_done _))
        · intro operations
          apply Logged.bind (hquiet hmono (keeps_done _))
          · intro _
            apply Logged.bind (hquiet hmono (keeps_run (h.isDisabled _)))
            · intro isDisabled
              split
              · exact .done fun _ _ _ => nofun
              · apply Logged.bind (hquiet hmono (calculateFeeAndTtl_keeps h.toReads _ _ _))
                · intro feeAndTtl
                  apply Logged.pure
                  intro log hlog adm hadm
                  cases hadm
                  exact hlog
                · exact fun _ _ _ _ => nofun
            · exact fun _ _ _ _ => nofun
          · exact fun _ _ _ _ => nofun
        · exact fun _ _ _ _ => nofun
      · exact fun _ _ _ _ => nofun
    · exact fun _ _ _ _ => nofun
  · exact fun _ _ _ _ => nofun

/-- The row that a request inserted names its account. -/
theorem createBundle_logged {P : Log → Prop} (hP : ∀ log st, P log → P (log ++ [st]))
    (data : NewOperationsBundle) : RequestLogged P (command (.createBundle data)) fun r log =>
      P log ∧ ∀ row, r = .ok row → InsertedFor log row.id data.createdBy := by
  apply Logged.call
  · intro log s hlog _
    refine ⟨introduced_served, hP _ _ hlog, fun row hrow => ?_⟩
    rcases serve_createBundle data s with ⟨hnone, hanswer, -⟩ | ⟨-, hanswer, -⟩
    · have hrow : data.row s.clock = row := Except.ok.inj (hanswer.symm.trans hrow)
      rw [← hrow]
      exact ⟨data, ⟨_, List.mem_append_right _ List.mem_cons_self, rfl, hnone⟩, rfl, rfl⟩
    · cases hanswer.symm.trans hrow
  · exact fun log s e hlog _ => ⟨introduced_rejected, hP _ _ hlog, fun _ => nofun⟩

theorem persistBundle_logged {P : Log → Prop} (hP : ∀ log st, P log → P (log ++ [st]))
    (input : BundleRequest) (adm : Admission) :
    RequestLogged P (persistBundle input adm) fun r log => P log ∧
      ∀ row, r = .ok (.row row) → InsertedFor log row.id adm.accountId := by
  unfold persistBundle
  split
  · apply Logged.bind (logged_unqueued hP (keeps_command trivial))
    · exact fun rows => .pure fun log hlog => ⟨hlog, fun _ => nofun⟩
    · exact fun _ _ hlog => ⟨hlog, fun _ => nofun⟩
  · apply Logged.bind (logged_unqueued hP (keeps_run permits_placesNothing.now))
    · intro now
      apply (createBundle_logged hP _).bind
      · intro row
        apply Logged.pure
        rintro log ⟨hlog, hinserted⟩
        refine ⟨hlog, fun row' hrow => ?_⟩
        cases hrow
        exact hinserted row rfl
      · exact fun _ _ hlog => ⟨hlog.1, fun _ => nofun⟩
    · exact fun _ _ hlog => ⟨hlog, fun _ => nofun⟩

theorem enqueueBundle_logged (input : BundleRequest) (adm : Admission)
    (entity : Written OperationsBundle) :
    RequestLogged (fun log => Showed log adm.accountId (submitterOf adm.entity) ∧
      ∀ row, entity = .row row → InsertedFor log row.id adm.accountId)
      (enqueueBundle cfg input adm entity) fun _ _ => True := by
  have h := permits_placesNothing
  have hP (log : Log) (st : Step platform State)
      (hlog : Showed log adm.accountId (submitterOf adm.entity) ∧
        ∀ row, entity = .row row → InsertedFor log row.id adm.accountId) :
      Showed (log ++ [st]) adm.accountId (submitterOf adm.entity) ∧
        ∀ row, entity = .row row → InsertedFor (log ++ [st]) row.id adm.accountId :=
    ⟨hlog.1.mono (List.subset_append_left _ _),
      fun row hrow => (hlog.2 row hrow).mono (List.subset_append_left _ _)⟩
  have hcreates : Keeps Op.PlacesNothing (fun _ => True)
      (persistCreateOperations adm.classified.create (entity.get (·.id)) adm.accountId) :=
    persistCreateOperations_keeps h.toReads (fun _ => trivial) _ _ _
  have hspends : Keeps Op.PlacesNothing (fun _ => True)
      (persistSpendOperations adm.classified.spend (entity.get (·.id)) adm.accountId
        adm.channelClient input.channelContractId) :=
    persistSpendOperations_keeps h.toReads (fun _ _ => trivial) _ _ _ _ _
  apply Logged.bind (logged_unqueued hP hcreates)
  · intro _
    apply Logged.bind (logged_unqueued hP hspends)
    · intro _
      apply Logged.bind (logged_unqueued hP (keeps_run h.now))
      · intro now
        cases entity with
        | array rows => exact .done fun _ _ => trivial
        | row row =>
          apply (addBundle_logged hP ?_).mono (fun _ hlog => hlog) fun _ _ _ => trivial
          intro log s hlog
          exact ⟨adm.accountId, hlog.2 row rfl, hlog.1⟩
      · exact fun _ _ _ => trivial
    · exact fun _ _ _ => trivial
  · exact fun _ _ _ => trivial

/-- **A request queues the bundle of the submitter it read.** -/
theorem addOperationsBundle_logged (input : BundleRequest) :
    RequestLogged (· = []) (addOperationsBundle cfg input) fun _ _ => True := by
  apply Logged.bind ((checkRequest_logged input).mono (fun _ _ => trivial) fun _ _ h => h)
  · intro adm
    have hmono (log : Log) (st : Step platform State)
        (h : Showed log adm.accountId (submitterOf adm.entity)) :
        Showed (log ++ [st]) adm.accountId (submitterOf adm.entity) :=
          h.mono (List.subset_append_left _ _)
    apply Logged.bind ((persistBundle_logged hmono input adm).mono (fun _ h => h _ rfl)
      fun _ _ h => h)
    · intro entity
      apply Logged.bind ((enqueueBundle_logged input adm entity).mono ?_ fun _ _ h => h)
      · exact fun _ => .done fun _ _ => trivial
      · exact fun _ _ _ => trivial
      · rintro log ⟨hshowed, hinserted⟩
        exact ⟨hshowed, fun row hrow => hinserted row (by rw [hrow])⟩
    · exact fun _ _ _ => trivial
  · exact fun _ _ _ => trivial

end Admission

/-! ## Every call keeps the copies -/

section Runs
variable {cfg : Config} {fuel : Nat} {s : State} {c : ProviderPool} {m : List Notice}

theorem Call.program_copies {l : Call} (hl : (l.isService || l.isPurge) = true) :
    CopyTriple cfg l 0 (l.program cfg fuel) fun _ _ => True := by
  have hpasses : Task.Passes _ (copying cfg l) _ _ := copying_passes l
  have hquiet {t : Promise Unit} (ht : Keeps Op.SparesCopies Req.SparesCopies t) :
      CopyTriple cfg l 0 t fun _ _ => True := (hpasses.uses ht 0).mono fun _ _ _ => trivial
  cases l with
  | addOperationsBundle input =>
    apply (addOperationsBundle_copies input).bind
    · exact fun _ _ _ => .done trivial
    · exact fun _ _ _ => trivial
  | executeNext => exact executeNext_copies
  | verifyTransactions => exact hquiet (verifyTransactions_keeps mayVerify_sparesCopies cfg)
  | expireBundles =>
    exact hquiet (Mempool.expireBundles_keeps permits_sparesCopies.toAnnounces trivial
      fun _ => .inr ⟨_, rfl, by decide⟩)
  | purgeBundles ids =>
    have hpurge : (Op.purgeBundles ids).SparesCopies := trivial
    exact hquiet ((keeps_run hpurge).bind fun _ => keeps_pure _)
  | expireByIds ids =>
    have hexpire : (Req.command (.expireByIds ids BundleStatus.active)).SparesCopies := trivial
    exact hquiet ((keeps_command hexpire).bind fun _ => keeps_pure _)
  | _ => cases hl

theorem respects_copying : (operated cfg fuel).RespectsObserved (copying cfg) (noting notices)
    fun c ch => Machine.Free c ch ∧ ServicesStarted c where
  run _ _ _ _ _ _ _ _ _ := trivial
  serve _ _ _ l q k hg ht hl := hg.2 (l, .await q k) (List.mem_of_getElem? ht) hl
  reject _ _ _ _ _ _ _ _ _ := trivial

/-- The copies of a process, in every state a run reaches. -/
theorem copying_reachable (hboot : s.memory = .boot cfg)
    (h : (operated cfg fuel).Observed (noting notices) Machine.Free ((operated cfg fuel).init s) []
      c m) : ∃ r, Copying cfg c.state m r := by
  have hinit : ServicesStarted ((operated cfg fuel).init s) := by
    intro p hp hservice
    rw [List.mem_singleton.mp hp] at hservice
    cases hservice
  have hstarted := h.strengthen (P := ServicesStarted) (fun c ch c' hc _ hs =>
    ServicesStarted.step (fun _ _ hl _ => (Bool.and_eq_true_iff.mp hl).1) hc hs) hinit
  have hshares : Shares (host.observe (noting notices)) (copying cfg)
      (fun p r => Copying cfg p.1 p.2 r) (fun _ _ _ => True) (c.state, m) c.tasks := by
    apply hstarted.shares (K := copying cfg) (fun _ => rfl) (launch_copies fuel)
    · exact fun s l hl => Call.program_copies (Bool.and_eq_true_iff.mp hl).2
    · exact respects_copying
    · intro c m d r _ hcopies
      exact hcopies.spared (drift_still d c.state) (List.Subset.refl _) fun id =>
        copySpared_same ((drift_agrees d c.state).bundles id) fun hid => hid
    · exact fun _ _ _ _ _ => copying_boot rfl
    · exact shares_single (launch_copies fuel) (copying_boot hboot)
  exact hshares.holds

end Runs

/-! ## Agreement -/

/-- A resubmission resets the row. -/
def Resets (id : BundleId) : Step platform State → Prop
  | .served _ (.command (.updateBundle bundleId data)) =>
    bundleId = id ∧ data.status = some .pending
  | _ => False

/-- What was read of the submitter reads the same. -/
def ReadsSame (db : Database) : Step platform State → Prop
  | .served s (.query (.findAccountById id)) =>
    (Query.findAccountById id).run db = (Query.findAccountById id).run s.db
  | .served s (.query (.findEntityById id)) =>
    (Query.findEntityById id).run db = (Query.findEntityById id).run s.db
  | _ => True

/-- The request inserted the row of the bundle; the bundle is queued, its row is
PENDING or PROCESSING, and the submitter is unchanged. -/
structure QueuedCopy (c : ProviderPool) (log : Log) (data : NewOperationsBundle)
    (row : OperationsBundle) (bundle : SlotBundle) : Prop where
  inserted : ∃ st ∈ log, Inserts data st
  bundleId : bundle.bundleId = data.id
  queued : bundle ∈ c.state.memory.mempool.queued
  found : c.state.db.operationsBundles.find data.id = some row
  active : row.status ∈ BundleStatus.active
  unchanged : ∀ st ∈ log, ReadsSame c.state.db st

/-- Hydration of the row is the bundle, but for the priority. -/
def Hydrates (cfg : Config) (s : State) (row : OperationsBundle) (bundle : SlotBundle) : Prop :=
  ∃ priorityScore, ((createSlotBundleFromEntity cfg row).eval host [] s).1 =
    some (.ok { bundle with priorityScore := priorityScore })

section Steps
variable {l : Call} {st : Step platform State} {id : BundleId} {data : NewOperationsBundle}

theorem notices_inserts (h : Inserts data st) : notices l st = some (.inserted data.id) := by
  obtain ⟨s, rfl, hnone⟩ := inserts_iff.mp h
  simp [notices, hnone]

theorem resets_of_notices (h : notices l st = some (.reset id)) : Resets id st := by
  unfold notices at h
  split at h
  · split at h
    · rename_i hpending
      cases h
      exact ⟨rfl, hpending⟩
    · cases h
  · split at h <;> cases h
  · split at h <;> cases h
  · cases h

theorem placed_of_notices {input : BundleRequest} {placed : SlotBundle}
    (h : notices l st = some (.placed input placed)) :
    l = .addOperationsBundle input ∧ ∃ s, st = .ran s (.place placed) := by
  unfold notices at h
  split at h
  · split at h <;> cases h
  · split at h <;> cases h
  · split at h
    · cases h
      exact ⟨rfl, _, rfl⟩
    · cases h
  · cases h

theorem Asked.unchanged {log : Log} {db : Database} {id : AccountId} {found : Option Account}
    (h : Asked log (.findAccountById id) found) (hsame : ∀ st ∈ log, ReadsSame db st) :
    (Query.findAccountById id).run db = found := by
  obtain ⟨s, hs, rfl⟩ := h
  exact hsame _ hs

theorem Asked.unchanged_entity {log : Log} {db : Database} {id : String} {found : Option Entity}
    (h : Asked log (.findEntityById id) found) (hsame : ∀ st ∈ log, ReadsSame db st) :
    (Query.findEntityById id).run db = found := by
  obtain ⟨s, hs, rfl⟩ := h
  exact hsame _ hs

end Steps

section Agreement
variable {cfg : Config} {fuel : Nat} {s : State} {c : ProviderPool} {logs : List Log}
  {i j : Nat} {l : Call} {st : Step platform State} {id : BundleId} {data : NewOperationsBundle}

/-- The row that was inserted names the account for good. -/
theorem inserted_row (h : (operated cfg fuel).Recorded Machine.Free s c logs)
    (hst : InLog c logs i l st) (hinserts : Inserts data st) :
    ∃ row, c.state.db.operationsBundles.find data.id = some row ∧
      row.createdBy = some data.createdBy ∧ row.deletedAt = none := by
  apply Recorded.lasting (M := operated cfg fuel) (E := Inserts data) (P := fun s =>
    ∃ row, s.db.operationsBundles.find data.id = some row ∧
      row.createdBy = some data.createdBy ∧ row.deletedAt = none) ?_ ?_ ?_ ?_ ?_ h hst hinserts
  · intro s o hrow
    show ∃ row, (runOp o s).2.db.operationsBundles.find data.id = some row ∧ _
    rwa [runOp_db]
  · intro s q hrow
    cases q with
    | command w => exact w.run_keeps_row (fun _ _ _ hkept => hkept) s.clock hrow
    | query q => exact hrow
    | rpc q => exact hrow
  · intro s d hrow
    show ∃ row, (drift d s).db.operationsBundles.find data.id = some row ∧ _
    rwa [(drift_agrees d s).bundles]
  · exact fun s hrow => hrow
  · intro st hinserts
    obtain ⟨s, rfl, hnone⟩ := inserts_iff.mp hinserts
    refine ⟨s, _, rfl, data.row s.clock, ?_, rfl, rfl⟩
    rcases serve_createBundle data s with ⟨-, -, hfind⟩ | ⟨⟨row, hrow⟩, -⟩
    · exact (hfind _).trans (if_pos rfl)
    · rw [hrow] at hnone
      cases hnone

/-- One request inserts the row of a bundle. -/
theorem inserted_once (h : (operated cfg fuel).Recorded Machine.Free s c logs) {l' : Call}
    {st' : Step platform State} {data' : NewOperationsBundle} (hst : InLog c logs i l st)
    (hst' : InLog c logs j l' st') (hinserts : Inserts data st) (hinserts' : Inserts data' st')
    (hid : data'.id = data.id) : i = j := by
  apply Recorded.once (M := operated cfg fuel) (P := fun s => s.HasRow data.id)
    (E := fun st => ∃ data', Inserts data' st ∧ data'.id = data.id) ?_ ?_ ?_ ?_ ?_ h hst hst'
      ⟨data, hinserts, rfl⟩ ⟨data', hinserts', hid⟩
  · intro s o hrow
    show (runOp o s).2.HasRow data.id
    rwa [State.HasRow, runOp_db]
  · exact fun s q => (serve_still q s).rows data.id
  · exact fun s d => (drift_still d s).rows data.id
  · exact fun s hrow => hrow
  · rintro st ⟨data', hinserts, hid⟩
    obtain ⟨s, rfl, hnone⟩ := inserts_iff.mp hinserts
    refine ⟨s, _, rfl, ?_, ?_⟩
    · simp [State.HasRow, ← hid, hnone]
    · rcases serve_createBundle data' s with ⟨-, -, hfind⟩ | ⟨⟨row, hrow⟩, -⟩
      · show (serve _ s).2.HasRow data.id
        rw [State.HasRow, hfind, if_pos hid]
        rfl
      · rw [hrow] at hnone
        cases hnone

/-- What a request queued shows the submitter that its log names. -/
theorem introduced_log (h : (operated cfg fuel).Recorded Machine.Free s c logs)
    {input : BundleRequest} {s' : State} {bundle : SlotBundle}
    (hst : InLog c logs j (.addOperationsBundle input) (.ran s' (.place bundle))) :
    ∃ t log account, c.tasks[j]? = some (.addOperationsBundle input, t) ∧ logs[j]? = some log ∧
      InsertedFor log bundle.bundleId account ∧
      Showed log account (bundle.entityName, bundle.jurisdictions) := by
  obtain ⟨t, log, ht, hlog, hmem⟩ := hst
  have hprogram : Logged (operated cfg fuel).host (fun _ => True) Introduced (· = [])
      ((operated cfg fuel).program (.addOperationsBundle input)) fun _ _ => True :=
    (addOperationsBundle_logged input).bind (fun _ => .done fun _ _ => trivial)
      fun _ _ _ => trivial
  have hmeets := h.meets (fun _ _ _ => trivial) hprogram ht hlog trivial
  obtain ⟨before, after, rfl⟩ := List.append_of_mem hmem
  obtain ⟨account, hinserted, hshowed⟩ := hmeets before _ after rfl
  exact ⟨t, _, account, ht, hlog, hinserted.mono (List.subset_append_left _ _),
    hshowed.mono (List.subset_append_left _ _)⟩

/-- **Hydration agrees with admission.** At every point of every run, for a
bundle whose row a request of the process inserted: as long as no resubmission
has reset the row, hydration of the row is the bundle that is queued, whatever
failed and was queued again, but for the priority. -/
theorem hydration_agrees {input : BundleRequest} {t : Promise Unit} {log : Log}
    {row : OperationsBundle} {bundle : SlotBundle} (hboot : s.memory = .boot cfg)
    (h : (operated cfg fuel).Recorded Machine.Free s c logs)
    (ht : c.tasks[i]? = some (.addOperationsBundle input, t)) (hlog : logs[i]? = some log)
    (hcopy : QueuedCopy c log data row bundle)
    (hreset : ∀ log ∈ logs, ∀ st ∈ log, ¬ Resets data.id st) (hby : data.createdBy ≠ "") :
    Hydrates cfg c.state row bundle := by
  obtain ⟨st, hst, hinserts⟩ := hcopy.inserted
  have hin : InLog c logs i (.addOperationsBundle input) st := ⟨t, log, ht, hlog, hst⟩
  obtain ⟨m, hm, hnoted⟩ := h.noted (f := notices) fun _ _ _ _ => rfl
  obtain ⟨r, hcopies⟩ := copying_reachable hboot hm
  obtain ⟨⟨row₀, hmirrors, hpinned⟩, hnamed⟩ := hcopies.queued bundle hcopy.queued
  have hid : row₀.id = data.id := hmirrors.bundleId.symm.trans hcopy.bundleId
  -- the row is still what the copy was made of
  have hkept : ∃ row, c.state.db.operationsBundles.find data.id = some row ∧
      row.createdBy = some data.createdBy ∧ row.deletedAt = none := inserted_row h hin hinserts
  obtain ⟨_, hrow, hcreated, hdeleted⟩ := hkept
  cases hcopy.found.symm.trans hrow
  have hnot : .reset row₀.id ∉ m := by
    rw [hid, hnoted]
    rintro ⟨j, l, st', ⟨t', log', -, hlog', hst'⟩, hnotice⟩
    exact hreset log' (List.mem_of_getElem? hlog') st' hst' (resets_of_notices hnotice)
  have hactive : row.isIn BundleStatus.active = true := by
    simp [OperationsBundle.isIn, hdeleted, hcopy.active]
  have hsame : row.content = row₀.content := hpinned hnot row (hid ▸ hrow) hactive
  -- the request of the row is the one that queued the bundle
  have hinserted : .inserted bundle.bundleId ∈ m := by
    rw [hcopy.bundleId, hnoted]
    exact ⟨i, _, st, hin, notices_inserts hinserts⟩
  obtain ⟨input', placed, hplaced, hplacedId, hname, hjurisdictions⟩ := hnamed hinserted
  obtain ⟨j, l, st', hst', hnotice⟩ := (hnoted _).mp hplaced
  obtain ⟨rfl, s', rfl⟩ := placed_of_notices hnotice
  obtain ⟨t', log', account, ht', hlog', hfor, hshowed⟩ := introduced_log h hst'
  obtain ⟨data', ⟨st'', hst'', hinserts'⟩, hid', hby'⟩ := hfor
  have hin' : InLog c logs j (.addOperationsBundle input') st'' := ⟨t', log', ht', hlog', hst''⟩
  have hdata : data'.id = data.id := by rw [hid', hplacedId, hcopy.bundleId]
  have hij : i = j := inserted_once h hin hin' hinserts hinserts' hdata
  subst hij
  cases hlog.symm.trans hlog'
  obtain ⟨_, hrow', hcreated', -⟩ := inserted_row h hin' hinserts'
  rw [hdata] at hrow'
  cases hrow.symm.trans hrow'
  have haccount : account = data.createdBy := by
    rw [← hby']
    exact Option.some.inj (hcreated'.symm.trans hcreated)
  subst haccount
  -- the submitter reads as it did
  obtain ⟨found, entity, hfound, hentity, hsubmitter⟩ := hshowed
  rw [hname, hjurisdictions] at hsubmitter
  exact createSlotBundleFromEntity_eval (hmirrors.of_content hsame) hcreated hby
    (hfound.unchanged hcopy.unchanged) (hentity.unchanged_entity hcopy.unchanged) hsubmitter

end Agreement

/-! ## A row that was reset -/

def resetsTest (id : BundleId) : Step platform State → Bool
  | .served _ (.command (.updateBundle bundleId data)) =>
    decide (bundleId = id ∧ data.status = some .pending)
  | _ => false

theorem resetsTest_iff {id : BundleId} {st : Step platform State} :
    resetsTest id st = true ↔ Resets id st := by
  unfold resetsTest Resets
  split
  · exact decide_eq_true_iff
  · exact iff_of_false Bool.false_ne_true not_false

instance (id : BundleId) : DecidablePred (Resets id) := fun _ => decidable_of_iff _ resetsTest_iff

def readsSameTest (db : Database) : Step platform State → Bool
  | .served s (.query (.findAccountById id)) =>
    decide ((Query.findAccountById id).run db = (Query.findAccountById id).run s.db)
  | .served s (.query (.findEntityById id)) =>
    decide ((Query.findEntityById id).run db = (Query.findEntityById id).run s.db)
  | _ => true

theorem readsSameTest_iff {db : Database} {st : Step platform State} :
    readsSameTest db st = true ↔ ReadsSame db st := by
  unfold readsSameTest ReadsSame
  split
  · exact decide_eq_true_iff
  · exact decide_eq_true_iff
  · exact iff_of_true rfl trivial

instance (db : Database) : DecidablePred (ReadsSame db) :=
  fun _ => decidable_of_iff _ readsSameTest_iff

def insertsTest (data : NewOperationsBundle) : Step platform State → Bool
  | .served s (.command (.createBundle inserted)) =>
    decide (inserted = data ∧ s.db.operationsBundles.find data.id = none)
  | _ => false

theorem insertsTest_iff {data : NewOperationsBundle} {st : Step platform State} :
    insertsTest data st = true ↔ Inserts data st := by
  unfold insertsTest Inserts
  split
  · exact decide_eq_true_iff
  · exact iff_of_false Bool.false_ne_true not_false

instance (data : NewOperationsBundle) : DecidablePred (Inserts data) :=
  fun _ => decidable_of_iff _ insertsTest_iff

instance (c : ProviderPool) (log : Log) (data : NewOperationsBundle) (row : OperationsBundle)
    (bundle : SlotBundle) : Decidable (QueuedCopy c log data row bundle) :=
  decidable_of_iff ((∃ st ∈ log, Inserts data st) ∧ bundle.bundleId = data.id ∧
      bundle ∈ c.state.memory.mempool.queued ∧
      c.state.db.operationsBundles.find data.id = some row ∧ row.status ∈ BundleStatus.active ∧
      ∀ st ∈ log, ReadsSame c.state.db st)
    ⟨fun ⟨hinserted, hid, hqueued, hfound, hactive, hsame⟩ =>
      ⟨hinserted, hid, hqueued, hfound, hactive, hsame⟩,
    fun h => ⟨h.inserted, h.bundleId, h.queued, h.found, h.active, h.unchanged⟩⟩

namespace Small

/-- The row that the first request inserts. -/
def depositData : NewOperationsBundle where
  id := "deposit 10"
  status := .pending
  channelContractId := "channel"
  ttl := 86400000
  operationsMLXDR := ["deposit 10"]
  fee := 10
  ppPublicKey := "GPP"
  createdBy := "GSUB"
  createdAt := 0

/-- Two bundles in one slot; the tick submits it and records the transaction,
but only the link of the first bundle, so it queues both again. -/
def requeued : List ProviderChoice :=
  admitted ++ [.start (.addOperationsBundle (request ["deposit 10", "create a 4"]))] ++
    serves 2 12 ++ [.resume 2, .start .executeNext] ++ serves 3 14 ++
    [.resume 3, .reject 3 (.database "down")] ++ serves 3 10 ++ [.resume 3]

/-- The transaction fails on-chain, so the verifier fails the first bundle, and
its request comes again. -/
def requestedAgain : List ProviderChoice :=
  requeued ++ [.drift (.network { network with transaction := fun _ => some (.failed none) }),
    .start .verifyTransactions] ++ serves 4 7 ++
    [.start (.addOperationsBundle (request ["deposit 10"]))] ++ serves 5 8

/-- The first bundle is queued as `QueuedCopy` says, and as `p` asks. -/
def firstQueued (p : List Log → OperationsBundle → SlotBundle → Bool) (c : ProviderPool)
    (logs : List Log) : Bool :=
  match c.tasks[1]?, logs[1]?, c.state.memory.mempool.queued,
    c.state.db.operationsBundles.find "deposit 10" with
  | some (Call.addOperationsBundle _, _), some log, bundle :: _, some row =>
    decide (QueuedCopy c log depositData row bundle) && p logs row bundle
  | _, _, _, _ => false

theorem exists_firstQueued (chs : List ProviderChoice)
    (p : List Log → OperationsBundle → SlotBundle → Bool)
    (h : ((operated config 1).record chs ((operated config 1).init state) [[]]).map
      (fun r => firstQueued p r.1 r.2) = some true) :
    ∃ c logs input t log row bundle, (operated config 1).Recorded Machine.Free state c logs ∧
      c.tasks[1]? = some (.addOperationsBundle input, t) ∧ logs[1]? = some log ∧
      QueuedCopy c log depositData row bundle ∧ p logs row bundle = true := by
  obtain ⟨c, logs, hrec, hqueued⟩ := exists_recorded_run chs (firstQueued p) h
  unfold firstQueued at hqueued
  split at hqueued
  · rename_i input t log bundle bundles row ht hlog _ _
    obtain ⟨hcopy, hp⟩ := Bool.and_eq_true_iff.mp hqueued
    exact ⟨c, logs, input, t, log, row, bundle, hrec, ht, hlog, of_decide_eq_true hcopy, hp⟩
  · cases hqueued

end Small

theorem hydration_agrees_small : ∃ (c : ProviderPool) (row : OperationsBundle)
    (bundle : SlotBundle), bundle.retryCount = 1 ∧ Hydrates Small.config c.state row bundle := by
  obtain ⟨c, logs, input, t, log, row, bundle, hrec, ht, hlog, hcopy, hp⟩ :=
    Small.exists_firstQueued Small.requeued (fun logs _ bundle =>
      bundle.retryCount == 1 && decide (∀ log ∈ logs, ∀ st ∈ log, ¬ Resets "deposit 10" st))
      (by decide +kernel)
  obtain ⟨hcount, hreset⟩ := Bool.and_eq_true_iff.mp hp
  exact ⟨c, row, bundle, eq_of_beq hcount,
    hydration_agrees rfl hrec ht hlog hcopy (of_decide_eq_true hreset) (by decide)⟩

/-- The row of a queued bundle is reset: the request that resets it throws, and
the copy in the queue stays as it was. -/
theorem reset_copy_differs :
    ¬ ∀ (cfg : Config) (fuel : Nat) (s : State) (c : ProviderPool) (logs : List Log) (i : Nat)
      (input : BundleRequest) (t : Promise Unit) (log : Log) (data : NewOperationsBundle)
      (row : OperationsBundle) (bundle : SlotBundle), Fresh cfg s →
      (operated cfg fuel).Recorded Machine.Free s c logs →
      c.tasks[i]? = some (.addOperationsBundle input, t) → logs[i]? = some log →
      QueuedCopy c log data row bundle → Hydrates cfg c.state row bundle := by
  intro h
  obtain ⟨c, logs, input, t, log, row, bundle, hrec, ht, hlog, hcopy, hp⟩ :=
    Small.exists_firstQueued Small.requestedAgain (fun _ row bundle =>
      bundle.retryCount == 1 && row.retryCount == 0) (by decide +kernel)
  obtain ⟨hbundle, hrow⟩ := Bool.and_eq_true_iff.mp hp
  obtain ⟨priorityScore, heval⟩ := h _ _ _ c logs 1 input t log _ row bundle Small.fresh hrec ht
    hlog hcopy
  obtain ⟨operations, -, hmirrors⟩ :=
    Task.eval_yields host (createSlotBundleFromEntity_mirrors row) heval
  have hsame : bundle.retryCount = row.retryCount :=
    congrArg (fun b : SlotBundle => b.retryCount) hmirrors
  rw [eq_of_beq hbundle, eq_of_beq hrow] at hsame
  cases hsame

end ProviderPlatform
