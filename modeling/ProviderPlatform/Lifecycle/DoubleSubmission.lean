import ProviderPlatform.Async.Ownership
import ProviderPlatform.Lifecycle.Custody

/-! # No double submission

Between the return of a hash and the last link row, neither the retry path nor
the boot can tell that the bundles of a slot were submitted. If no call of a
tick fails in between, and no boot reads a row of a transaction that is not
linked yet, a bundle is not handed to the network again until its transaction
is marked FAILED. -/
namespace ProviderPlatform
open Async Store

/-! ## The condition -/

/-- The call and the request that fail in this step: the request rejects, or it
is served with an error. -/
def failed (c : ProviderPool) (ch : ProviderChoice) : Option (Call × Req) :=
  ch.rejected c <|> (ch.served c).filter fun p => !(serve p.2 c.state).1.isOk

/-- Reads the rows a boot loads. -/
def Req.hydrates : Req → Bool
  | .query .findPendingOrProcessing => true
  | _ => false

/-- A call of the executor fails only while every outstanding transaction is
recorded, and the boot reads its rows only while those of outstanding
transactions are PROCESSING and linked. -/
def SubmitsSafely (c : ProviderPool) (ch : ProviderChoice) : Prop :=
  (∀ p ∈ failed c ch, p.1 = .executeNext → c.state.Recorded) ∧
    ∀ p ∈ ch.served c, p.2.hydrates = true → c.state.Hydratable

instance (c : ProviderPool) (ch : ProviderChoice) : Decidable (SubmitsSafely c ch) :=
  inferInstanceAs (Decidable (_ ∧ _))

/-! ## The discipline -/

/-- Custody is kept. The services make their calls once the mempool system has
started; what may fail, and when the rows may be read, is the condition above. -/
def custody (l : Call) : Discipline platform State Tokens where
  inv := Custody
  mayRun _ _ := True
  mayServe s (q : Req) := (l.isService = true → s.memory.started = true) ∧
    (l = .executeNext → (serve q s).1.isOk = false → s.Recorded) ∧
    (q.hydrates = true → s.Hydratable)
  mayReject s _ := (l.isService = true → s.memory.started = true) ∧
    (l = .executeNext → s.Recorded)

theorem permits_quiet : Permits Op.Quiet Req.Quiet where
  query _ := trivial
  rpc _ := trivial
  now := trivial
  emit _ _ := trivial
  isDisabled _ := trivial

section Triples
variable {α : Type} {l : Call} {cfg : Config} {own own' : Tokens}

theorem custody_passes (l : Call) : Task.Passes host (custody l) Op.Quiet Req.Quiet where
  run _ ho s _ h _ := Custody.quiet h (runOp_quiet ho s)
  serve _ hq s _ h _ := Custody.quiet h (serve_quiet hq s)

theorem custody_yields {t : Promise α} {Q : α → Prop} (ht : Keeps Op.Quiet Req.Quiet t)
    (hy : t.Yields Q) (own : Tokens) :
    Task.Triple host (custody l) own t fun r o => o = own ∧ ∀ a, r = .ok a → Q a :=
  (custody_passes l).yields ht hy own

theorem custody_quiet {t : Promise α} (ht : Keeps Op.Quiet Req.Quiet t) (own : Tokens) :
    Task.Triple host (custody l) own t fun _ o => o = own :=
  (custody_passes l).uses ht own

/-- A task may drop what it owns. -/
theorem custody_drop {t : Promise α} {B : Except Err α → Tokens → Prop}
    (ht : Task.Triple host (custody l) own' t B) (hle : own' ≤ own) :
    Task.Triple host (custody l) own t B :=
  ht.discard fun _ f h => Custody.drop h (add_le_add_left hle f)

theorem custody_drop_done {B : Except Err α → Tokens → Prop} {r : Except Err α}
    (h : B r 0) : Task.Triple host (custody l) own (.done r) B :=
  custody_drop (.done h) (Multiset.zero_le own)

/-! ## Queueing -/

/-- The bundle joins the queue. -/
theorem addBundle_custody (bundle : SlotBundle) :
    Task.Triple host (custody l) {.holds bundle.bundleId} (Mempool.addBundle cfg bundle)
      fun r o => r = .ok () → o = 0 := by
  have h := permits_quiet
  refine (custody_passes _).bind (keeps_run h.now) (fun now => ?_) fun _ => nofun
  split
  · have hexpire : Keeps Op.Quiet Req.Quiet (Mempool.markExpired bundle) :=
      Mempool.markExpired_keeps h.toAnnounces (fun _ => trivial) bundle
    exact custody_drop ((custody_quiet hexpire 0).mono fun _ _ ho _ => ho) (Multiset.zero_le _)
  have hplace : Task.Triple host (custody l) {.holds bundle.bundleId} (run (.place bundle))
      fun _ o => o = 0 :=
    .op fun s f hs _ => ⟨0, rfl, by rw [zero_add]; exact Custody.place hs⟩
  refine hplace.bind (fun placement o ho => ?_) fun _ _ _ => nofun
  subst ho
  have hadded (newSlot : Bool) : Keeps Op.Quiet Req.Quiet (do
      emitForPp bundle.ppPublicKey (Mempool.bundleAddedPayload bundle newSlot)
      Mempool.activate bundle) :=
    (emitForPp_keeps h.toAnnounces _ rfl).bind fun _ =>
      Mempool.activate_keeps (fun _ => trivial) (fun _ => trivial) bundle
  cases placement with
  | existingSlot => exact (custody_quiet (hadded false) 0).mono fun _ _ ho _ => ho
  | newSlot => exact (custody_quiet (hadded true) 0).mono fun _ _ ho _ => ho
  | slotFull => exact .done nofun

theorem reAddBundles_custody (bundles : List SlotBundle) :
    Task.Triple host (custody l) (holdsAll (bundles.map (·.bundleId)))
      (Mempool.reAddBundles cfg bundles) fun r o => r = .ok () → o = 0 := by
  rw [holdsAll, List.map_map]
  refine Task.Triple.forEach_split fun b _ => ?_
  exact (addBundle_custody b).recover (fun _ _ ho => ho) fun _ _ _ => custody_drop_done fun _ => rfl

/-! ## Admission -/

/-- A row that was inserted is with the task that inserted it. -/
def Inserted : Except Err (Written OperationsBundle) → Tokens → Prop
  | .ok (.row row), o => o = {.holds row.id}
  | _, _ => True

theorem createBundle_custody (hl : l.isService = true) (data : NewOperationsBundle) :
    Task.Triple host (custody l) 0 (command (.createBundle data))
      fun r o => ∀ row, r = .ok row → o = {.holds row.id} := by
  refine .call (fun s f h hmay => ?_) fun s f h _ e => ⟨0, fun _ => nofun, h⟩
  rw [zero_add] at h
  have hquiet : (Req.command (.createBundle data)).Quiet := trivial
  have hq : Quiet s (serve (.command (.createBundle data)) s).2 := serve_quiet hquiet s
  have h' := Custody.quiet h hq
  rcases serve_createBundle data s with ⟨hnone, hanswer, hfind⟩ | ⟨-, hanswer, -⟩
  · have hnorow : ¬ s.HasRow data.id := by simp [State.HasRow, hnone]
    have hrow : (serve (.command (.createBundle data)) s).2.HasRow data.id := by
      rw [State.HasRow, hfind, if_pos rfl]
      rfl
    refine ⟨{.holds data.id}, fun row he => ?_, ?_⟩
    · have he : data.row s.clock = row := Except.ok.inj (hanswer.symm.trans he)
      rw [← he, NewOperationsBundle.row_id]
    · refine Custody.gain h' (Custody.not_boot_of_started h (hmay.1 hl)) (fun hmem => ?_) hrow ?_
      · exact hnorow (Custody.rows h _ (Multiset.mem_of_le (hq.occupied f) hmem))
      · exact fun p hp hmem => hnorow (Custody.sent h p (hq.outstanding hp) _ hmem)
  · refine ⟨0, fun row he => ?_, by rw [zero_add]; exact h'⟩
    cases hanswer.symm.trans he

theorem persistBundle_custody (hl : l.isService = true) (input : BundleRequest) (adm : Admission) :
    Task.Triple host (custody l) 0 (persistBundle input adm) Inserted := by
  have h := permits_quiet
  unfold persistBundle
  split
  · have hreset (data : OperationsBundlePatch) :
        Keeps Op.Quiet Req.Quiet (command (.updateBundle adm.bundleId data)) := by
      exact keeps_command trivial
    exact (custody_quiet (hreset _) 0).bind (fun _ _ _ => .done trivial) fun _ _ _ => trivial
  · refine (custody_passes _).bind (keeps_run h.now) (fun now => ?_) fun _ => trivial
    refine (createBundle_custody hl _).bind (fun row o ho => ?_) fun _ _ _ => trivial
    exact .done (ho row rfl)

theorem enqueueBundle_custody (input : BundleRequest) (adm : Admission)
    {entity : Written OperationsBundle} (hown : Inserted (.ok entity) own) :
    Task.Triple host (custody l) own (enqueueBundle cfg input adm entity) fun _ _ => True := by
  have h := permits_quiet
  have hcreates : Keeps Op.Quiet Req.Quiet (persistCreateOperations adm.classified.create
      (entity.get (·.id)) adm.accountId) :=
    persistCreateOperations_keeps h.toReads (fun _ => trivial) _ _ _
  refine (custody_passes _).bind hcreates (fun _ => ?_) fun _ => trivial
  have hspends : Keeps Op.Quiet Req.Quiet (persistSpendOperations adm.classified.spend
      (entity.get (·.id)) adm.accountId adm.channelClient input.channelContractId) :=
    persistSpendOperations_keeps h.toReads (fun _ _ => trivial) _ _ _ _ _
  refine (custody_passes _).bind hspends (fun _ => ?_) fun _ => trivial
  refine (custody_passes _).bind (keeps_run h.now) (fun now => ?_) fun _ => trivial
  refine (custody_yields (keeps_done _) (fun _ hb => createSlotBundle_row hb) _).bind
    (fun bundle o ho => ?_) fun _ _ _ => trivial
  obtain ⟨rfl, hmade⟩ := ho
  obtain ⟨row, rfl, hid⟩ := hmade bundle rfl
  have hown : o = {.holds row.id} := hown
  rw [hown, ← hid]
  exact (addBundle_custody bundle).mono fun _ _ _ => trivial

theorem addOperationsBundle_custody (hl : l.isService = true) (input : BundleRequest) :
    Task.Triple host (custody l) 0 (addOperationsBundle cfg input) fun _ _ => True := by
  have h := permits_quiet
  have hchecks : Keeps Op.Quiet Req.Quiet (checkRequest cfg input) :=
    checkRequest_keeps h.toAnnounces (fun _ _ => trivial) cfg input
  refine (custody_passes _).bind hchecks (fun adm => ?_) fun _ => trivial
  refine (persistBundle_custody hl input adm).bind (fun entity o ho => ?_) fun _ _ _ => trivial
  exact (enqueueBundle_custody input adm ho).bind (fun _ _ _ => .done trivial) fun _ _ _ => trivial

/-! ## The executor -/

/-- A submission that returned owns the hash besides what it started with. -/
def Submitted (own : Tokens) : Except Err TxHash → Tokens → Prop
  | .ok hash, o => o = own + {.sends hash}
  | .error _, o => o = own

theorem invokeRaw_custody (ctx : ChannelContext) (operations : List MoonlightOperation) :
    Task.Triple host (custody .executeNext) own (rpc (.invokeRaw ctx operations))
      (Submitted own) := by
  refine .call (fun s f h hmay => ?_) fun s f h _ e => ⟨own, rfl, h⟩
  have hstarted : s.memory.started = true := hmay.1 rfl
  have hnot : .boot ∉ own + f := Custody.not_boot_of_started h hstarted
  have hquiet : (Req.rpc (.invokeRaw ctx operations)).Quiet := trivial
  have hq : Quiet s (serve (.rpc (.invokeRaw ctx operations)) s).2 := serve_quiet hquiet s
  rcases Rpc.run_invokeRaw s.network ctx operations with ⟨e, hrun⟩ | ⟨hash, hnew, hrun⟩
  · refine ⟨own, ?_, Custody.quiet h hq⟩
    simp [host, serve, hrun, Submitted]
  · refine ⟨own + {.sends hash}, ?_, ?_⟩
    · simp [host, serve, hrun, Submitted]
    · have hacc : hash ∈ (serve (.rpc (.invokeRaw ctx operations)) s).2.network.accepted := by
        simp [serve, hrun]
      rw [add_right_comm, add_comm]
      exact Custody.accept h hnot hnew hq hacc

theorem submitTransactionToNetwork_custody (operations : List MoonlightOperation)
    (expiration : Nat) (channel : ContractId) (pp : PublicKey) :
    Task.Triple host (custody .executeNext) own
      (submitTransactionToNetwork cfg operations expiration channel pp) (Submitted own) := by
  have h := permits_quiet
  refine (custody_passes _).bind (keeps_rpc h.toReads _) (fun ctx => ?_) fun _ => rfl
  refine (custody_passes _).bind (readAccountSeq_keeps h.rpc _) (fun _ => ?_) fun _ => rfl
  refine (custody_passes _).bind (keeps_rpc h.toReads _) (fun _ => ?_) fun _ => rfl
  refine Task.Triple.recover (B := Submitted _) ?_ (fun _ _ ho => ho) fun e o ho => ?_
  · refine (invokeRaw_custody ctx operations).bind (fun hash o ho => ?_) fun _ _ ho => ho
    have hread : Task.Triple host (custody .executeNext) o (readAccountSeq ctx.signer)
        fun r o' => r = .ok () ∧ o' = o :=
      Task.Triple.recover (custody_quiet (keeps_rpc h.toReads _) o) (fun _ _ ho => ⟨rfl, ho⟩)
        fun _ _ ho => .done ⟨rfl, ho⟩
    refine hread.bind (fun _ o' ho' => ?_) fun _ _ ho' => absurd ho'.1 nofun
    obtain ⟨-, rfl⟩ := ho'
    exact .done ho
  · have ho : o = _ := ho
    subst ho
    exact (custody_quiet (readFailedAccountSeq_keeps h.rpc cfg _ _) _).bind
      (fun _ _ ho => .done ho) fun _ _ ho => ho

/-- A call on the way to the last link succeeds, or the bundles of the
transaction may be submitted again. -/
theorem recordCall_custody {q : Req} (hq : q.Quiet) {hash : TxHash} {id : BundleId}
    {ids rest : List BundleId} :
    Task.Triple host (custody .executeNext) {.records hash ids (id :: rest)}
      (Task.call (I := platform) q) fun r o =>
        (∀ a, r = .ok a → o = {.records hash ids (id :: rest)}) ∧
        ∀ e, r = .error e → o = holdsAll ids := by
  refine .call (fun s f h hmay => ?_) fun s f h hmay e => ?_
  · cases hres : (host.serve q s).1 with
    | ok a => exact ⟨_, ⟨fun _ _ => rfl, fun _ => nofun⟩, Custody.quiet h (serve_quiet hq s)⟩
    | error e =>
      have hfails : (serve q s).1.isOk = false := congrArg Except.isOk hres
      have hrec : s.Recorded := hmay.2.1 rfl hfails
      refine ⟨holdsAll ids, ⟨fun _ => nofun, fun _ _ => rfl⟩, ?_⟩
      exact Custody.quiet (Custody.giveBack h hrec) (serve_quiet hq s)
  · have hrec : s.Recorded := hmay.2 rfl
    exact ⟨holdsAll ids, ⟨fun _ => nofun, fun _ _ => rfl⟩, Custody.giveBack h hrec⟩

/-- An insert of a link happens or it changes nothing. -/
theorem Command.run_createLink (db : Database) (now : Time) (data : NewBundleTransaction) :
    (Command.createLink data).run now db = (.error constraintViolation, db) ∨
      ∃ t, db.bundlesTransactions.insert? (data.row now) = some t ∧
        (Command.createLink data).run now db =
          (.ok (data.row now), { db with bundlesTransactions := t }) := by
  simp only [Command.run]
  split
  · cases ht : db.bundlesTransactions.insert? (data.row now) with
    | none => exact .inl rfl
    | some t => exact .inr ⟨t, rfl, rfl⟩
  · exact .inl rfl

theorem createLink_custody {hash : TxHash} {id : BundleId} {ids rest : List BundleId} :
    Task.Triple host (custody .executeNext) {.records hash ids (id :: rest)} (createLink hash id)
      fun r o => (r = .ok () → o = {.records hash ids rest}) ∧
        ∀ e, r = .error e → o = holdsAll ids := by
  have hnow : Task.Triple host (custody .executeNext) {.records hash ids (id :: rest)} (run .now)
      fun r o => (∃ now, r = .ok now) ∧ o = {.records hash ids (id :: rest)} :=
    .op fun s f h _ => ⟨_, ⟨⟨_, rfl⟩, rfl⟩, Custody.quiet h (runOp_quiet (o := .now) trivial s)⟩
  refine hnow.bind (fun now o ho => ?_) fun _ _ ho => by obtain ⟨⟨_, he⟩, -⟩ := ho; cases he
  obtain ⟨-, rfl⟩ := ho
  refine Task.Triple.bind (B := fun r o => (∀ a, r = .ok a → o = {.records hash ids rest}) ∧
    ∀ e, r = .error e → o = holdsAll ids) ?_
    (fun a o ho => .done ⟨fun _ => ho.1 a rfl, fun _ he => by cases he⟩)
    fun e o ho => ⟨fun he => (by cases he), fun _ _ => ho.2 e rfl⟩
  refine .call (fun s f h hmay => ?_) fun s f h hmay e => ?_
  · generalize hdata : (⟨id, hash, now, "system"⟩ : NewBundleTransaction) = data at hmay ⊢
    rcases Command.run_createLink s.db s.clock data with hrun | ⟨t, hinsert, hrun⟩
    · have hrec : s.Recorded := hmay.2.1 rfl (by simp [serve, hrun, Except.isOk, Except.toBool])
      refine ⟨holdsAll ids, ⟨fun a ha => ?_, fun _ _ => rfl⟩, ?_⟩
      · simp [host, serve, hrun] at ha
      · have hsame : (serve (.command (.createLink data)) s).2 = s := by
          simp [serve, hrun, Command.notes]
        show Custody (serve (.command (.createLink data)) s).2 _
        rw [hsame]
        exact Custody.giveBack h hrec
    · refine ⟨_, ⟨fun _ _ => rfl, fun e he => ?_⟩, ?_⟩
      · simp [host, serve, hrun] at he
      · have hkey : (data.row s.clock).key = (id, hash) := by rw [← hdata]; rfl
        refine Custody.link h hkey ?_ (fun key => ?_) rfl ?_ rfl
        · simp [host, serve, hrun]
        · simpa [host, serve, hrun] using Table.find_insert hinsert key
        · simp [host, serve, Command.notes]
  · have hrec : s.Recorded := hmay.2 rfl
    exact ⟨holdsAll ids, ⟨fun _ he => (by cases he), fun _ _ => rfl⟩, Custody.giveBack h hrec⟩

theorem createLinks_custody {hash : TxHash} {ids : List BundleId} : ∀ rest : List BundleId,
    Task.Triple host (custody .executeNext) {.records hash ids rest}
      (Task.forEach (I := platform) (createLink hash) rest)
      fun r o => ∀ e, r = .error e → o = holdsAll ids
  | [] => .done fun _ => nofun
  | id :: rest => by
    refine createLink_custody.bind (fun _ o ho => ?_) fun e o ho _ _ => ho.2 e rfl
    rw [ho.1 rfl]
    exact createLinks_custody rest

/-- Recording a transaction fails only with its bundles back in hand. -/
theorem createTransactionRecord_custody {hash : TxHash} {ids : List BundleId} (hne : ids ≠ []) :
    Task.Triple host (custody .executeNext) {.records hash ids ids}
      (createTransactionRecord cfg hash ids) fun r o => ∀ e, r = .error e → o = holdsAll ids := by
  obtain ⟨id, rest, rfl⟩ := List.exists_cons_of_ne_nil hne
  have hledger : (Req.rpc .getLatestLedger).Quiet := trivial
  refine (recordCall_custody hledger).bind (fun latestLedger o ho => ?_) fun e o ho _ _ => ho.2 e rfl
  have ho := ho.1 _ rfl
  subst ho
  have hnow : Task.Triple host (custody .executeNext) {.records hash (id :: rest) (id :: rest)}
      (run .now) fun r o => (∃ now, r = .ok now) ∧ o = {.records hash (id :: rest) (id :: rest)} :=
    .op fun s f h _ => ⟨_, ⟨⟨_, rfl⟩, rfl⟩, Custody.quiet h (runOp_quiet (o := .now) trivial s)⟩
  refine hnow.bind (fun now o ho => ?_) fun _ _ ho => by obtain ⟨⟨_, he⟩, -⟩ := ho; cases he
  obtain ⟨-, rfl⟩ := ho
  have hcreate (data : NewTransaction) : (Req.command (.createTransaction data)).Quiet := trivial
  refine (recordCall_custody (hcreate _)).bind (fun _ o ho => ?_) fun e o ho _ _ => ho.2 e rfl
  have ho := ho.1 _ rfl
  subst ho
  exact createLinks_custody _

/-- Emitting never fails. -/
theorem emitForBundles_custody (ids : List BundleId) (payload : EventPayload) :
    Task.Triple host (custody l) own (emitForBundles ids payload) fun r _ => r = .ok () := by
  have h := permits_quiet
  unfold emitForBundles
  split
  · exact .done rfl
  · refine Task.Triple.recover (custody_quiet ((keeps_query h.toReads _).bind fun rows => ?_) own)
      (fun _ _ _ => rfl) fun _ _ _ => .done rfl
    exact Task.Uses.forEach fun pp _ => emitInScope_uses (fun _ => h.query _) (fun _ => h.emit _ _) pp

theorem handleSlotFailure_custody (slot : Slot) (error : Err) :
    Task.Triple host (custody l) (holdsAll (slot.bundles.map (·.bundleId)))
      (handleSlotFailure cfg slot error) fun _ _ => True := by
  have h := permits_quiet
  have hemit (ids : List BundleId) : Keeps Op.Quiet Req.Quiet (emitExecutionFailed slot ids error) :=
    emitExecutionFailed_keeps h slot ids error
  unfold handleSlotFailure
  split
  · refine (custody_quiet ?_ _).mono fun _ _ _ => trivial
    exact (Task.Uses.forEach fun id _ => failInsufficientFees_keeps (fun _ _ _ => trivial) _ id).bind
      fun _ => hemit _
  refine (custody_passes _).bind (keeps_run h.now) (fun now => ?_) fun _ => trivial
  refine (custody_passes _).bind (hemit _) (fun _ => ?_) fun _ => trivial
  have hfail (reason : FailureReason) (ids : List BundleId) : Keeps Op.Quiet Req.Quiet
      (handleExecutionFailure cfg error ids reason) :=
    handleExecutionFailure_keeps h.toReads (fun _ _ _ => trivial) cfg error ids reason
  refine (custody_passes _).bind (hfail _ _) (fun results => ?_) fun _ => trivial
  dsimp only
  split
  · refine custody_drop ((reAddBundles_custody _).mono fun _ _ _ => trivial) ?_
    exact holdsAll_le (buildRetryBundles_ids slot results)
  · exact .done trivial

theorem submitSlot_custody {slot : Slot} {first : SlotBundle} {build : TransactionBuildResult}
    {expiration : Nat} (hids : build.bundleIds = slot.bundles.map (·.bundleId))
    (hne : slot.bundles ≠ []) :
    Task.Triple host (custody .executeNext) (holdsAll (slot.bundles.map (·.bundleId)))
      (submitSlot cfg slot first build expiration)
      fun r o => ∀ e, r = .error e → o = holdsAll (slot.bundles.map (·.bundleId)) := by
  have hhand : Task.Triple host (custody .executeNext) (holdsAll (slot.bundles.map (·.bundleId)))
      (run (.note (.handed first.channelContractId first.ppPublicKey slot.getBundles)))
      fun _ o => o = holdsAll (slot.bundles.map (·.bundleId)) := by
    refine .op fun s f h _ => ⟨_, rfl, Custody.handed h fun b hb => ?_⟩
    have hmem : Token.holds b.bundleId ∈ holdsAll (slot.bundles.map (·.bundleId)) :=
      mem_holdsAll.mpr ⟨b.bundleId, List.mem_map_of_mem hb, rfl⟩
    exact Custody.tokens h _ (Multiset.mem_add.mpr (.inl hmem))
  refine hhand.bind (fun _ o ho => ?_) fun _ _ ho _ _ => ho
  subst ho
  refine (submitTransactionToNetwork_custody _ _ _ _).bind (fun hash o ho => ?_)
    fun _ _ ho _ _ => ho
  have ho : o = holdsAll (slot.bundles.map (·.bundleId)) + {.sends hash} := ho
  subst ho
  have hnote : Task.Triple host (custody .executeNext)
      (holdsAll (slot.bundles.map (·.bundleId)) + {.sends hash})
      (run (.note (.returned hash build.bundleIds))) fun r o => r = .ok () ∧
        o = {.records hash (slot.bundles.map (·.bundleId)) (slot.bundles.map (·.bundleId))} := by
    rw [hids]
    exact .op fun s f h _ => ⟨_, ⟨rfl, rfl⟩, Custody.returned h⟩
  refine hnote.bind (fun _ o ho => ?_) fun _ _ ho => absurd ho.1 nofun
  obtain ⟨-, rfl⟩ := ho
  rw [hids]
  refine (createTransactionRecord_custody (by simpa using hne)).bind (fun _ o _ => ?_)
    fun _ _ ho => ho
  refine (emitForBundles_custody _ _).mono fun r _ hr e he => ?_
  rw [hr] at he
  cases he

theorem executeSlot_custody (slot : Slot) :
    Task.Triple host (custody .executeNext) (holdsAll (slot.bundles.map (·.bundleId)))
      (executeSlot cfg slot)
      fun r o => ∀ e, r = .error e → o = holdsAll (slot.bundles.map (·.bundleId)) := by
  unfold executeSlot
  split
  · exact .done fun _ _ => rfl
  rename_i first hfirst
  have hne : slot.bundles ≠ [] := List.ne_nil_of_mem (List.mem_of_head? hfirst)
  split
  · exact .done fun _ _ => rfl
  split
  · exact .done fun _ _ => rfl
  refine (custody_yields (prepareSlot_keeps permits_quiet.rpc cfg slot first)
    (prepareSlot_yields slot first) _).bind (fun prepared o ho => ?_) fun _ _ ho _ _ => ho.1
  obtain ⟨rfl, hids⟩ := ho
  exact submitSlot_custody (hids prepared rfl) hne

theorem processSlot_custody (pulled : Slot) :
    Task.Triple host (custody .executeNext) (holdsAll (pulled.bundles.map (·.bundleId)))
      (processSlot cfg pulled) fun _ _ => True := by
  refine (custody_yields (expireSlotBundlesPastTtl_keeps permits_quiet.toAnnounces (fun _ => trivial) pulled)
    (expireSlotBundlesPastTtl_yields pulled) _).bind (fun slot o ho => ?_) fun _ _ _ => trivial
  obtain ⟨rfl, hsub⟩ := ho
  have hle : holdsAll (slot.bundles.map (·.bundleId)) ≤ holdsAll (pulled.bundles.map (·.bundleId)) :=
    holdsAll_le ((hsub slot rfl).map _)
  refine custody_drop ?_ hle
  split
  · exact .done trivial
  · refine (executeSlot_custody slot).recover (fun _ _ _ => trivial) fun e o ho => ?_
    rw [ho e rfl]
    exact handleSlotFailure_custody slot e

theorem executeNext_custody :
    Task.Triple host (custody .executeNext) 0 (executeNext cfg) fun _ _ => True := by
  have hquiet {o : Op} (ho : o.Quiet) : Keeps Op.Quiet Req.Quiet (run o) := keeps_run ho
  have hset (b : Bool) : (Op.setProcessing b).Quiet := trivial
  have hasks : (Op.isProcessing).Quiet := trivial
  refine (custody_passes _).bind (hquiet hasks) (fun isProcessing => ?_) fun _ => trivial
  split
  · exact .done trivial
  refine (custody_passes _).bind (hquiet (hset true)) (fun _ => ?_) fun _ => trivial
  have hpull : Task.Triple host (custody .executeNext) 0 (run .removeFirstSlot)
      fun r o => ∀ slot, r = .ok (some slot) → o = holdsAll (slot.bundles.map (·.bundleId)) := by
    refine .op fun s f h _ => ?_
    rw [zero_add] at h
    cases hfirst : s.memory.mempool.removeFirstSlot.1 with
    | none =>
      refine ⟨0, fun slot he => ?_, ?_⟩
      · have he : s.memory.mempool.removeFirstSlot.1 = some slot := Except.ok.inj he
        rw [hfirst] at he
        cases he
      · rw [zero_add]
        exact Custody.quiet h (runOp_quiet (o := .removeFirstSlot) trivial s)
    | some slot =>
      refine ⟨_, fun slot' he => ?_, Custody.pull h hfirst⟩
      have he : s.memory.mempool.removeFirstSlot.1 = some slot' := Except.ok.inj he
      rw [hfirst] at he
      cases he
      rfl
  refine Task.Triple.ensure (hpull.bind (fun slot o ho => ?_) fun _ _ _ => trivial) ?_
  · cases slot with
    | none => exact .done trivial
    | some slot =>
      rw [ho slot rfl]
      dsimp only
      split
      · exact .done trivial
      · exact processSlot_custody slot
  · exact fun s _ h _ => Custody.quiet h (runOp_quiet (hset false) s)

/-! ## The other calls -/

theorem mayVerify_quiet : MayVerify Op.Quiet Req.Quiet where
  toPermits := permits_quiet
  updateTransaction _ _ := trivial
  complete _ := trivial
  failure _ _ _ := trivial

/-- The services start with nothing. -/
theorem Call.service_custody (fuel : Nat) (hl : l.isService = true) :
    Task.Triple host (custody l) 0 (l.program cfg fuel) fun _ _ => True := by
  cases l with
  | addOperationsBundle input =>
    exact (addOperationsBundle_custody hl input).bind (fun _ _ _ => .done trivial)
      fun _ _ _ => trivial
  | executeNext => exact executeNext_custody
  | verifyTransactions =>
    exact (custody_quiet (verifyTransactions_keeps mayVerify_quiet cfg) 0).mono
      fun _ _ _ => trivial
  | expireBundles =>
    have hexpire : Keeps Op.Quiet Req.Quiet Mempool.expireBundles :=
      Mempool.expireBundles_keeps permits_quiet.toAnnounces trivial fun _ => trivial
    exact (custody_quiet hexpire 0).mono fun _ _ _ => trivial
  | _ => cases hl

/-! ## The boot -/

/-- The boot may queue a row that it judged. -/
theorem unlessSubmitted_custody (row : OperationsBundle) :
    Task.Triple host (custody l) {rowToken row} (unlessSubmitted row)
      fun r o => ∀ found, r = .ok found →
        o = (found.map fun row => ({.holds row.id} : Tokens)).getD 0 := by
  unfold unlessSubmitted rowToken
  split
  · have hlinks : Task.Triple host (custody l) {.judging row.id}
        (query (.findLinksByBundleId row.id)) fun r o => ∀ links : List BundleTransaction,
          r = .ok links → o = if links.length > 0 then 0 else {.holds row.id} := by
      refine .call (fun s f h _ => ?_) fun s f h _ e => ⟨_, fun _ he => (by cases he), h⟩
      have hjudging : Token.judging row.id ∈ {.judging row.id} + f := by simp
      have hnot : .boot ∉ {.judging row.id} + f := Custody.not_boot h hjudging fun he => by cases he
      by_cases hlinked : s.Linked row.id
      · refine ⟨0, fun links he => ?_, ?_⟩
        · have hlinks : (Query.findLinksByBundleId row.id).run s.db = links := Except.ok.inj he
          rw [if_pos]
          exact List.length_pos_iff.mpr (hlinks ▸ hlinked)
        · rw [zero_add]
          exact Custody.drop h (Multiset.le_add_left _ _)
      · refine ⟨{.holds row.id}, fun links he => ?_, ?_⟩
        · have hlinks : (Query.findLinksByBundleId row.id).run s.db = links := Except.ok.inj he
          have hnil : links = [] := hlinks ▸ not_not.mp hlinked
          rw [hnil, if_neg (by simp)]
        · have hclear : s.Clear row.id := (Custody.tokens h _ hjudging).resolve_right hlinked
          refine Custody.exchange h (fun hmem => hnot (Multiset.mem_add.mpr (.inr hmem)))
            (by simp [Token.ids]) (by simp [Token.hashes]) (fun t ht => ?_) (by simp)
          rw [Multiset.mem_singleton.mp ht]
          exact hclear
    refine hlinks.bind (fun links o ho => ?_) fun _ _ _ _ he => by cases he
    rw [ho links rfl]
    refine .done fun found he => ?_
    cases he
    split <;> rfl
  · refine .done fun found he => ?_
    cases he
    rfl

/-- What the boot loads may be queued. -/
theorem loadPendingBundlesFromDB_custody :
    Task.Triple host (custody l) {.boot} (loadPendingBundlesFromDB cfg)
      fun r o => ∀ bundles, r = .ok bundles →
        o = {.booting} + holdsAll (bundles.map (·.bundleId)) := by
  have h := permits_quiet
  have hread : Task.Triple host (custody l) {.boot} (query .findPendingOrProcessing)
      fun r o => ∀ rows : List OperationsBundle, r = .ok rows →
        o = {.booting} + (rows.map fun row => ({rowToken row} : Tokens)).sum := by
    refine .call (fun s f hs hmay => ?_) fun s f hs _ e => ⟨_, fun _ => nofun, hs⟩
    refine ⟨_, fun rows he => ?_, Custody.hydrate hs (hmay.2.2 rfl)⟩
    cases he
    rfl
  refine hread.bind (fun rows o ho => ?_) fun _ _ _ _ => nofun
  rw [ho rows rfl, add_comm]
  refine ((Task.Triple.collect_split fun row _ => unlessSubmitted_custody row).frame _).bind
    (fun found o ho => ?_) fun _ _ _ _ => nofun
  obtain ⟨o', ho', rfl⟩ := ho
  rw [ho' found rfl, sum_map_filterMap]
  have hparse (row : OperationsBundle) : Task.Triple host (custody l) {.holds row.id}
      (createSlotBundleFromEntity cfg row)
      fun r o => ∀ bundle, r = .ok bundle → o = {.holds bundle.bundleId} := by
    refine (custody_yields (createSlotBundleFromEntity_keeps h.toReads cfg row)
      (createSlotBundleFromEntity_yields row) _).mono fun r o ho bundle he => ?_
    rw [ho.1, ho.2 bundle he]
  refine ((Task.Triple.collect_split fun row _ => hparse row).frame _).mono
    fun r o ho bundles he => ?_
  obtain ⟨o', ho', rfl⟩ := ho
  rw [ho' bundles he, add_comm, holdsAll, List.map_map]
  rfl

theorem Call.launch_custody (fuel : Nat) :
    Task.Triple host (custody .launch) {.boot} (Call.launch.program cfg fuel) fun _ _ => True := by
  have h := permits_quiet
  have hexpiry : Keeps Op.Quiet Req.Quiet (Mempool.startupExpiry cfg fuel) :=
    Mempool.startupExpiry_keeps h.toReads (fun _ _ => trivial) cfg fuel
  refine Task.Triple.bind (B := fun r o => r = .ok () → o = {.booting}) ?_
    (fun _ o ho => ?_) fun _ _ _ => trivial
  · refine (custody_passes _).bind hexpiry (fun _ => ?_) fun _ => nofun
    refine loadPendingBundlesFromDB_custody.bind (fun bundles o ho => ?_) fun _ _ _ => nofun
    rw [ho bundles rfl, add_comm, holdsAll, List.map_map]
    refine ((Task.Triple.forEach_split fun b _ => addBundle_custody b).frame _).mono
      fun r o ho he => ?_
    obtain ⟨o', ho', rfl⟩ := ho
    rw [ho' he, zero_add]
  · rw [ho rfl]
    exact .op fun s f hs _ => ⟨0, trivial, by rw [zero_add]; exact Custody.setStarted hs⟩

end Triples

/-! ## Runs -/

section Runs
variable {cfg : Config} {fuel : Nat} {c c' : ProviderPool} {ch : ProviderChoice}

/-- A run that meets the condition respects the discipline. -/
theorem respects_custody : (provider cfg fuel).Respects custody
    fun c ch => SubmitsSafely c ch ∧ ServicesStarted c where
  run _ _ _ _ _ _ _ _ := trivial
  serve c i l q k hg ht := by
    have hstarted := hg.2 (l, .await q k) (List.mem_of_getElem? ht)
    have hserved : (Choice.serve i : ProviderChoice).served c = some (l, q) := by
      simp [Choice.served, ht]
    refine ⟨hstarted, fun hl hfails => ?_, fun hh => hg.1.2 (l, q) hserved hh⟩
    refine hg.1.1 (l, q) ?_ hl
    simp [failed, Choice.rejected, hserved, hfails]
  reject c i e l q k hg ht := by
    have hstarted := hg.2 (l, .await q k) (List.mem_of_getElem? ht)
    refine ⟨hstarted, fun hl => hg.1.1 (l, q) ?_ hl⟩
    simp [failed, Choice.rejected, ht]

/-- **No double submission.** In every run of a provider that was launched on
no bundles, in which no call of the executor fails while a bundle of an
outstanding transaction is not linked to it, and no boot loads a row of an
outstanding transaction that is not PROCESSING and linked, bundles of an
outstanding transaction are never handed to the network again. -/
theorem no_double_submission (s : State) (hfresh : Fresh cfg s)
    (h : (provider cfg fuel).Run SubmitsSafely ((provider cfg fuel).init s) c) :
    NoDoubleSubmission c.state.history := by
  have hinit : ServicesStarted ((provider cfg fuel).init s) := by
    intro p hp hservice
    rw [List.mem_singleton.mp hp] at hservice
    cases hservice
  have hboot : Task.Triple host (custody .launch) {.boot} (Call.launch.program cfg fuel)
      fun _ _ => True := Call.launch_custody fuel
  have howned : (provider cfg fuel).Owned custody Custody c := by
    refine (h.strengthen (fun c ch c' hc _ hs =>
        ServicesStarted.step (fun _ _ hl _ => (Bool.and_eq_true_iff.mp hl).1) hc hs) hinit).owned
      (K := custody) (fun _ => rfl) hboot (fun s l hstart => ?_) respects_custody (fun c d r _ hi => ?_)
      (fun c r _ hi => Custody.reboot hi cfg) (Machine.owned_init hboot hfresh.custody)
    · exact Call.service_custody fuel (Bool.and_eq_true_iff.mp hstart).2
    · exact Custody.quiet hi (drift_quiet d c.state)
  obtain ⟨r, hr⟩ := howned.holds
  exact hr.trace

end Runs

namespace Small

/-- The row of a submitted transaction cannot be inserted; the next tick
submits its bundle again. -/
def resubmitted : List ProviderChoice :=
  admitted ++ [.start .executeNext] ++ serves 2 12 ++ [.resume 2, .reject 2 (.database "down")] ++
    serves 2 6 ++ [.resume 2, .start .executeNext] ++ serves 3 6 ++ [.resume 3]

/-- A transaction is submitted and recorded, then the process is launched
again, loads its rows and runs a tick. -/
def relaunched : List ProviderChoice :=
  submitted ++ [.crash] ++ serves 0 2 ++ [.resume 0, .start .executeNext, .resume 1]

/-- The last entry hands over a bundle of the transaction returned before. -/
def handsAgain : List Submission → Bool
  | [.handed _ _ _, .returned _ ids, .handed _ _ bundles] =>
    bundles.any fun b => ids.contains b.bundleId
  | _ => false

end Small

/-- A failed insert after the submission leads to a second one. -/
theorem double_submission :
    ¬ ∀ (cfg : Config) (fuel : Nat) (s : State) (c : ProviderPool), Fresh cfg s →
      (provider cfg fuel).Run Machine.Free ((provider cfg fuel).init s) c →
      NoDoubleSubmission c.state.history := by
  intro h
  obtain ⟨c, hr, hp⟩ := Machine.exists_run_of_replay
    (M := provider Small.config 1) (G := Machine.Free)
    (c := (provider Small.config 1).init Small.state) Small.resubmitted
    (fun s => Small.handsAgain s.history) (by decide +kernel)
  have hnone := h _ _ _ c Small.fresh hr
  unfold Small.handsAgain at hp
  split at hp
  · rename_i ch pp bs hash ids ch' pp' bundles hhist
    obtain ⟨b, hb, hmem⟩ := List.any_eq_true.mp hp
    have hsplit : c.state.history =
        [.handed ch pp bs, .returned hash ids] ++ .handed ch' pp' bundles :: [] := hhist
    have hout : (hash, ids) ∈ outstanding [.handed ch pp bs, .returned hash ids] := by
      simp [outstanding, Submission.track]
    exact hnone _ _ _ _ _ hsplit b hb _ hout (by simpa using hmem)
  · cases hp

/-- The run that is launched again. -/
theorem no_double_submission_small :
    ∃ c : ProviderPool, c.state.history.length = 2 ∧ NoDoubleSubmission c.state.history := by
  obtain ⟨c, hr, hp⟩ := Machine.exists_run_of_replay
    (M := provider Small.config 1) (G := SubmitsSafely)
    (c := (provider Small.config 1).init Small.state) Small.relaunched
    (fun s => s.history.length == 2) (by decide +kernel)
  exact ⟨c, eq_of_beq hp, no_double_submission Small.state Small.fresh hr⟩

end ProviderPlatform
