import ProviderPlatform.Async.Flags
import ProviderPlatform.Executor.InHand
import ProviderPlatform.Mempool.Hydration
import ProviderPlatform.Mempool.StartupExpiry

/-! # What a boot recovers

`initialize` queues the active rows again, except for a PROCESSING row with a
link to any transaction: that one is left to the verifier, which only looks at
UNVERIFIED transactions. One row that does not parse, or one bundle that is
left over, rejects the whole boot. -/
namespace ProviderPlatform
open Async Store

/-- Held in one place of one slot. -/
def Mempool.HeldOnce (mempool : Mempool) (id : BundleId) : Prop := mempool.queuedIds.count id = 1

/-- The boot returned, and every row that is still PENDING or PROCESSING will be
looked at again; a soft-deleted row is none for the repository. -/
structure Recovered (outcome : Option (Except Err Unit)) (s : State) : Prop where
  returns : outcome = some (.ok ())
  settled : ∀ row ∈ s.db.operationsBundles.rows, row.isIn BundleStatus.active = true →
    s.memory.mempool.HeldOnce row.id ∨ s.Awaited row.id

/-- The guard of the hydration: a PROCESSING row with a link. -/
def Database.submitted (db : Database) (row : OperationsBundle) : Bool :=
  row.status == .processing && !((Query.findLinksByBundleId row.id).run db).isEmpty

/-- What a boot needs of an active row: a transaction that the verifier looks at
where the guard leaves the row to it, and operations that parse where it does not. -/
def State.Fit (cfg : Config) (s : State) (row : OperationsBundle) : Prop :=
  if s.db.submitted row then s.Awaited row.id
  else (parseOperations cfg row.operationsMLXDR).isOk = true

/-- The rows that the startup expiry ends. -/
def State.isAged (cfg : Config) (s : State) (row : OperationsBundle) : Bool :=
  decide (cfg.startupMaxBundleAgeMs > 0) &&
    row.isStale (s.clock - cfg.startupMaxBundleAgeMs) BundleStatus.active

/-- Every active row that the startup expiry leaves is fit. -/
def State.Recoverable (cfg : Config) (s : State) : Prop :=
  ∀ row ∈ s.db.operationsBundles.rows, row.isIn BundleStatus.active = true →
    s.isAged cfg row = false → s.Fit cfg row

instance (cfg : Config) (s : State) (row : OperationsBundle) : Decidable (s.Fit cfg row) :=
  inferInstanceAs (Decidable (if s.db.submitted row then ∃ transaction ∈ s.db.unverified,
    row.id ∈ s.db.linkedTo transaction.id else (parseOperations cfg row.operationsMLXDR).isOk = true))

instance (cfg : Config) (s : State) : Decidable (s.Recoverable cfg) :=
  inferInstanceAs (Decidable (∀ row ∈ s.db.operationsBundles.rows, _ → _ → s.Fit cfg row))

/-- A placement that leaves a bundle over, heavier than a slot. -/
def Spills : Step platform State → Prop
  | .ran s (.place bundle) => (s.memory.mempool.place bundle).1 = .slotFull
  | _ => False

def spillsTest : Step platform State → Bool
  | .ran s (.place bundle) => decide ((s.memory.mempool.place bundle).1 = .slotFull)
  | _ => false

theorem spillsTest_iff {st : Step platform State} : spillsTest st = true ↔ Spills st := by
  unfold spillsTest Spills
  split
  · exact decide_eq_true_iff
  · exact iff_of_false Bool.false_ne_true not_false

instance : DecidablePred Spills := fun _ => decidable_of_iff _ spillsTest_iff

/-- Not a placement. -/
def Op.PlacesNone : Op → Prop
  | .place _ => False
  | _ => True

/-- The triple of a part of the boot. -/
abbrev Boots {α : Type} (P : Prop → State → Prop) (t : Promise α) (B : α → Prop → State → Prop)
    (E : Prop → State → Prop) : Prop :=
  Task.Flags host Beat.Serves Spills P t (Task.Ends B E)

section Boot
variable {α : Type} {cfg : Config} {db₀ : Database} {mempool₀ : Mempool}

/-- A request, served. -/
theorem boots_call {q : Req} {P : Prop → State → Prop} {B : q.Ans → Prop → State → Prop}
    {E : Prop → State → Prop} (hpass : ∀ n d s, P d s → P d (host.pass n s))
    (h : ∀ d s, P d s → Task.Ends B E (serve q s).1 d (serve q s).2) :
    Boots P (Task.call (I := platform) q) B E := by
  refine Task.Flags.call (fun _ hb => hb.lives) hpass (fun d s hp => ?_) fun b e d s hb hfate _ => ?_
  · have hflag : (d ∨ Spills (.served s q)) = d := by simp [Spills]
    rw [hflag]
    exact h d s hp
  · rw [Beat.Serves, hfate] at hb
    cases hb

/-- What an operation other than a placement keeps. -/
theorem boots_run {o : Op} {P E : Prop → State → Prop} {B : o.Out → Prop → State → Prop}
    (ho : o.PlacesNone) (h : ∀ d s, P d s → B (runOp o s).1 d (runOp o s).2) :
    Boots P (run o) B E := by
  refine .op fun d s hp => ?_
  have hflag : (d ∨ Spills (.ran s o)) = d := by
    cases o with
    | place bundle => exact ho.elim
    | _ => simp [Spills]
  rw [hflag]
  exact h d s hp

/-- The flag is down, the database and the queue are as given. -/
structure AsFound (db₀ : Database) (mempool₀ : Mempool) (d : Prop) (s : State) : Prop where
  down : ¬ d
  db : s.db = db₀
  mempool : s.memory.mempool = mempool₀

/-- No outcome of the boot. -/
abbrev Nowhere : Prop → State → Prop := fun _ _ => False

theorem boots_query (q : Query) :
    Boots (AsFound db₀ mempool₀) (query q)
      (fun a d s => AsFound db₀ mempool₀ d s ∧ a = q.run db₀) Nowhere := by
  refine boots_call (q := .query q) (fun _ _ _ h => ⟨h.down, h.db, h.mempool⟩) fun d s h => ?_
  exact ⟨h, by rw [← h.db]⟩

theorem boots_never {t : Promise α} {P E : Prop → State → Prop} {B : α → Prop → State → Prop}
    (h : Boots P t B Nowhere) : Boots P t B E :=
  h.mono (fun _ _ hp => hp) fun r _ _ hr => by
    cases r with
    | ok => exact hr
    | error => exact hr.elim

/-! ## Hydration -/

/-- The row, unless the guard leaves it to the verifier. -/
def Database.held (db : Database) (row : OperationsBundle) : Option OperationsBundle :=
  if db.submitted row then none else some row

/-- The rows that are hydrated. -/
def Database.resubmittable (db : Database) : List OperationsBundle :=
  (Query.findPendingOrProcessing.run db).filterMap db.held

theorem mem_resubmittable {db : Database} {row : OperationsBundle} :
    row ∈ db.resubmittable ↔ row ∈ db.operationsBundles.rows ∧
      row.isIn BundleStatus.active = true ∧ db.submitted row = false := by
  unfold Database.resubmittable Database.held
  simp [Query.run, Table.mem_select, and_assoc]

theorem resubmittable_sublist (db : Database) :
    db.resubmittable.Sublist db.operationsBundles.rows := by
  have hheld : db.held = Option.guard fun row => !db.submitted row := by
    funext row
    cases hs : db.submitted row <;> simp [Database.held, Option.guard, hs]
  rw [Database.resubmittable, hheld, List.filterMap_eq_filter]
  exact List.filter_sublist.trans List.filter_sublist

theorem boots_unlessSubmitted (row : OperationsBundle) :
    Boots (AsFound db₀ mempool₀) (unlessSubmitted row)
      (fun kept d s => AsFound db₀ mempool₀ d s ∧ kept = db₀.held row) Nowhere := by
  unfold unlessSubmitted
  split
  · rename_i hprocessing
    refine (boots_query _).bind fun links => .pure fun d s h => ⟨h.1, ?_⟩
    rw [h.2]
    cases hlinks : (Query.findLinksByBundleId row.id).run db₀ with
    | nil => simp [Database.held, Database.submitted, hprocessing, hlinks]
    | cons link links => simp [Database.held, Database.submitted, hprocessing, hlinks]
  · rename_i hpending
    refine .pure fun d s h => ⟨h, ?_⟩
    simp [Database.held, Database.submitted, hpending]

theorem boots_lookupSubmitter (pubkey : Option AccountId) :
    Boots (AsFound db₀ mempool₀) (lookupSubmitter pubkey) (fun _ => AsFound db₀ mempool₀)
      Nowhere := by
  unfold lookupSubmitter
  split
  · exact .pure fun _ _ h => h
  · refine (boots_query _).bind fun account => ?_
    cases account with
    | none => exact .pure fun _ _ h => h.1
    | some account =>
      refine Task.Flags.bind ((boots_query _).mono (fun _ _ h => h.1) fun _ _ _ h => h) fun entity => ?_
      cases entity with
      | none => exact .pure fun _ _ h => h.1
      | some entity => exact .pure fun _ _ h => h.1

/-- A row is hydrated exactly if its operations parse. -/
theorem boots_createSlotBundleFromEntity (row : OperationsBundle) :
    Boots (AsFound db₀ mempool₀) (createSlotBundleFromEntity cfg row)
      (fun bundle d s => AsFound db₀ mempool₀ d s ∧ bundle.bundleId = row.id ∧
        (parseOperations cfg row.operationsMLXDR).isOk = true)
      fun _ _ => (parseOperations cfg row.operationsMLXDR).isOk = false := by
  have hparse : Boots (AsFound db₀ mempool₀)
      (Task.done (I := platform) (parseOperations cfg row.operationsMLXDR))
      (fun _ d s => AsFound db₀ mempool₀ d s ∧
        (parseOperations cfg row.operationsMLXDR).isOk = true)
      (fun _ _ => (parseOperations cfg row.operationsMLXDR).isOk = false) := by
    refine .done fun d s h => ?_
    cases parseOperations cfg row.operationsMLXDR with
    | ok operations => exact ⟨h, rfl⟩
    | error e => rfl
  refine hparse.bind fun operations => ?_
  refine Task.Flags.of_imp (fun _ _ h => h.2) fun hok => ?_
  have hnow : Boots (fun d s => AsFound db₀ mempool₀ d s ∧
      (parseOperations cfg row.operationsMLXDR).isOk = true) (run .now)
      (fun _ => AsFound db₀ mempool₀)
      fun _ _ => (parseOperations cfg row.operationsMLXDR).isOk = false :=
    boots_run (o := .now) trivial fun _ _ h => h.1
  refine hnow.bind fun now => ?_
  exact (boots_never (boots_lookupSubmitter row.createdBy)).bind fun submitter =>
    .pure fun d s h => ⟨h, rfl, hok⟩

/-- Rows that do not parse keep the boot from going on, whichever come first. -/
theorem boots_hydrate (rows : List OperationsBundle) :
    Boots (AsFound db₀ mempool₀) (Task.collect (I := platform) (createSlotBundleFromEntity cfg) rows)
      (fun bundles d s => AsFound db₀ mempool₀ d s ∧
        bundles.map (·.bundleId) = rows.map (·.id) ∧
        ∀ row ∈ rows, (parseOperations cfg row.operationsMLXDR).isOk = true)
      fun _ _ => ∃ row ∈ rows, (parseOperations cfg row.operationsMLXDR).isOk = false := by
  let J (bundles : List SlotBundle) (rest : List OperationsBundle) (d : Prop) (s : State) : Prop :=
    AsFound db₀ mempool₀ d s ∧ ∃ done, done ++ rest = rows ∧
      bundles.map (·.bundleId) = done.map (·.id) ∧
      ∀ row ∈ done, (parseOperations cfg row.operationsMLXDR).isOk = true
  have hstep (bundles : List SlotBundle) (row : OperationsBundle) (rest : List OperationsBundle) :
      Boots (J bundles (row :: rest)) (createSlotBundleFromEntity cfg row)
        (fun bundle => J (bundles ++ [bundle]) rest)
        (fun _ _ => ∃ row ∈ rows, (parseOperations cfg row.operationsMLXDR).isOk = false) := by
    refine Task.Flags.of_imp (fun _ _ h => h.2) ?_
    rintro ⟨done, hrows, hids, hparsed⟩
    refine (boots_createSlotBundleFromEntity row).mono (fun _ _ h => h.1) fun r d s h => ?_
    cases r with
    | ok bundle =>
      obtain ⟨hs, hid, hparse⟩ := h
      refine ⟨hs, done ++ [row], ?_, ?_, ?_⟩
      · rw [List.append_assoc]
        exact hrows
      · simp [hids, hid]
      · simpa [or_imp, forall_and, hparse] using hparsed
    | error e => exact ⟨row, by simp [← hrows], h⟩
  have hloop : Boots (J [] rows) (Task.collect (createSlotBundleFromEntity cfg) rows)
      (fun bundles => J ([] ++ bundles) [])
      (fun _ _ => ∃ row ∈ rows, (parseOperations cfg row.operationsMLXDR).isOk = false) :=
    Task.Flags.collect (J := J) hstep
  refine hloop.mono (fun d s h => ⟨h, [], rfl, rfl, by simp⟩) fun r d s h => ?_
  cases r with
  | ok bundles =>
    obtain ⟨hs, done, hrows, hids, hparsed⟩ := h
    rw [List.append_nil] at hrows
    subst hrows
    exact ⟨hs, hids, hparsed⟩
  | error e => exact h

theorem boots_loadPendingBundlesFromDB :
    Boots (AsFound db₀ mempool₀) (loadPendingBundlesFromDB cfg)
      (fun bundles d s => AsFound db₀ mempool₀ d s ∧
        bundles.map (·.bundleId) = db₀.resubmittable.map (·.id) ∧
        ∀ row ∈ db₀.resubmittable, (parseOperations cfg row.operationsMLXDR).isOk = true)
      fun _ _ => ∃ row ∈ db₀.resubmittable,
        (parseOperations cfg row.operationsMLXDR).isOk = false := by
  let rows := Query.findPendingOrProcessing.run db₀
  let J (kept : List (Option OperationsBundle)) (rest : List OperationsBundle) (d : Prop)
      (s : State) : Prop := AsFound db₀ mempool₀ d s ∧ kept ++ rest.map db₀.held = rows.map db₀.held
  have hstep (kept : List (Option OperationsBundle)) (row : OperationsBundle)
      (rest : List OperationsBundle) :
      Boots (J kept (row :: rest)) (unlessSubmitted row) (fun k => J (kept ++ [k]) rest)
        (fun _ _ => ∃ row ∈ db₀.resubmittable,
          (parseOperations cfg row.operationsMLXDR).isOk = false) := by
    refine Task.Flags.of_imp (fun _ _ h => h.2) fun hkept => ?_
    refine (boots_unlessSubmitted row).mono (fun _ _ h => h.1) fun r d s h => ?_
    cases r with
    | ok k =>
      obtain ⟨hs, rfl⟩ := h
      refine ⟨hs, ?_⟩
      rw [List.append_assoc]
      exact hkept
    | error e => exact h.elim
  refine (boots_never (boots_query .findPendingOrProcessing)).bind fun bundles => ?_
  refine Task.Flags.of_imp (fun _ _ h => h.2) fun hbundles => ?_
  subst hbundles
  have hguard : Boots (J [] rows) (Task.collect unlessSubmitted rows) (fun kept => J ([] ++ kept) [])
      (fun _ _ => ∃ row ∈ db₀.resubmittable,
        (parseOperations cfg row.operationsMLXDR).isOk = false) :=
    Task.Flags.collect (J := J) hstep
  refine Task.Flags.bind (hguard.mono (fun _ _ h => ⟨h.1, rfl⟩) fun _ _ _ h => h) fun kept => ?_
  refine Task.Flags.of_imp (fun _ _ h => h.2) fun hkept => ?_
  have hrows : kept.filterMap id = db₀.resubmittable := by
    rw [List.nil_append, List.map_nil, List.append_nil] at hkept
    rw [hkept, List.filterMap_map]
    rfl
  rw [hrows]
  exact (boots_hydrate db₀.resubmittable).mono (fun _ _ h => h.1) fun _ _ _ h => h

end Boot

/-! ## Adding the bundles -/

/-- The row is PENDING or PROCESSING. -/
def State.Active (s : State) (id : BundleId) : Prop :=
  ∃ row, s.db.operationsBundles.find id = some row ∧ row.isIn BundleStatus.active = true

/-- How the boot stands while it has still to add the bundles `rest` of `ids`: the
rows of those are active, the queue holds the others that are, and whatever is
not of `ids` is as the boot found it. -/
structure Boarding (db₀ : Database) (ids rest : List BundleId) (s : State) : Prop where
  transactions : s.db.transactions = db₀.transactions
  links : s.db.bundlesTransactions = db₀.bundlesTransactions
  others : ∀ id, id ∉ ids → s.db.operationsBundles.find id = db₀.operationsBundles.find id
  waiting : ∀ id ∈ rest, s.Active id
  apart : (rest ++ s.memory.mempool.queuedIds).Nodup
  among : ∀ id ∈ rest ++ s.memory.mempool.queuedIds, id ∈ ids
  boarded : ∀ id ∈ ids, s.Active id → id ∈ rest ++ s.memory.mempool.queuedIds

section Boarding
variable {α : Type} {cfg : Config} {db₀ : Database} {ids rest : List BundleId} {x : BundleId}
  {s s' : State} {bundle : SlotBundle}

/-- What neither writes the rows nor moves the queue. -/
theorem Boarding.same (h : Boarding db₀ ids rest s) (hdb : s'.db = s.db)
    (hmempool : s'.memory.mempool = s.memory.mempool) : Boarding db₀ ids rest s' := by
  obtain ⟨clock, db, network, memory, history, events⟩ := s'
  subst hdb
  refine ⟨h.transactions, h.links, h.others, h.waiting, ?_, ?_, ?_⟩
  · rw [hmempool]
    exact h.apart
  · rw [hmempool]
    exact h.among
  · rw [hmempool]
    exact h.boarded

theorem Rewrote.active {id : BundleId} (h : Rewrote x s s') (hne : id ≠ x) :
    s'.Active id ↔ s.Active id := by
  unfold State.Active
  rw [h.others id hne]

theorem State.Ended.not_active {id : BundleId} (h : s.Ended id) : ¬ s.Active id := by
  rintro ⟨row, hrow, hin⟩
  obtain ⟨row', hrow', hended⟩ := h
  rw [hrow] at hrow'
  cases hrow'
  have hactive := (Bool.and_eq_true_iff.mp hin).2
  exact hended (by simpa using hactive)

theorem State.Active.live {id : BundleId} (h : s.Active id) : s.Live id := by
  obtain ⟨row, hrow, hin⟩ := h
  refine live_iff.mpr ⟨row, hrow, ?_⟩
  simpa using (Bool.and_eq_true_iff.mp hin).1

/-- A write of the row of a bundle that has been added. -/
theorem Boarding.wrote (h : Boarding db₀ ids rest s) (hw : Rewrote x s s') (hx : x ∈ ids)
    (hnot : x ∉ rest) (hactive : s.Active x) : Boarding db₀ ids rest s' := by
  have hqueue : s'.memory.mempool.queuedIds = s.memory.mempool.queuedIds := by rw [hw.mempool]
  refine ⟨hw.transactions.trans h.transactions, hw.links.trans h.links, fun id hid => ?_,
    fun id hid => ?_, hqueue ▸ h.apart, hqueue ▸ h.among, fun id hid ha => ?_⟩
  · exact (hw.others id fun he => hid (he ▸ hx)).trans (h.others id hid)
  · exact (hw.active fun he => hnot (he ▸ hid)).mpr (h.waiting id hid)
  · rw [hqueue]
    by_cases he : id = x
    · exact h.boarded id hid (he ▸ hactive)
    · exact h.boarded id hid ((hw.active he).mp ha)

/-- A write that ends the row of the bundle whose turn it is. -/
theorem Boarding.endRow (h : Boarding db₀ ids (x :: rest) s) (hw : Rewrote x s s')
    (hended : s'.Ended x) : Boarding db₀ ids rest s' := by
  have hqueue : s'.memory.mempool.queuedIds = s.memory.mempool.queuedIds := by rw [hw.mempool]
  have hx : x ∈ ids := h.among x List.mem_cons_self
  obtain ⟨hnot, hapart⟩ := List.nodup_cons.mp h.apart
  refine ⟨hw.transactions.trans h.transactions, hw.links.trans h.links, fun id hid => ?_,
    fun id hid => ?_, hqueue ▸ hapart, fun id hid => ?_, fun id hid ha => ?_⟩
  · exact (hw.others id fun he => hid (he ▸ hx)).trans (h.others id hid)
  · have hne : id ≠ x := fun he => hnot (List.mem_append_left _ (he ▸ hid))
    exact (hw.active hne).mpr (h.waiting id (.tail x hid))
  · rw [hqueue] at hid
    exact h.among id (.tail x hid)
  · have hne : id ≠ x := fun he => hended.not_active (he ▸ ha)
    rw [hqueue]
    exact (List.mem_cons.mp (h.boarded id hid ((hw.active hne).mp ha))).resolve_left hne

theorem Boarding.place (h : Boarding db₀ ids (bundle.bundleId :: rest) s)
    (hfits : (s.memory.mempool.place bundle).1 ≠ .slotFull) :
    Boarding db₀ ids rest (runOp (.place bundle) s).2 ∧ bundle.bundleId ∉ rest ∧
      bundle.bundleId ∈ ids ∧ (runOp (.place bundle) s).2.Active bundle.bundleId := by
  have hqueued : (runOp (.place bundle) s).2.memory.mempool.queuedIds.Perm
      (bundle.bundleId :: s.memory.mempool.queuedIds) := (Mempool.place_perm hfits).map _
  have hall : (rest ++ (runOp (.place bundle) s).2.memory.mempool.queuedIds).Perm
      (bundle.bundleId :: rest ++ s.memory.mempool.queuedIds) :=
    (hqueued.append_left rest).trans List.perm_middle
  obtain ⟨hnot, -⟩ := List.nodup_cons.mp h.apart
  refine ⟨⟨h.transactions, h.links, h.others, fun id hid => h.waiting id (.tail _ hid),
    hall.nodup_iff.mpr h.apart, fun id hid => h.among id (hall.mem_iff.mp hid),
    fun id hid ha => hall.mem_iff.mpr (h.boarded id hid ha)⟩, fun hmem => ?_, ?_, ?_⟩
  · exact hnot (List.mem_append_left _ hmem)
  · exact h.among _ List.mem_cons_self
  · exact h.waiting _ List.mem_cons_self

/-- The flag is down, and the boot stands so. -/
abbrev Aboard (db₀ : Database) (ids rest : List BundleId) (d : Prop) (s : State) : Prop :=
  ¬ d ∧ Boarding db₀ ids rest s

/-- Events are announced without a write. -/
theorem boots_emitForPp {P : Prop → State → Prop}
    (hsame : ∀ d s s', P d s → s'.db = s.db → s'.memory.mempool = s.memory.mempool → P d s')
    (pp : PublicKey) (payload : EventPayload) :
    Boots P (emitForPp pp payload) (fun _ => P) Nowhere := by
  have hscope : Boots P (emitInScope payload pp) (fun _ => P) Nowhere := by
    have hread : Boots P (query (.resolveScopeForPp pp)) (fun _ => P) Nowhere :=
      boots_call (q := .query _) (fun n d s h => hsame d s _ h rfl rfl) fun _ _ h => h
    refine hread.bind fun scope => ?_
    cases scope with
    | none => exact .pure fun _ _ h => h
    | some scope => exact boots_run (o := .emit _ _) trivial fun d s h => hsame d s _ h rfl rfl
  unfold emitForPp
  split
  · exact .pure fun _ _ h => h
  · exact hscope.recover (fun _ => .pure fun _ _ h => h.elim) fun _ _ _ h => h

theorem boots_markExpired (bundle : SlotBundle) :
    Boots (Aboard db₀ ids (bundle.bundleId :: rest)) (Mempool.markExpired bundle)
      (fun _ => Aboard db₀ ids rest) Nowhere := by
  have hwrite : Boots (Aboard db₀ ids (bundle.bundleId :: rest))
      (command (.updateBundle bundle.bundleId { status := some .expired }))
      (fun _ => Aboard db₀ ids rest) Nowhere := by
    refine boots_call (q := .command _) (fun n d s h => ⟨h.1, h.2.same rfl rfl⟩) fun d s h => ?_
    have hactive : s.Active bundle.bundleId := h.2.waiting _ List.mem_cons_self
    have hended : (serve (.command (.updateBundle bundle.bundleId
        { status := some .expired })) s).2.Ended bundle.bundleId :=
      updateBundle_ends hactive.live rfl (by decide)
    exact ⟨h.1, h.2.endRow (wrote_updateBundle s _ _) hended⟩
  exact hwrite.bind fun _ =>
    boots_emitForPp (fun d s s' h hdb hmempool => ⟨h.1, h.2.same hdb hmempool⟩) _ _

/-- The row of a bundle that was placed is still active. -/
theorem boots_activate (bundle : SlotBundle) :
    Boots (fun d s => Aboard db₀ ids rest d s ∧ bundle.bundleId ∉ rest ∧ bundle.bundleId ∈ ids ∧
        s.Active bundle.bundleId)
      (Mempool.activate bundle) (fun _ => Aboard db₀ ids rest) Nowhere := by
  have hwrite : Boots (fun d s => Aboard db₀ ids rest d s ∧ bundle.bundleId ∉ rest ∧
        bundle.bundleId ∈ ids ∧ s.Active bundle.bundleId)
      (command (.updateStatusIfActive bundle.bundleId .processing BundleStatus.active))
      (fun updated d s => Aboard db₀ ids rest d s ∧ updated = true) Nowhere := by
    refine boots_call (q := .command _) (fun n d s h => ⟨⟨h.1.1, h.1.2.same rfl rfl⟩, h.2⟩)
      fun d s h => ?_
    obtain ⟨⟨hd, hs⟩, hnot, hx, hactive⟩ := h
    refine ⟨⟨hd, hs.wrote (wrote_updateStatusIfActive s _ _) hx hnot hactive⟩, ?_⟩
    obtain ⟨row, hrow, hin⟩ := hactive
    exact (select_gated hrow _).trans hin
  refine Task.Flags.recover (B := fun _ => Aboard db₀ ids rest) (E := Nowhere)
    (hwrite.bind fun updated => ?_) (fun _ => .of_imp (fun _ _ h => h) False.elim) fun _ _ _ h => h
  refine Task.Flags.of_imp (fun _ _ h => h.2) fun hupdated => ?_
  rw [if_pos hupdated]
  exact .pure fun _ _ h => h.1

/-- A bundle is added, or it spills. -/
theorem boots_addBundle (bundle : SlotBundle) :
    Boots (Aboard db₀ ids (bundle.bundleId :: rest)) (Mempool.addBundle cfg bundle)
      (fun _ => Aboard db₀ ids rest) fun d _ => d := by
  have hnow : Boots (Aboard db₀ ids (bundle.bundleId :: rest)) (run .now)
      (fun _ => Aboard db₀ ids (bundle.bundleId :: rest)) fun d _ => d :=
    boots_run (o := .now) trivial fun _ _ h => h
  refine hnow.bind fun now => ?_
  split
  · exact boots_never (boots_markExpired bundle)
  have hplace : Boots (Aboard db₀ ids (bundle.bundleId :: rest)) (run (.place bundle))
      (fun placement d s => (placement = .slotFull ∧ d) ∨ placement ≠ .slotFull ∧
        Aboard db₀ ids rest d s ∧ bundle.bundleId ∉ rest ∧ bundle.bundleId ∈ ids ∧
          s.Active bundle.bundleId) fun d _ => d := by
    refine .op fun d s h => ?_
    by_cases hfull : (s.memory.mempool.place bundle).1 = .slotFull
    · exact .inl ⟨hfull, .inr hfull⟩
    · obtain ⟨hs, hadded⟩ := h.2.place hfull
      refine .inr ⟨hfull, ⟨?_, hs⟩, hadded⟩
      rintro (hd | hspill)
      · exact h.1 hd
      · exact hfull hspill
  refine hplace.bind fun placement => ?_
  have hadded (newSlot : Bool) : Boots
      (fun d s => Aboard db₀ ids rest d s ∧ bundle.bundleId ∉ rest ∧ bundle.bundleId ∈ ids ∧
        s.Active bundle.bundleId)
      (do
        emitForPp bundle.ppPublicKey (Mempool.bundleAddedPayload bundle newSlot)
        Mempool.activate bundle)
      (fun _ => Aboard db₀ ids rest) fun d _ => d := by
    have hemit := boots_emitForPp (P := fun d s => Aboard db₀ ids rest d s ∧
        bundle.bundleId ∉ rest ∧ bundle.bundleId ∈ ids ∧ s.Active bundle.bundleId)
      (fun d s s' h hdb hmempool => by
        obtain ⟨⟨hd, hs⟩, hnot, hx, hactive⟩ := h
        refine ⟨⟨hd, hs.same hdb hmempool⟩, hnot, hx, ?_⟩
        unfold State.Active
        rw [hdb]
        exact hactive) bundle.ppPublicKey (Mempool.bundleAddedPayload bundle newSlot)
    exact boots_never (hemit.bind fun _ => boots_activate bundle)
  cases placement with
  | existingSlot => exact (hadded false).mono (fun d s h => by simpa using h) fun _ _ _ h => h
  | newSlot => exact (hadded true).mono (fun d s h => by simpa using h) fun _ _ _ h => h
  | slotFull =>
    refine .fail fun d s h => ?_
    have hspilled : d := by simpa using h
    exact hspilled

theorem boots_addBundles (bundles : List SlotBundle) :
    Boots (Aboard db₀ ids (bundles.map (·.bundleId)))
      (Task.forEach (I := platform) (Mempool.addBundle cfg) bundles)
      (fun _ => Aboard db₀ ids []) fun d _ => d :=
  Task.Flags.forEach (J := fun rest => Aboard db₀ ids (rest.map (·.bundleId)))
    fun bundle _ => boots_addBundle bundle

end Boarding

/-! ## The startup expiry -/

section Startup
variable {cfg : Config} {s s' : State}

/-- The rows that are aged have ended, and nothing else has changed but times of
updates. -/
structure Aged (cfg : Config) (s s' : State) : Prop where
  transactions : s'.db.transactions = s.db.transactions
  links : s'.db.bundlesTransactions = s.db.bundlesTransactions
  rows : s'.db.operationsBundles.rows.map (·.untimed) = s.db.operationsBundles.rows.map fun r =>
    (if s.isAged cfg r then r.set 0 { status := some .expired } else r).untimed
  memory : s'.memory = s.memory

theorem Aged.fit (h : Aged cfg s s') (row : OperationsBundle) : s'.Fit cfg row ↔ s.Fit cfg row := by
  have hsubmitted : s'.db.submitted row = s.db.submitted row := by
    simp only [Database.submitted, Query.run, h.links]
  have hawaited : s'.Awaited row.id ↔ s.Awaited row.id := by
    rw [awaited_iff, awaited_iff, h.transactions, h.links]
  unfold State.Fit
  rw [hsubmitted, hawaited]

/-- What the boot needs of the rows, before and after the expiry. -/
theorem Aged.recoverable (h : Aged cfg s s') :
    (∀ row ∈ s'.db.operationsBundles.rows, row.isIn BundleStatus.active = true →
      s'.Fit cfg row) ↔ s.Recoverable cfg := by
  let G (row : OperationsBundle) : Prop :=
    row.isIn BundleStatus.active = true → s'.Fit cfg row
  have htimed : (∀ row ∈ s'.db.operationsBundles.rows, G row) ↔
      ∀ row ∈ s'.db.operationsBundles.rows.map (·.untimed), G row :=
    (List.forall_mem_map (f := OperationsBundle.untimed) (P := G)).symm
  refine htimed.trans ?_
  rw [h.rows, List.forall_mem_map]
  refine forall₂_congr fun row _ => ?_
  cases haged : s.isAged cfg row with
  | true => simp [G, OperationsBundle.untimed, OperationsBundle.isIn, BundleStatus.active]
  | false =>
    have hfit := h.fit row
    simp only [Bool.false_eq_true, if_false, forall_const]
    exact imp_congr_right fun _ => hfit

theorem expireStale_eval {cutoff : Time} {fuel : Nat} {bs : List (Beat Err)}
    (hserves : ∀ b ∈ bs, Beat.Serves b)
    (hfuel : (s.db.stale cutoff BundleStatus.active).length / Mempool.startupExpiryBatchLimit <
      fuel) :
    ∃ bs' s', (Mempool.expireStale cutoff fuel).eval host bs s = (some (.ok ()), bs', s') ∧
      s'.db.untimed = (s.db.expireOlderThan 0 cutoff BundleStatus.active none).2.untimed ∧
      s'.memory = s.memory := by
  have hlimit : 0 < Mempool.startupExpiryBatchLimit := by decide
  obtain ⟨bs', s', heval, hleft⟩ :=
    Mempool.expireBatches_eval hlimit cutoff 0 fuel 0 hserves hfuel
  refine ⟨bs', s', ?_, hleft⟩
  rw [Mempool.expireStale_eq cutoff fuel 0, Task.eval_bind_ok host heval]
  rfl

theorem startupExpiry_eval {fuel : Nat} {bs : List (Beat Err)} (hserves : ∀ b ∈ bs, Beat.Serves b)
    (hfuel : (s.db.stale (s.clock - cfg.startupMaxBundleAgeMs) BundleStatus.active).length /
      Mempool.startupExpiryBatchLimit < fuel) :
    ∃ bs' s', (Mempool.startupExpiry cfg fuel).eval host bs s = (some (.ok ()), bs', s') ∧
      Aged cfg s s' := by
  unfold Mempool.startupExpiry
  split
  · rename_i henabled
    obtain ⟨bs', s', heval, hdb, hmemory⟩ := expireStale_eval hserves hfuel
    have hnow : (run .now).eval host bs s = (some (.ok s.clock), bs, s) := rfl
    refine ⟨bs', s', ?_, ?_, ?_, ?_, hmemory⟩
    · rw [Task.eval_bind_ok host hnow]
      exact heval
    · exact congrArg (·.transactions) hdb
    · exact congrArg (·.bundlesTransactions) hdb
    · have hrows := congrArg (·.operationsBundles.rows) hdb
      refine hrows.trans ((Database.rows_expireOlderThan ..).trans ?_)
      refine List.map_congr_left fun row _ => ?_
      simp [State.isAged, henabled]
  · rename_i hdisabled
    refine ⟨bs, s, rfl, rfl, rfl, ?_, rfl⟩
    refine List.map_congr_left fun row _ => ?_
    simp [State.isAged, hdisabled]

/-- What places nothing spills nothing. -/
theorem spills_none {α : Type} {t : Promise α} (ht : Keeps Op.PlacesNone (fun _ => True) t)
    {bs : List (Beat Err)} (hserves : ∀ b ∈ bs, Beat.Serves b) :
    ∀ st ∈ t.trace host bs s, ¬ Spills st := by
  have hflags : Task.Flags host Beat.Serves Spills (fun d _ => ¬ d) t fun _ d _ => ¬ d := by
    refine Task.Flags.of_uses (fun _ hb => hb.lives) (fun o d s ho hd => ?_) (fun q d s _ hd => ?_)
      (fun _ _ _ hd => hd) ht
    · cases o with
      | place bundle => exact ho.elim
      | _ => simpa [Spills] using hd
    · have hnone : ¬ (d ∨ False) := by simpa using hd
      exact ⟨hnone, fun _ => hnone⟩
  obtain ⟨r, -, hdown⟩ := hflags bs s False hserves not_false
  simpa using hdown

theorem placesNone_reads : Reads Op.PlacesNone fun _ => True :=
  ⟨fun _ => trivial, fun _ => trivial, trivial⟩

end Startup

/-! ## The result -/

/-- What the boot comes to on a state. -/
def BootRecovers (cfg : Config) (fuel : Nat) (bs : List (Beat Err)) (s : State) : Prop :=
  Recovered ((Mempool.initializeMempool cfg fuel).eval host bs s).1
    ((Mempool.initializeMempool cfg fuel).eval host bs s).2.2

/-- The boot after its startup expiry. -/
def loadMempool (cfg : Config) : Promise Unit := do
  let bundles ← loadPendingBundlesFromDB cfg
  Task.forEach (I := platform) (Mempool.addBundle cfg) bundles

section Result
variable {cfg : Config} {db₀ : Database} {capacity : Nat}

theorem boots_loadMempool :
    Boots (AsFound db₀ (.new capacity)) (loadMempool cfg)
      (fun _ d s => Aboard db₀ (db₀.resubmittable.map (·.id)) [] d s ∧
        ∀ row ∈ db₀.resubmittable, (parseOperations cfg row.operationsMLXDR).isOk = true)
      fun d _ => d ∨ ∃ row ∈ db₀.resubmittable,
        (parseOperations cfg row.operationsMLXDR).isOk = false := by
  have hload : Boots (AsFound db₀ (.new capacity)) (loadPendingBundlesFromDB cfg)
      (fun bundles d s => AsFound db₀ (.new capacity) d s ∧
        bundles.map (·.bundleId) = db₀.resubmittable.map (·.id) ∧
        ∀ row ∈ db₀.resubmittable, (parseOperations cfg row.operationsMLXDR).isOk = true)
      fun d _ => d ∨ ∃ row ∈ db₀.resubmittable,
        (parseOperations cfg row.operationsMLXDR).isOk = false :=
    boots_loadPendingBundlesFromDB.mono (fun _ _ h => h) fun r d s h => by
      cases r with
      | ok => exact h
      | error => exact .inr h
  refine hload.bind fun bundles => ?_
  refine Task.Flags.of_imp (fun _ _ h => h.2) fun hbundles => ?_
  obtain ⟨hids, hparsed⟩ := hbundles
  have hadd : Boots (Aboard db₀ (db₀.resubmittable.map (·.id)) (bundles.map (·.bundleId)))
      (Task.forEach (Mempool.addBundle cfg) bundles)
      (fun _ => Aboard db₀ (db₀.resubmittable.map (·.id)) []) fun d _ => d :=
    boots_addBundles bundles
  refine hadd.mono (fun d s h => ⟨h.1.down, ?_⟩) fun r d s h => ?_
  · have hempty : s.memory.mempool.queuedIds = [] := by rw [h.1.mempool]; rfl
    have hdb : s.db = db₀ := h.1.db
    rw [hids]
    refine ⟨by rw [hdb], by rw [hdb], fun _ _ => by rw [hdb], fun id hid => ?_, ?_, ?_, ?_⟩
    · obtain ⟨row, hrow, rfl⟩ := List.mem_map.mp hid
      obtain ⟨hmem, hin, -⟩ := mem_resubmittable.mp hrow
      exact ⟨row, by rw [hdb]; exact Table.find_of_mem hmem, hin⟩
    · rw [hempty, List.append_nil]
      exact db₀.operationsBundles.nodup.sublist ((resubmittable_sublist db₀).map _)
    · rw [hempty, List.append_nil]
      exact fun _ h => h
    · rw [hempty, List.append_nil]
      exact fun _ h _ => h
  · cases r with
    | ok => exact ⟨h, hparsed⟩
    | error => exact .inl h

/-- What the boot ends in, where it is known to end so. -/
theorem recovered_iff {s₁ s : State} {d : Prop} {r : Except Err Unit} (hr : Task.Ends
      (fun _ d s => Aboard s₁.db (s₁.db.resubmittable.map (·.id)) [] d s ∧
        ∀ row ∈ s₁.db.resubmittable, (parseOperations cfg row.operationsMLXDR).isOk = true)
      (fun d _ => d ∨ ∃ row ∈ s₁.db.resubmittable,
        (parseOperations cfg row.operationsMLXDR).isOk = false) r d s) :
    Recovered (some r) s ↔ (∀ row ∈ s₁.db.operationsBundles.rows,
      row.isIn BundleStatus.active = true → s₁.Fit cfg row) ∧ ¬ d := by
  cases r with
  | error e =>
    refine iff_of_false (fun h => nomatch h.returns) ?_
    rintro ⟨hfit, hd⟩
    obtain ⟨row, hrow, hparse⟩ := hr.resolve_left hd
    obtain ⟨hmem, hin, hsubmitted⟩ := mem_resubmittable.mp hrow
    have hok := hfit row hmem hin
    rw [State.Fit, hsubmitted, if_neg Bool.false_ne_true, hparse] at hok
    cases hok
  | ok u =>
    obtain ⟨⟨hd, hs⟩, hparsed⟩ := hr
    have hawaited (id : BundleId) : s.Awaited id ↔ s₁.Awaited id := by
      rw [awaited_iff, awaited_iff, hs.transactions, hs.links]
    have hids {row : OperationsBundle} (hrow : row ∈ s₁.db.operationsBundles.rows) :
        row.id ∈ s₁.db.resubmittable.map (·.id) → row ∈ s₁.db.resubmittable := by
      intro hid
      obtain ⟨row', hrow', hkey⟩ := List.mem_map.mp hid
      have hmem := (mem_resubmittable.mp hrow').1
      exact Table.eq_of_key_eq hmem hrow hkey ▸ hrow'
    constructor
    · intro h
      refine ⟨fun row hrow hin => ?_, hd⟩
      unfold State.Fit
      split
      · -- The guard left the row alone: it is as it was, and nowhere in the queue.
        rename_i hsubmitted
        have hout : row.id ∉ s₁.db.resubmittable.map (·.id) := fun hid => by
          have hnot := (mem_resubmittable.mp (hids hrow hid)).2.2
          rw [hsubmitted] at hnot
          cases hnot
        have hfind := (hs.others row.id hout).trans (Table.find_of_mem hrow)
        obtain hheld | hlinked := h.settled row (Table.find_mem hfind) hin
        · refine absurd (hs.among row.id ?_) hout
          refine List.count_pos_iff.mp ?_
          rw [List.nil_append]
          exact hheld.symm ▸ Nat.one_pos
        · exact (hawaited row.id).mp hlinked
      · rename_i hheld
        exact hparsed row (mem_resubmittable.mpr ⟨hrow, hin, by simpa using hheld⟩)
    · rintro ⟨hfit, -⟩
      refine ⟨rfl, fun row hrow hin => ?_⟩
      by_cases hid : row.id ∈ s₁.db.resubmittable.map (·.id)
      · refine .inl (List.count_eq_one_of_mem hs.apart ?_)
        exact hs.boarded row.id hid ⟨row, Table.find_of_mem hrow, hin⟩
      · have hfind := (hs.others row.id hid).symm.trans (Table.find_of_mem hrow)
        have hmem := Table.find_mem hfind
        have hsubmitted : s₁.db.submitted row = true := by
          by_contra hnot
          refine hid (List.mem_map_of_mem (mem_resubmittable.mpr ⟨hmem, hin, ?_⟩))
          simpa using hnot
        have hok := hfit row hmem hin
        rw [State.Fit, hsubmitted, if_pos rfl] at hok
        exact .inr ((hawaited row.id).mpr hok)

end Result

/-- **Restart recovery.** A boot on whatever a crash left, with no failing call,
returns and leaves no active row behind exactly when every active row that the
startup expiry leaves is fit, and no placement leaves a bundle over. -/
theorem boot_recovers_iff (cfg : Config) (fuel : Nat) (s : State) (bs : List (Beat Err))
    (hboot : s.memory = .boot cfg) (hserves : ∀ b ∈ bs, Beat.Serves b)
    (hfuel : (s.db.stale (s.clock - cfg.startupMaxBundleAgeMs) BundleStatus.active).length /
      Mempool.startupExpiryBatchLimit < fuel) :
    BootRecovers cfg fuel bs s ↔ s.Recoverable cfg ∧
      ∀ st ∈ (Mempool.initializeMempool cfg fuel).trace host bs s, ¬ Spills st := by
  obtain ⟨bs', s', heval, haged⟩ := startupExpiry_eval hserves hfuel
  have hexpiry : Keeps Op.PlacesNone (fun _ => True) (Mempool.startupExpiry cfg fuel) :=
    Mempool.startupExpiry_keeps placesNone_reads (fun _ _ => trivial) cfg fuel
  have hnone := spills_none (s := s) hexpiry hserves
  have hinit : Mempool.initializeMempool cfg fuel =
      Mempool.startupExpiry cfg fuel >>= fun _ => loadMempool cfg := rfl
  have hsuffix := Task.eval_suffix host (Mempool.startupExpiry cfg fuel) bs s
  rw [heval] at hsuffix
  have hstart : AsFound s'.db (.new cfg.slotCapacity) False s' :=
    ⟨not_false, rfl, by rw [haged.memory, hboot]; rfl⟩
  have hserves' : ∀ b ∈ bs', Beat.Serves b := fun b hb => hserves b (hsuffix.subset hb)
  obtain ⟨r, hr, hend⟩ := boots_loadMempool bs' s' False hserves' hstart
  rw [BootRecovers, hinit, Task.eval_bind_ok host heval, Task.trace_bind_ok host heval, hr,
    recovered_iff hend, haged.recoverable]
  simp only [List.forall_mem_append, false_or, not_exists, not_and]
  exact and_congr_right fun _ => (and_iff_right hnone).symm

namespace Small

/-- A row that was handed over and linked, and one that never was. -/
def interrupted : State :=
  { linked with db := { linked.db with operationsBundles :=
      ⟨linked.db.operationsBundles.rows ++ [created 1 "late" .pending], by decide +kernel⟩ } }

/-- The verifier has found the transaction, and not yet written the bundle. -/
def halfVerified : List ProviderChoice := submitted ++ [.start .verifyTransactions] ++ serves 3 5

end Small

theorem boot_recovers_iff_small : BootRecovers Small.config 1 [] Small.interrupted :=
  (boot_recovers_iff Small.config 1 Small.interrupted [] rfl (by simp) (by decide +kernel)).mpr
    (by decide +kernel)

/-- The process stops after the transaction is VERIFIED: its bundle stays
PROCESSING, and the boot leaves it to a verifier that looks no more. -/
theorem boot_leaves_bundle :
    ¬ ∀ (cfg : Config) (fuel : Nat) (s : State) (c : ProviderPool), Fresh cfg s →
      (provider cfg fuel).Run Machine.Free ((provider cfg fuel).init s) c →
      ∀ bs : List (Beat Err), (∀ b ∈ bs, Beat.Serves b) →
        (c.state.db.stale (c.state.clock - cfg.startupMaxBundleAgeMs) BundleStatus.active).length /
          Mempool.startupExpiryBatchLimit < fuel →
        BootRecovers cfg fuel bs (reboot cfg c.state) := by
  intro h
  obtain ⟨c, hr, hp⟩ := Machine.exists_run_of_replay (M := provider Small.config 1)
    (G := Machine.Free) (c := (provider Small.config 1).init Small.state) Small.halfVerified
    (fun s =>
      let s' := ((Mempool.initializeMempool Small.config 1).eval host []
        (reboot Small.config s)).2.2
      (s.db.stale (s.clock - Small.config.startupMaxBundleAgeMs) BundleStatus.active).isEmpty &&
        (s'.db.operationsBundles.rows.any fun row => row.isIn BundleStatus.active) &&
        (s'.memory.mempool.queuedIds == [] && s'.db.unverified == []))
    (by decide +kernel)
  simp only [Bool.and_eq_true, List.isEmpty_iff, List.any_eq_true, beq_iff_eq] at hp
  obtain ⟨⟨hstale, row, hrow, hin⟩, hqueue, hunverified⟩ := hp
  have hend := h Small.config 1 Small.state c Small.fresh hr [] (by simp) (by simp [hstale])
  obtain hheld | ⟨transaction, hmem, -⟩ := hend.settled row hrow hin
  · rw [Mempool.HeldOnce, hqueue] at hheld
    cases hheld
  · rw [hunverified] at hmem
    cases hmem

end ProviderPlatform
