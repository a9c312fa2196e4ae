import ProviderPlatform.Footprint

/-! # What a step leaves alone

Operations on the memory never touch the database; a query or a call to the
network reads it; drift reorders rows and replaces the directory. So the
rows of the pipeline's tables change only where a command is served. -/
namespace ProviderPlatform
open Async Store

/-- The same rows under the same keys, in any order, in the tables the
pipeline writes. -/
structure Database.Agrees (db db' : Database) : Prop where
  bundles : ∀ id, db.operationsBundles.find id = db'.operationsBundles.find id
  transactions : ∀ id, db.transactions.find id = db'.transactions.find id
  links : ∀ k, db.bundlesTransactions.find k = db'.bundlesTransactions.find k
  utxos : db.utxos = db'.utxos

theorem Database.Agrees.refl (db : Database) : db.Agrees db :=
  ⟨fun _ => rfl, fun _ => rfl, fun _ => rfl, rfl⟩

/-! ## Commands -/

theorem Database.setBundles_find (db : Database) (now : Time) (p : OperationsBundle → Bool)
    (data : OperationsBundlePatch) (id : BundleId) :
    (db.setBundles now p data).2.operationsBundles.find id =
      (db.operationsBundles.find id).map fun r => if p r then r.set now data else r :=
  Table.find_update (OperationsBundle.set_id now data) _ _

theorem Command.updateBundle_find (db : Database) (now : Time) (id : BundleId)
    (data : OperationsBundlePatch) :
    ((Command.updateBundle id data).run now db).2.operationsBundles.find id =
      (db.operationsBundles.find id).map (·.set now data) := by
  show (db.setBundles now _ data).2.operationsBundles.find id = _
  rw [Database.setBundles_find]
  cases h : db.operationsBundles.find id with
  | none => rfl
  | some row => simp [Table.find_key h]

theorem Command.updateTransaction_find (db : Database) (now : Time) (txId : TxHash)
    (status : TransactionStatus) (other : TxHash) :
    ((Command.updateTransaction txId status).run now db).2.transactions.find other =
      (db.transactions.find other).map fun r => if r.id == txId then r.setStatus now status else r :=
  Table.find_update (Transaction.setStatus_id now status) _ _

/-- No command removes a bundle, or takes from its row what no update takes. -/
theorem Command.run_keeps_row {Q : OperationsBundle → Prop}
    (hQ : ∀ now data row, Q row → Q (row.set now data)) {db : Database} {id : BundleId}
    (now : Time) (w : Command) (h : ∃ row, db.operationsBundles.find id = some row ∧ Q row) :
    ∃ row, (w.run now db).2.operationsBundles.find id = some row ∧ Q row := by
  obtain ⟨row, hrow, hq⟩ := h
  have hsame : ∃ row, db.operationsBundles.find id = some row ∧ Q row := ⟨row, hrow, hq⟩
  have hset (p : OperationsBundle → Bool) (data : OperationsBundlePatch) :
      ∃ row, (db.setBundles now p data).2.operationsBundles.find id = some row ∧ Q row := by
    refine ⟨if p row then row.set now data else row, ?_, ?_⟩
    · rw [Database.setBundles_find, hrow, Option.map_some]
    · split
      · exact hQ now data row hq
      · exact hq
  cases w with
  | createBundle data =>
    simp only [Command.run]
    split
    · rename_i t ht
      have hne : data.id ≠ id := by
        intro he
        have hnone := (Table.insert?_eq_some ht).1
        rw [NewOperationsBundle.row_id, he, hrow] at hnone
        cases hnone
      refine ⟨row, ?_, hq⟩
      rw [Table.find_insert ht, if_neg (by rwa [NewOperationsBundle.row_id])]
      exact hrow
    · exact hsame
  | updateBundle _ _ | updateStatusIfActive _ _ _ | updateIfStatusIn _ _ _ | expireOlderThan _ _ _
    | expireByIds _ _ => exact hset _ _
  | updateTransaction _ _ => exact hsame
  | createUtxo _ | updateUtxo _ _ | createTransaction _ | createLink _ | recordInteraction _ _ =>
    simp only [Command.run]
    repeat' split
    all_goals exact hsame

theorem Command.run_keeps_bundle {db : Database} {id : BundleId} (now : Time) (w : Command)
    (h : (db.operationsBundles.find id).isSome) :
    ((w.run now db).2.operationsBundles.find id).isSome := by
  obtain ⟨row, hrow⟩ := Option.isSome_iff_exists.mp h
  obtain ⟨row', hrow', -⟩ := run_keeps_row (Q := fun _ => True) (fun _ _ _ _ => trivial) now w
    ⟨row, hrow, trivial⟩
  exact Option.isSome_of_eq_some hrow'

/-! ## The row of a bundle -/

/-- An insert adds the row, or finds the id taken and changes nothing. -/
theorem serve_createBundle (data : NewOperationsBundle) (s : State) :
    (s.db.operationsBundles.find data.id = none ∧
      (serve (.command (.createBundle data)) s).1 = .ok (data.row s.clock) ∧
      ∀ id, (serve (.command (.createBundle data)) s).2.db.operationsBundles.find id =
        if data.id = id then some (data.row s.clock) else s.db.operationsBundles.find id) ∨
    ((∃ row, s.db.operationsBundles.find data.id = some row) ∧
      (serve (.command (.createBundle data)) s).1 = .error constraintViolation ∧
      (serve (.command (.createBundle data)) s).2 = s) := by
  cases hinsert : s.db.operationsBundles.insert? (data.row s.clock) with
  | none =>
    right
    refine ⟨Table.insert?_eq_none hinsert, ?_, ?_⟩ <;> simp [serve, Command.run, Command.notes, hinsert]
  | some t =>
    left
    refine ⟨(Table.insert?_eq_some hinsert).1, by simp [serve, Command.run, hinsert], fun id => ?_⟩
    have hfind := Table.find_insert hinsert id
    rw [NewOperationsBundle.row_id] at hfind
    simpa [serve, Command.run, hinsert] using hfind

theorem find_updateBundle (s : State) (id id' : BundleId) (data : OperationsBundlePatch) :
    (serve (.command (.updateBundle id data)) s).2.db.operationsBundles.find id' =
      (s.db.operationsBundles.find id').map fun r => if r.id == id then r.set s.clock data else r :=
  Database.setBundles_find s.db s.clock (·.id == id) data id'

theorem updateIfStatusIn_find (s : State) (id id' : BundleId) (data : OperationsBundlePatch)
    (statuses : List BundleStatus) :
    (serve (.command (.updateIfStatusIn id data statuses)) s).2.db.operationsBundles.find id' =
      (s.db.operationsBundles.find id').map fun r =>
        if r.id == id && r.isIn statuses then r.set s.clock data else r :=
  Database.setBundles_find s.db s.clock (fun r => r.id == id && r.isIn statuses) data id'

theorem updateStatusIfActive_find (s : State) (id id' : BundleId) (newStatus : BundleStatus)
    (statuses : List BundleStatus) :
    (serve (.command (.updateStatusIfActive id newStatus statuses)) s).2.db.operationsBundles.find id' =
      (s.db.operationsBundles.find id').map fun r =>
        if r.id == id && r.isIn statuses then r.set s.clock { status := some newStatus } else r :=
  Database.setBundles_find s.db s.clock (fun r => r.id == id && r.isIn statuses) _ id'

/-- A gated update answers whether it found the row in one of the statuses. -/
theorem select_gated {db : Database} {id : BundleId} {row : OperationsBundle}
    (hrow : db.operationsBundles.find id = some row) (statuses : List BundleStatus) :
    (!(db.operationsBundles.select fun r => r.id == id && r.isIn statuses).isEmpty) =
      row.isIn statuses := by
  have hkey : row.id = id := Table.find_key hrow
  cases hin : row.isIn statuses with
  | true =>
    have hmem : row ∈ db.operationsBundles.select fun r => r.id == id && r.isIn statuses :=
      Table.mem_select.mpr ⟨Table.find_mem hrow, by simp [hkey, hin]⟩
    simpa using List.ne_nil_of_mem hmem
  | false =>
    have hnone : db.operationsBundles.select (fun r => r.id == id && r.isIn statuses) = [] := by
      refine List.filter_eq_nil_iff.mpr fun r hr => ?_
      by_cases hid : r.id = id
      · rw [Table.eq_of_key_eq hr (Table.find_mem hrow) (hid.trans hkey.symm), hin]
        simp
      · simp [hid]
    rw [hnone]
    rfl

/-! ## Operations -/

@[simp] theorem runOp_db (o : Op) (s : State) : (runOp o s).2.db = s.db := by cases o <;> rfl
@[simp] theorem runOp_clock (o : Op) (s : State) : (runOp o s).2.clock = s.clock := by
  cases o <;> rfl
@[simp] theorem runOp_network (o : Op) (s : State) : (runOp o s).2.network = s.network := by
  cases o <;> rfl

theorem serve_clock (q : Req) (s : State) : (serve q s).2.clock = s.clock := by cases q <;> rfl

theorem runOp_started {o : Op} {s : State} (h : s.memory.started = true) :
    (runOp o s).2.memory.started = true := by
  cases o <;> first | exact h | rfl

variable {α : Type}

theorem advance_db (t : Promise α) (s : State) : (t.advance host s).2.db = s.db :=
  Task.advance_keeps host (P := fun s' => s'.db = s.db) (g := fun _ _ => True)
    (fun s' o hs _ => (runOp_db o s').trans hs) t s rfl fun _ _ => trivial

theorem advance_started {t : Promise α} {s : State} (h : s.memory.started = true) :
    (t.advance host s).2.memory.started = true :=
  Task.advance_keeps host (P := fun s' => s'.memory.started = true) (g := fun _ _ => True)
    (fun _ _ hs _ => runOp_started hs) t s h fun _ _ => trivial

theorem opsRun_started (t : Promise α) {s : State} (h : s.memory.started = true) :
    ∀ p ∈ t.opsRun host s, p.1.memory.started = true :=
  Task.opsRun_keeps host (P := fun s' => s'.memory.started = true)
    (fun _ _ hs => runOp_started hs) t s h

/-! ## Drift -/

theorem drift_agrees (d : Drift) (s : State) : (drift d s).db.Agrees s.db := by
  cases d with
  | reorder bundles transactions links =>
    exact ⟨fun _ => Table.find_reorder .., fun _ => Table.find_reorder ..,
      fun _ => Table.find_reorder .., rfl⟩
  | _ => exact ⟨fun _ => rfl, fun _ => rfl, fun _ => rfl, rfl⟩

@[simp] theorem drift_history (d : Drift) (s : State) : (drift d s).history = s.history := by
  cases d <;> rfl
@[simp] theorem drift_mempool (d : Drift) (s : State) :
    (drift d s).memory.mempool = s.memory.mempool := by cases d <;> rfl
@[simp] theorem drift_started (d : Drift) (s : State) :
    (drift d s).memory.started = s.memory.started := by cases d <;> rfl
@[simp] theorem drift_accepted (d : Drift) (s : State) :
    (drift d s).network.accepted = s.network.accepted := by cases d <;> rfl

/-! ## Served requests -/

/-- The request the step serves, if it serves one, satisfies `Q`. -/
def ServesMeet (Q : State → Req → Prop) (c : ProviderPool) (ch : ProviderChoice) : Prop :=
  ∀ p ∈ ch.served c, Q c.state p.2

instance (Q : State → Req → Prop) [∀ s q, Decidable (Q s q)] (c : ProviderPool)
    (ch : ProviderChoice) : Decidable (ServesMeet Q c ch) :=
  inferInstanceAs (Decidable (∀ p ∈ ch.served c, Q c.state p.2))

/-! ## Steps -/

section Step
variable {cfg : Config} {fuel : Nat} {allowed : State → Call → Bool}
variable {c c' : ProviderPool} {ch : ProviderChoice}

/-- **Only a served command writes rows.** -/
theorem step_agrees (h : (process cfg fuel allowed).step ch c = some c') :
    (∃ l w, ch.served c = some (l, .command w) ∧
      c'.state.db = (w.run c.state.clock c.state.db).2) ∨
    (∀ l w, ch.served c ≠ some (l, .command w)) ∧ c'.state.db.Agrees c.state.db := by
  rcases Machine.step_cases _ h with ⟨l, rfl, -, rfl⟩ | ⟨i, l, t, rfl, ht, rfl⟩ |
    ⟨i, l, q, k, rfl, ht, rfl⟩ | ⟨i, l, q, k, e, rfl, ht, rfl⟩ | ⟨d, rfl, rfl⟩ | ⟨rfl, rfl⟩
  · exact .inr ⟨fun _ _ hs => (by cases hs), .refl _⟩
  · refine .inr ⟨fun _ _ hs => (by cases hs), ?_⟩
    have hdb : (t.advance host c.state).2.db = c.state.db := advance_db t c.state
    exact hdb ▸ .refl _
  · cases q with
    | command w => exact .inl ⟨l, w, by simp only [Choice.served, ht], rfl⟩
    | query q => exact .inr ⟨fun _ _ hs => by simp [Choice.served, ht] at hs, .refl _⟩
    | rpc r => exact .inr ⟨fun _ _ hs => by simp [Choice.served, ht] at hs, .refl _⟩
  · exact .inr ⟨fun _ _ hs => (by cases hs), .refl _⟩
  · exact .inr ⟨fun _ _ hs => (by cases hs), drift_agrees d c.state⟩
  · exact .inr ⟨fun _ _ hs => (by cases hs), .refl _⟩

/-- A service has a task only on a system that has started. -/
def ServicesStarted (c : ProviderPool) : Prop :=
  ∀ p ∈ c.tasks, p.1.isService = true → c.state.memory.started = true

theorem ServicesStarted.set {s : State} {i : Nat} {l : Call} {t : Promise Unit}
    (h : ServicesStarted c) (ht : c.tasks[i]?.map (·.1) = some l)
    (hstarted : c.state.memory.started = true → s.memory.started = true) :
    ServicesStarted ⟨s, c.tasks.set i (l, t)⟩ := by
  intro p hp hservice
  rcases List.mem_or_eq_of_mem_set hp with hp | rfl
  · exact hstarted (h p hp hservice)
  · obtain ⟨q, hq, rfl⟩ := Option.map_eq_some_iff.mp ht
    exact hstarted (h q (List.mem_of_getElem? hq) hservice)

theorem ServicesStarted.step
    (hallowed : ∀ s l, allowed s l = true → l.isService = true → s.memory.started = true)
    (h : ServicesStarted c) (hs : (process cfg fuel allowed).step ch c = some c') :
    ServicesStarted c' := by
  rcases Machine.step_cases _ hs with ⟨l, rfl, hstart, rfl⟩ | ⟨i, l, t, rfl, ht, rfl⟩ |
    ⟨i, l, q, k, rfl, ht, rfl⟩ | ⟨i, l, q, k, e, rfl, ht, rfl⟩ | ⟨d, rfl, rfl⟩ | ⟨rfl, rfl⟩
  · intro p hp hservice
    rcases List.mem_append.mp hp with hp | hp
    · exact h p hp hservice
    · rw [List.mem_singleton.mp hp] at hservice
      exact hallowed _ _ hstart hservice
  · exact h.set (by rw [ht]; rfl) fun hst => advance_started hst
  · refine h.set (by rw [ht]; rfl) fun hst => ?_
    show (serve q c.state).2.memory.started = true
    cases q <;> exact hst
  · exact h.set (by rw [ht]; rfl) fun hst => hst
  · intro p hp hservice
    show (drift d c.state).memory.started = true
    rw [drift_started]
    exact h p hp hservice
  · intro p hp hservice
    rw [List.mem_singleton.mp hp] at hservice
    cases hservice

end Step

end ProviderPlatform
