import ProviderPlatform.Async.Eval
import ProviderPlatform.Provider
import ProviderPlatform.Store.Batches

/-! # Startup expiry

`Mempool.initialize` expires stale rows a batch at a time until a batch is not
full. A row that a batch writes is no longer stale, so with nobody else writing
the loop comes to its end, and what it leaves is what one unbounded expiry
leaves. -/
namespace ProviderPlatform
open Async Store

/-! ## The two forms of the expiry -/

/-- The conditions of `expireOlderThan`. -/
def OperationsBundle.isStale (olderThan : Time) (statuses : List BundleStatus)
    (row : OperationsBundle) : Bool := row.isIn statuses && decide (row.createdAt < olderThan)

/-- The row as it is but for the time of its last update. -/
def OperationsBundle.untimed (row : OperationsBundle) : OperationsBundle :=
  { row with updatedAt := 0 }

namespace Database
variable {db : Database} {now olderThan : Time} {statuses : List BundleStatus} {limit : Nat}

/-- The rows that match. -/
def stale (db : Database) (olderThan : Time) (statuses : List BundleStatus) :
    List OperationsBundle := db.operationsBundles.select (·.isStale olderThan statuses)

/-- `expireOlderThan`: with a limit the rows are picked by a subquery, without one
the conditions stand in the update itself. -/
def expireOlderThan (db : Database) (now olderThan : Time) (statuses : List BundleStatus) :
    Option Nat → List BundleId × Database
  | some limit =>
    let r := db.setBundles now (fun r => (db.staleIds olderThan statuses limit).contains r.id)
      { status := some .expired }
    (r.1.map (·.id), r.2)
  | none =>
    let r := db.setBundles now (·.isStale olderThan statuses) { status := some .expired }
    (r.1.map (·.id), r.2)

/-- The database but for the times of the last updates of bundles. -/
def untimed (db : Database) : Database :=
  { db with operationsBundles :=
      db.operationsBundles.update (fun _ => true) OperationsBundle.untimed fun _ => rfl }

theorem staleIds_batch (db : Database) (olderThan : Time) (statuses : List BundleStatus)
    (limit : Nat) : db.operationsBundles.Batch (·.isStale olderThan statuses) limit
      (db.staleIds olderThan statuses limit) :=
  Table.batch_take (List.perm_insertionSort _ _) limit

theorem isStale_expired (hstatuses : .expired ∉ statuses) (row : OperationsBundle) :
    (row.set now { status := some .expired }).isStale olderThan statuses = false := by
  simp [OperationsBundle.isStale, isIn_set, hstatuses]

/-- A batch is full, or takes every row that matches. -/
theorem expireOlderThan_length (db : Database) (now olderThan : Time)
    (statuses : List BundleStatus) (limit : Nat) :
    (db.expireOlderThan now olderThan statuses (some limit)).1.length =
      min limit (db.stale olderThan statuses).length := by
  have hlength := (db.staleIds_batch olderThan statuses limit).select_length
  exact (List.length_map _).trans hlength

/-- No row that a batch took matches any more. -/
theorem stale_expireOlderThan (hstatuses : .expired ∉ statuses) :
    (db.expireOlderThan now olderThan statuses (some limit)).1.length +
      ((db.expireOlderThan now olderThan statuses (some limit)).2.stale olderThan statuses).length =
      (db.stale olderThan statuses).length := by
  have hcount := (db.staleIds_batch olderThan statuses limit).select_update
    (OperationsBundle.set_id now { status := some .expired }) (isStale_expired hstatuses)
  exact (congrArg (· + _) (List.length_map _)).trans hcount

theorem untimed_ext {db db' : Database}
    (hrows : db.operationsBundles.rows.map (·.untimed) = db'.operationsBundles.rows.map (·.untimed))
    (hrest : { db with operationsBundles := db'.operationsBundles } = db') :
    db.untimed = db'.untimed := by
  have htable : db.untimed.operationsBundles = db'.untimed.operationsBundles :=
    Table.eq_of_rows hrows
  calc db.untimed = { ({ db with operationsBundles := db'.operationsBundles } : Database) with
        operationsBundles := db.untimed.operationsBundles } := rfl
    _ = { db' with operationsBundles := db'.untimed.operationsBundles } := by rw [hrest, htable]
    _ = db'.untimed := rfl

/-- An unbounded expiry writes every row that matches. -/
theorem rows_expireOlderThan (db : Database) (now olderThan : Time) (statuses : List BundleStatus) :
    (db.expireOlderThan now olderThan statuses none).2.operationsBundles.rows.map (·.untimed) =
      db.operationsBundles.rows.map fun r => (if r.isStale olderThan statuses then
        r.set 0 { status := some .expired } else r).untimed := by
  show (db.operationsBundles.rows.map _).map _ = _
  rw [List.map_map]
  refine List.map_congr_left fun r _ => ?_
  rw [Function.comp_apply]
  split <;> rfl

/-- After a batch there is as much to expire in the end as before it. -/
theorem expireOlderThan_rest (hstatuses : .expired ∉ statuses) (now' now'' : Time) :
    ((db.expireOlderThan now olderThan statuses (some limit)).2.expireOlderThan now' olderThan
      statuses none).2.untimed = (db.expireOlderThan now'' olderThan statuses none).2.untimed := by
  refine untimed_ext ?_ rfl
  rw [rows_expireOlderThan, rows_expireOlderThan]
  exact (db.staleIds_batch olderThan statuses limit).update_rest
    (OperationsBundle.set_id now { status := some .expired }) (isStale_expired hstatuses)
    (·.untimed) fun _ => rfl

theorem expireOlderThan_none (h : db.stale olderThan statuses = []) :
    (db.expireOlderThan now olderThan statuses none).2.untimed = db.untimed := by
  refine untimed_ext ?_ rfl
  rw [rows_expireOlderThan]
  exact Table.map_of_select_nil h _

end Database

/-! ## The loop -/

namespace Mempool

/-- The loop of the startup expiry for any batch limit, with its total. -/
def expireBatches (limit : Nat) (cutoff : Time) : Nat → Nat → Promise Nat
  | 0, _ => reject (.error "startup expiry: out of fuel")
  | fuel + 1, totalExpired => do
    let batch : List BundleId ← command (.expireOlderThan cutoff BundleStatus.active limit)
    if batch.length ≥ limit then expireBatches limit cutoff fuel (totalExpired + batch.length)
    else pure (totalExpired + batch.length)

/-- `initialize` only logs the total. -/
theorem expireStale_eq (cutoff : Time) : ∀ fuel total : Nat,
    expireStale cutoff fuel =
      (expireBatches startupExpiryBatchLimit cutoff fuel total >>= fun _ => pure ())
  | 0, _ => rfl
  | fuel + 1, total => by
    rw [expireStale, expireBatches, Task.bind_assoc]
    refine congrArg _ (funext fun batch => ?_)
    split
    · exact expireStale_eq cutoff fuel _
    · rfl

/-- Each full batch takes `limit` of the rows that match, and one that is not
full takes the rest. -/
theorem expireBatches_eval {limit : Nat} (hlimit : 0 < limit) (cutoff now : Time) :
    ∀ (fuel total : Nat) {bs : List (Beat Err)} {s : State}, (∀ b ∈ bs, Beat.Serves b) →
    (s.db.stale cutoff BundleStatus.active).length / limit < fuel →
    ∃ bs' s', (expireBatches limit cutoff fuel total).eval host bs s =
        (some (.ok (total + (s.db.stale cutoff BundleStatus.active).length)), bs', s') ∧
      s'.db.untimed = (s.db.expireOlderThan now cutoff BundleStatus.active none).2.untimed ∧
      s'.memory = s.memory
  | 0, _, _, _, _, hfuel => absurd hfuel (Nat.not_lt_zero _)
  | fuel + 1, total, bs, s, hserves, hfuel => by
    have hactive : BundleStatus.expired ∉ BundleStatus.active := by decide
    let s₁ := host.pass (bs.headD .calm).elapsed s
    let r := s.db.expireOlderThan s₁.clock cutoff BundleStatus.active (some limit)
    let s₂ := (serve (.command (.expireOlderThan cutoff BundleStatus.active limit)) s₁).2
    have hbatch : (command (.expireOlderThan cutoff BundleStatus.active limit)).eval host bs s =
        (some (.ok r.1), bs.tail, s₂) := Task.eval_call host (Beat.head_serves hserves)
    have hlength : r.1.length = min limit (s.db.stale cutoff BundleStatus.active).length :=
      Database.expireOlderThan_length ..
    have hleft : r.1.length + (s₂.db.stale cutoff BundleStatus.active).length =
        (s.db.stale cutoff BundleStatus.active).length := Database.stale_expireOlderThan hactive
    have hrest : (s₂.db.expireOlderThan now cutoff BundleStatus.active none).2.untimed =
        (s.db.expireOlderThan now cutoff BundleStatus.active none).2.untimed :=
      Database.expireOlderThan_rest hactive now now
    rw [expireBatches, Task.eval_bind_ok host hbatch]
    by_cases hfull : r.1.length ≥ limit
    · have hcount : r.1.length = limit := by omega
      have hsteps : (s₂.db.stale cutoff BundleStatus.active).length / limit < fuel := by
        rw [← hleft, hcount, Nat.add_div_left _ hlimit] at hfuel
        omega
      have htail : ∀ b ∈ bs.tail, Beat.Serves b := fun b hb => hserves b (List.mem_of_mem_tail hb)
      obtain ⟨bs', s', heval, hdb, hmemory⟩ :=
        expireBatches_eval hlimit cutoff now fuel (total + r.1.length) htail hsteps
      refine ⟨bs', s', ?_, hdb.trans hrest, hmemory⟩
      rw [if_pos hfull, heval, Nat.add_assoc, hleft]
    · have hnone : s₂.db.stale cutoff BundleStatus.active = [] := by
        apply List.eq_nil_of_length_eq_zero
        omega
      have hall : r.1.length = (s.db.stale cutoff BundleStatus.active).length := by omega
      refine ⟨bs.tail, s₂, ?_, ?_, rfl⟩
      · rw [if_neg hfull, hall]
        rfl
      · exact (Database.expireOlderThan_none hnone).symm.trans hrest

end Mempool

/-- **Startup expiry in batches is one bulk expiry.** With nobody else writing the
loop returns, for every limit and table, after one batch more than the rows that
match fill; its total is the number of these rows, and the database is the one an
unbounded expiry leaves, but for `updatedAt`. The startup expiry is this loop. -/
theorem startup_expiry_bulk :
    (∀ (limit : Nat) (cutoff now : Time) (s : State) (bs : List (Beat Err)) (fuel : Nat), 1 ≤ limit →
      (∀ b ∈ bs, Beat.Serves b) →
      (s.db.stale cutoff BundleStatus.active).length / limit + 1 ≤ fuel →
      let (outcome, _, s') := (Mempool.expireBatches limit cutoff fuel 0).eval host bs s
      outcome = some (.ok (s.db.stale cutoff BundleStatus.active).length) ∧
      s'.db.untimed = (s.db.expireOlderThan now cutoff BundleStatus.active none).2.untimed) ∧
    ∀ (cutoff : Time) (fuel : Nat), Mempool.expireStale cutoff fuel =
      (Mempool.expireBatches Mempool.startupExpiryBatchLimit cutoff fuel 0 >>= fun _ => pure ()) := by
  refine ⟨fun limit cutoff now s bs fuel hlimit hserves hfuel => ?_,
    fun cutoff fuel => Mempool.expireStale_eq cutoff fuel 0⟩
  obtain ⟨bs', s', heval, hdb, -⟩ :=
    Mempool.expireBatches_eval hlimit cutoff now fuel 0 hserves hfuel
  rw [heval, Nat.zero_add]
  exact ⟨rfl, hdb⟩

namespace Small

/-- A row without operations, created at the given time. -/
def created (createdAt : Time) (id : BundleId) (status : BundleStatus) : OperationsBundle where
  id := id
  status := status
  channelContractId := some "channel"
  ttl := 1000
  operationsMLXDR := []
  fee := 0
  ppPublicKey := some "GPP"
  createdAt := createdAt
  updatedAt := createdAt

/-- Four rows that match, one that has ended and one that is young. -/
def aged : State :=
  { state with db := { database with operationsBundles := ⟨[created 3 "a" .pending,
      created 1 "b" .processing, created 1 "c" .completed, created 2 "d" .pending,
      created 9 "e" .pending, created 1 "f" .pending], by decide⟩ } }

end Small

/-- Two full batches of two, and then an empty one. -/
theorem startup_expiry_bulk_small :
    ((Mempool.expireBatches 2 5 3 0).eval host [] Small.aged).1 = some (.ok 4) ∧
    ((Mempool.expireBatches 2 5 3 0).eval host [] Small.aged).2.2.db.untimed =
      (Small.aged.db.expireOlderThan 7 5 BundleStatus.active none).2.untimed :=
  startup_expiry_bulk.1 2 5 7 Small.aged [] 3 (by decide) (by simp) (by decide +kernel)

end ProviderPlatform
