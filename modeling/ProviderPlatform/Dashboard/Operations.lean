import Mathlib.Data.Int.Log
import Mathlib.Data.Rat.Floor
import ProviderPlatform.Dashboard.TxDetail
import ProviderPlatform.Store.Join

/-! # The operations statistics of a PP

The transactions are counted in a join with their links and bundles, which has
a row for each link: a transaction of several bundles counts once for each of
them. The bundles are counted status by status, without the one they fail
with. So the totals, and the success rates over them, are true counts just if
no transaction is linked to two of the PP's bundles and none of these failed. -/
namespace ProviderPlatform
open Async Store

/-! ## The rates -/

/-- The integer nearest to a number, the even one of two. -/
def roundHalfEven (q : Rat) : Int :=
  let n := q.floor
  if q - n < 1 / 2 then n
  else if 1 / 2 < q - n then n + 1
  else if n % 2 = 0 then n
  else n + 1

/-- The double nearest to a number that is zero or in the normal range. -/
def toDouble (q : Rat) : Rat :=
  if q = 0 then 0
  else
    let ulp : Rat := 2 ^ (Int.log 2 q - 52)
    roundHalfEven (q / ulp) * ulp

/-- `x.toFixed(1)` of a number that is not negative: the nearest tenth, the
larger of two. -/
def toFixed1 (x : Rat) : String :=
  let tenths := (x * 10 + 1 / 2).floor.toNat
  toString (tenths / 10) ++ "." ++ toString (tenths % 10)

/-- `total > 0 ? ((part / total) * 100).toFixed(1) + "%" : "N/A"`, in doubles. -/
def successRate (part total : Nat) : String :=
  if total > 0 then toFixed1 (toDouble (toDouble (part / total) * 100)) ++ "%" else "N/A"

example : successRate 7 2000 = "0.4%" := by decide +kernel

/-! ## The handler -/

structure BundleStats where
  total : Nat
  pending : Nat
  processing : Nat
  completed : Nat
  expired : Nat
  successRate : String
  deriving DecidableEq

structure TransactionStats where
  total : Nat
  verified : Nat
  failed : Nat
  unverified : Nat
  successRate : String
  deriving DecidableEq

structure OperationsStats where
  bundles : BundleStats
  transactions : TransactionStats
  deriving DecidableEq

structure OperationsResponse where
  message : String
  data : OperationsStats
  deriving DecidableEq

def bundleCountByStatus (db : Database) (pp : PaymentProvider) (status : BundleStatus) : Nat :=
  db.operationsBundles.rows.countP fun row =>
    row.ppPublicKey == some pp.publicKey && row.status == status && row.deletedAt.isNone

/-- The rows of the join of transactions, links and bundles that satisfy the
condition; neither the link nor the bundle is asked whether it is deleted. -/
def txCountByStatus (db : Database) (pp : PaymentProvider) (status : TransactionStatus) : Nat :=
  let linked := innerJoin db.transactions.rows db.bundlesTransactions.rows fun tx link =>
    link.transactionId == tx.id
  let joined := innerJoin linked db.operationsBundles.rows fun r bundle =>
    bundle.id == r.2.bundleId
  joined.countP fun r => r.2.ppPublicKey == some pp.publicKey && r.1.1.status == status &&
    r.1.1.deletedAt.isNone

/-- The statistics that the seven queries give on one state of the database. -/
def handleGetOperations (db : Database) (pp : PaymentProvider) : OperationsResponse :=
  let pending := bundleCountByStatus db pp .pending
  let processing := bundleCountByStatus db pp .processing
  let completed := bundleCountByStatus db pp .completed
  let expired := bundleCountByStatus db pp .expired
  let verified := txCountByStatus db pp .verified
  let failed := txCountByStatus db pp .failed
  let unverified := txCountByStatus db pp .unverified
  let totalBundles := pending + processing + completed + expired
  let totalTransactions := verified + failed + unverified
  { message := "Operations stats retrieved"
    data := {
      bundles := {
        total := totalBundles
        pending := pending
        processing := processing
        completed := completed
        expired := expired
        successRate := successRate completed totalBundles }
      transactions := {
        total := totalTransactions
        verified := verified
        failed := failed
        unverified := unverified
        successRate := successRate verified totalTransactions } } }

/-! ## True counts -/

namespace Database

/-- The PP's bundles that are not deleted. -/
def liveBundles (db : Database) (pp : PublicKey) : Set OperationsBundle :=
  {row | row ∈ db.operationsBundles.rows ∧ row.deletedAt = none ∧ row.ppPublicKey = some pp}

/-- The transactions that are not deleted and are linked to a bundle of the PP. -/
def liveTransactions (db : Database) (pp : PublicKey) : Set Transaction :=
  {tx | tx ∈ db.transactions.rows ∧ tx.deletedAt = none ∧
    ∃ link ∈ db.bundlesTransactions.rows, link.transactionId = tx.id ∧
      ∃ row ∈ db.operationsBundles.rows, row.id = link.bundleId ∧ row.ppPublicKey = some pp}

end Database

/-- The count of a status. -/
def TransactionStats.count (stats : TransactionStats) : TransactionStatus → Nat
  | .verified => stats.verified
  | .failed => stats.failed
  | .unverified => stats.unverified

/-- The statistics count distinct rows, all of them, and the rates are over these. -/
structure TrueCounts (db : Database) (pp : PublicKey) (stats : OperationsStats) : Prop where
  transactions : ∀ status, stats.transactions.count status =
    {tx ∈ db.liveTransactions pp | tx.status = status}.ncard
  totalTransactions : stats.transactions.total = (db.liveTransactions pp).ncard
  totalBundles : stats.bundles.total = (db.liveBundles pp).ncard
  transactionRate : stats.transactions.successRate =
    successRate {tx ∈ db.liveTransactions pp | tx.status = .verified}.ncard
      (db.liveTransactions pp).ncard
  bundleRate : stats.bundles.successRate =
    successRate {row ∈ db.liveBundles pp | row.status = .completed}.ncard (db.liveBundles pp).ncard

/-- No transaction that is not deleted is linked to two bundles of the PP, and
none of its bundles that are not deleted is FAILED. -/
structure CountsOnce (db : Database) (pp : PublicKey) : Prop where
  links : ∀ tx ∈ db.transactions.rows, tx.deletedAt = none →
    ∀ link ∈ db.bundlesTransactions.rows, ∀ link' ∈ db.bundlesTransactions.rows,
      link.transactionId = tx.id → link'.transactionId = tx.id →
      db.owns pp link.bundleId → db.owns pp link'.bundleId → link.bundleId = link'.bundleId
  failed : ∀ row ∈ db.operationsBundles.rows, row.deletedAt = none → row.ppPublicKey = some pp →
    row.status ≠ .failed

/-! ## Bundles -/

section Bundles
variable (db : Database)

def Database.isLiveBundle (pp : PublicKey) (row : OperationsBundle) : Bool :=
  row.deletedAt.isNone && row.ppPublicKey == some pp

theorem ncard_liveBundles (pp : PublicKey) :
    (db.liveBundles pp).ncard = db.operationsBundles.rows.countP (Database.isLiveBundle pp) := by
  rw [← Table.ncard_eq]
  congr 1
  ext row
  simp [Database.liveBundles, Database.isLiveBundle]

theorem bundleCountByStatus_eq (pp : PaymentProvider) (status : BundleStatus) :
    bundleCountByStatus db pp status = db.operationsBundles.rows.countP fun row =>
      Database.isLiveBundle pp.publicKey row && row.status == status := by
  apply List.countP_congr
  intro row _
  rw [Database.isLiveBundle, Bool.and_right_comm, Bool.and_comm row.deletedAt.isNone]

/-- Each status is counted right. -/
theorem bundleCountByStatus_true (pp : PaymentProvider) (status : BundleStatus) :
    bundleCountByStatus db pp status =
      {row ∈ db.liveBundles pp.publicKey | row.status = status}.ncard := by
  rw [bundleCountByStatus_eq, ← Table.ncard_eq]
  congr 1
  ext row
  simp [Database.liveBundles, Database.isLiveBundle, and_assoc]

/-- What the four statuses leave out of the total. -/
theorem totalBundles_add_failed (pp : PaymentProvider) :
    (handleGetOperations db pp).data.bundles.total + bundleCountByStatus db pp .failed =
      (db.liveBundles pp.publicKey).ncard := by
  have hclasses := countP_classes db.operationsBundles.rows (Database.isLiveBundle pp.publicKey)
    OperationsBundle.status [.pending, .processing, .completed, .expired, .failed]
    (by decide) fun row => by cases row.status <;> decide
  rw [ncard_liveBundles, hclasses]
  simp only [handleGetOperations, bundleCountByStatus_eq, List.map_cons, List.map_nil,
    List.sum_cons, List.sum_nil]
  omega

theorem failed_eq_zero_iff (pp : PaymentProvider) : bundleCountByStatus db pp .failed = 0 ↔
    ∀ row ∈ db.operationsBundles.rows, row.deletedAt = none →
      row.ppPublicKey = some pp.publicKey → row.status ≠ .failed := by
  rw [bundleCountByStatus_eq, List.countP_eq_zero]
  simp [Database.isLiveBundle]

end Bundles

/-! ## Transactions -/

section Transactions
variable (db : Database)

/-- Linked to a bundle of the PP, and not deleted. -/
def Database.isLiveTransaction (pp : PublicKey) (tx : Transaction) : Bool :=
  tx.deletedAt.isNone &&
    db.bundlesTransactions.rows.any fun link => db.owns pp link.bundleId && link.transactionId == tx.id

/-- The rows that the join has of a transaction. -/
def Database.joinedRows (pp : PublicKey) (status : TransactionStatus) (tx : Transaction) : Nat :=
  db.bundlesTransactions.rows.countP fun link =>
    ((db.operationsBundles.find link.bundleId).any fun row =>
      row.ppPublicKey == some pp && tx.status == status && tx.deletedAt.isNone) &&
    link.transactionId == tx.id

theorem txCountByStatus_eq (pp : PaymentProvider) (status : TransactionStatus) :
    txCountByStatus db pp status =
      (db.transactions.rows.map (db.joinedRows pp.publicKey status)).sum := by
  refine (Table.countP_innerJoin_key _ db.operationsBundles
    (fun r : Transaction × BundleTransaction => r.2.bundleId) _).trans ?_
  exact countP_innerJoin _ _ _ _

theorem joinedRows_eq (pp : PublicKey) (status : TransactionStatus) (tx : Transaction) :
    db.joinedRows pp status tx =
      if tx.status = status ∧ tx.deletedAt = none then
        db.bundlesTransactions.rows.countP fun link =>
          db.owns pp link.bundleId && link.transactionId == tx.id
      else 0 := by
  unfold Database.joinedRows Database.owns
  split
  · rename_i h
    simp [h.1, h.2]
  · rename_i h
    apply List.countP_eq_zero.mpr
    intro link _ hlink
    obtain ⟨row, -, hrow⟩ := (Option.any_eq_true _ _).mp (Bool.and_eq_true_iff.mp hlink).1
    simp only [Bool.and_eq_true, beq_iff_eq, Option.isNone_iff_eq_none] at hrow
    exact h ⟨hrow.1.2, hrow.2⟩

theorem joinedRows_pos (pp : PublicKey) (status : TransactionStatus) (tx : Transaction) :
    decide (0 < db.joinedRows pp status tx) =
      (db.isLiveTransaction pp tx && tx.status == status) := by
  rw [Bool.eq_iff_iff, decide_eq_true_iff, joinedRows_eq, Database.isLiveTransaction]
  split
  · rename_i h
    rw [List.countP_pos_iff, ← List.any_eq_true]
    simp [h.1, h.2]
  · rename_i h
    constructor
    · exact fun hlt => absurd hlt (Nat.lt_irrefl 0)
    · intro hlive
      simp only [Bool.and_eq_true, beq_iff_eq, Option.isNone_iff_eq_none] at hlive
      exact absurd ⟨hlive.2, hlive.1.1⟩ h

theorem owns_iff_exists {pp : PublicKey} {bundleId : BundleId} : db.owns pp bundleId ↔
    ∃ row ∈ db.operationsBundles.rows, row.id = bundleId ∧ row.ppPublicKey = some pp := by
  rw [Database.owns_iff]
  apply exists_congr
  intro row
  rw [Table.mem_select, beq_iff_eq, and_assoc]
  exact and_congr_right fun _ => and_comm

theorem mem_liveTransactions {pp : PublicKey} {tx : Transaction} :
    tx ∈ db.liveTransactions pp ↔ tx ∈ db.transactions.rows ∧ db.isLiveTransaction pp tx := by
  unfold Database.isLiveTransaction
  rw [Bool.and_eq_true, Option.isNone_iff_eq_none, List.any_eq_true]
  apply and_congr_right
  intro _
  apply and_congr_right
  intro _
  apply exists_congr
  intro link
  rw [Bool.and_eq_true, beq_iff_eq, owns_iff_exists, and_comm (a := link.transactionId = tx.id)]

theorem ncard_liveTransactions (pp : PublicKey) :
    (db.liveTransactions pp).ncard = db.transactions.rows.countP (db.isLiveTransaction pp) := by
  rw [← Table.ncard_eq]
  congr 1
  ext tx
  exact mem_liveTransactions db

theorem ncard_liveTransactions_status (pp : PublicKey) (status : TransactionStatus) :
    {tx ∈ db.liveTransactions pp | tx.status = status}.ncard =
      db.transactions.rows.countP fun tx => db.isLiveTransaction pp tx && tx.status == status := by
  rw [← Table.ncard_eq]
  congr 1
  ext tx
  simp [mem_liveTransactions, and_assoc]

/-- A status is counted right just if the join has no transaction of it twice. -/
theorem txCountByStatus_true_iff (pp : PaymentProvider) (status : TransactionStatus) :
    txCountByStatus db pp status =
        {tx ∈ db.liveTransactions pp.publicKey | tx.status = status}.ncard ↔
      ∀ tx ∈ db.transactions.rows, db.joinedRows pp.publicKey status tx ≤ 1 := by
  rw [txCountByStatus_eq, ncard_liveTransactions_status, ← sum_eq_countP_iff]
  simp only [joinedRows_pos]

/-- The three statuses partition the transactions. -/
theorem sum_ncard_liveTransactions (pp : PublicKey) :
    {tx ∈ db.liveTransactions pp | tx.status = .verified}.ncard +
        {tx ∈ db.liveTransactions pp | tx.status = .failed}.ncard +
        {tx ∈ db.liveTransactions pp | tx.status = .unverified}.ncard =
      (db.liveTransactions pp).ncard := by
  have hclasses := countP_classes db.transactions.rows (db.isLiveTransaction pp)
    Transaction.status [.verified, .failed, .unverified] (by decide)
    fun tx => by cases tx.status <;> decide
  rw [ncard_liveTransactions, hclasses]
  simp only [ncard_liveTransactions_status, List.map_cons, List.map_nil, List.sum_cons,
    List.sum_nil]
  omega

/-- Joined at most once, whatever the status: linked to at most one bundle of the PP. -/
theorem joinedRows_le_one_iff (pp : PublicKey) :
    (∀ status, ∀ tx ∈ db.transactions.rows, db.joinedRows pp status tx ≤ 1) ↔
      ∀ tx ∈ db.transactions.rows, tx.deletedAt = none →
        ∀ link ∈ db.bundlesTransactions.rows, ∀ link' ∈ db.bundlesTransactions.rows,
          link.transactionId = tx.id → link'.transactionId = tx.id →
          db.owns pp link.bundleId → db.owns pp link'.bundleId →
          link.bundleId = link'.bundleId := by
  constructor
  · intro h tx htx hlive link hlink link' hlink' htid htid' howns howns'
    have hone := h tx.status tx htx
    rw [joinedRows_eq, if_pos ⟨rfl, hlive⟩, Table.countP_le_one_iff] at hone
    have hkey := hone link hlink link' hlink'
      (Bool.and_eq_true_iff.mpr ⟨howns, beq_iff_eq.mpr htid⟩)
      (Bool.and_eq_true_iff.mpr ⟨howns', beq_iff_eq.mpr htid'⟩)
    exact congrArg Prod.fst hkey
  · intro h status tx htx
    rw [joinedRows_eq]
    split
    · rename_i hlive
      rw [Table.countP_le_one_iff]
      intro link hlink link' hlink' hp hp'
      obtain ⟨howns, htid⟩ := Bool.and_eq_true_iff.mp hp
      obtain ⟨howns', htid'⟩ := Bool.and_eq_true_iff.mp hp'
      have htid := beq_iff_eq.mp htid
      have htid' := beq_iff_eq.mp htid'
      exact Prod.ext (h tx htx hlive.2 link hlink link' hlink' htid htid' howns howns')
        (htid.trans htid'.symm)
    · exact Nat.zero_le 1

end Transactions

/-! ## When the counts are true -/

/-- **The statistics are true counts** just where each transaction has one bundle
of the PP at most, and none of the PP's bundles is FAILED. -/
theorem trueCounts_iff (db : Database) (pp : PaymentProvider) :
    TrueCounts db pp.publicKey (handleGetOperations db pp).data ↔ CountsOnce db pp.publicKey := by
  have htotal := totalBundles_add_failed db pp
  constructor
  · intro h
    constructor
    · apply (joinedRows_le_one_iff db pp.publicKey).mp
      intro status
      apply (txCountByStatus_true_iff db pp status).mp
      have hcount := h.transactions status
      cases status <;> exact hcount
    · apply (failed_eq_zero_iff db pp).mp
      rw [h.totalBundles] at htotal
      omega
  · intro h
    have hcount (status : TransactionStatus) : txCountByStatus db pp status =
        {tx ∈ db.liveTransactions pp.publicKey | tx.status = status}.ncard := by
      apply (txCountByStatus_true_iff db pp status).mpr
      exact (joinedRows_le_one_iff db pp.publicKey).mpr h.links status
    have htxs : (handleGetOperations db pp).data.transactions.total =
        (db.liveTransactions pp.publicKey).ncard := by
      rw [← sum_ncard_liveTransactions, ← hcount, ← hcount, ← hcount]
      rfl
    have hbundles : (handleGetOperations db pp).data.bundles.total =
        (db.liveBundles pp.publicKey).ncard := by
      rwa [(failed_eq_zero_iff db pp).mpr h.failed, Nat.add_zero] at htotal
    refine ⟨?_, htxs, hbundles, ?_, ?_⟩
    · intro status
      rw [← hcount]
      cases status <;> rfl
    · rw [← hcount, ← htxs]
      rfl
    · rw [← bundleCountByStatus_true, ← hbundles]
      rfl

namespace Small

/-- The small installation, with its PP registered. -/
def registered : State :=
  { state with db := { database with
      directory := { database.directory with paymentProviders := Table.empty.upsert ⟨"GPP", none⟩ } } }

/-- Two bundles are queued in one slot, and a tick submits them. -/
def twoSubmitted : List ProviderChoice :=
  admitted ++ [.start (.addOperationsBundle (request ["deposit 10", "deposit 10"]))] ++
    serves 2 10 ++ [.resume 2, .start .executeNext] ++ serves 3 17 ++ [.resume 3]

end Small

/-- One transaction of two bundles is counted as two. -/
theorem transaction_counted_twice :
    ¬ ∀ (cfg : Config) (fuel : Nat) (s : State) (c : ProviderPool) (pp : PaymentProvider),
      Fresh cfg s → (provider cfg fuel).Run Machine.Free ((provider cfg fuel).init s) c →
      TrueCounts c.state.db pp.publicKey (handleGetOperations c.state.db pp).data := by
  intro h
  have hfresh : Fresh Small.config Small.registered := ⟨rfl, rfl, rfl, rfl, rfl, rfl⟩
  obtain ⟨c, hr, hp⟩ := Machine.exists_run_of_replay (M := provider Small.config 1)
    (G := Machine.Free) (c := (provider Small.config 1).init Small.registered) Small.twoSubmitted
    (fun s => txCountByStatus s.db ⟨"GPP", none⟩ .unverified == 2 &&
      s.db.transactions.rows.length == 1) (by decide +kernel)
  obtain ⟨htwo, hone⟩ := Bool.and_eq_true_iff.mp hp
  have htrue := (h _ _ _ c ⟨"GPP", none⟩ hfresh hr).transactions .unverified
  have hle := List.countP_le_length (l := c.state.db.transactions.rows)
    (p := fun tx => c.state.db.isLiveTransaction "GPP" tx && tx.status == .unverified)
  rw [← ncard_liveTransactions_status, ← htrue, beq_iff_eq.mp hone] at hle
  have htwo : (handleGetOperations c.state.db ⟨"GPP", none⟩).data.transactions.count .unverified =
      2 := beq_iff_eq.mp htwo
  rw [htwo] at hle
  exact absurd hle (by decide)

end ProviderPlatform
