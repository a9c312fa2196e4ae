import ProviderPlatform.Async.Observer
import ProviderPlatform.Frame
import Mathlib.Algebra.Group.Prod
import Mathlib.Algebra.Order.Group.Multiset
import Mathlib.Data.Multiset.Count

/-! # Overlapping verifier cycles

Nothing keeps two cycles from settling the same transaction: the UNVERIFIED
rows are read once, the row is made final many awaits later. If every update of
a transaction finds it UNVERIFIED, the cycle that makes it is the only one that
may emit its completions and fail its bundles. -/
namespace ProviderPlatform
open Async Store

/-! ## What may happen once -/

/-- A deposit or withdraw of a bundle, completed by a transaction. -/
structure Completion where
  txId : TxHash
  bundleId : BundleId
  operation : MoonlightOperation
  deriving DecidableEq

/-- What an event says was completed. -/
def EventPayload.completion : EventPayload → Option Completion
  | .depositCompleted bundleId txId _ depositorAddress amount =>
    some ⟨txId, bundleId, .deposit ⟨depositorAddress, amount⟩⟩
  | .withdrawCompleted bundleId txId _ recipientAddress amount =>
    some ⟨txId, bundleId, .withdraw ⟨recipientAddress, amount⟩⟩
  | _ => none

def State.completions (s : State) : List Completion := s.events.filterMap (·.payload.completion)

/-- The completion of an operation, if it is a deposit or a withdraw. -/
def MoonlightOperation.completion (txId : TxHash) (bundleId : BundleId) :
    MoonlightOperation → Option Completion
  | .deposit op => some ⟨txId, bundleId, .deposit op⟩
  | .withdraw op => some ⟨txId, bundleId, .withdraw op⟩
  | _ => none

namespace Database

/-- The stored operations of a bundle. -/
def operationsOf (db : Database) (id : BundleId) : List MLXDR :=
  (((Query.findBundleById id).run db).map (·.operationsMLXDR)).getD []

/-- The bundles linked to a transaction. -/
def linkedTo (db : Database) (txId : TxHash) : List BundleId :=
  ((Query.findLinksByTransactionId txId).run db).map (·.bundleId)

/-- The completion of a stored operation. -/
def completionOf (cfg : Config) (txId : TxHash) (id : BundleId) (mlxdr : MLXDR) :
    Option Completion :=
  (cfg.fromMLXDR mlxdr).bind (·.completion txId id)

/-- One completion for each deposit and each withdraw of a bundle. -/
def owedBy (db : Database) (cfg : Config) (txId : TxHash) (id : BundleId) : List Completion :=
  (db.operationsOf id).filterMap (completionOf cfg txId id)

/-- One completion for each deposit and each withdraw of the linked bundles. -/
def owed (db : Database) (cfg : Config) (txId : TxHash) : List Completion :=
  (db.linkedTo txId).flatMap (db.owedBy cfg txId)

end Database

/-- The row of the transaction is UNVERIFIED. -/
def State.Unsettled (s : State) (txId : TxHash) : Prop :=
  (s.db.transactions.find txId).map (·.status) = some .unverified

instance (s : State) (txId : TxHash) : Decidable (s.Unsettled txId) :=
  inferInstanceAs (Decidable (_ = _))

/-- The transactions and bundles for which the verifier counted a retry. -/
def retries : Observer platform State Call (List (TxHash × BundleId)) where
  onOp _ _ _ m := m
  onServe _ _ (q : Req) m :=
    match q with
    | .command (.updateBundle id data) =>
      match data.retryCount, data.lastFailureReason with
      | some _, some (.verification _ _ txId _) => (txId, id) :: m
      | _, _ => m
    | _ => m
  onCrash m := m

/-- A process whose only calls are verifier cycles. -/
def verifiers (cfg : Config) : Machine platform State Call Drift :=
  { process cfg 0 fun _ l => l == .verifyTransactions with boot := .verifyTransactions }

/-- A transaction whose row is updated is UNVERIFIED. -/
def Req.SettlesOnce (s : State) : Req → Prop
  | .command (.updateTransaction txId _) => s.Unsettled txId
  | _ => True

instance (s : State) (q : Req) : Decidable (q.SettlesOnce s) := by
  unfold Req.SettlesOnce
  split <;> infer_instance

/-! ## The invariant -/

/-- What a cycle owns: the completions it may still emit and the retries it may
still count. -/
abbrev Dues := Multiset Completion × Multiset (TxHash × BundleId)

/-- The stored operations and the links are those of another database. -/
structure SameBundles (db₀ db : Database) : Prop where
  operations : ∀ id, db.operationsOf id = db₀.operationsOf id
  links : ∀ txId, (db.linkedTo txId).Perm (db₀.linkedTo txId)

/-- Nothing is emitted, counted or due for an UNVERIFIED transaction; for any
other, each completion that is owed and each retry at most once. -/
structure Overlap (cfg : Config) (db₀ : Database) (p : State × List (TxHash × BundleId))
    (r : Dues) : Prop where
  same : SameBundles db₀ p.1.db
  emitted : ∀ x : Completion, p.1.completions.count x + r.1.count x ≤
    if p.1.Unsettled x.txId then 0 else (db₀.owed cfg x.txId).count x
  counted : ∀ x, p.2.count x + r.2.count x ≤ if p.1.Unsettled x.1 then 0 else 1

section Invariant
variable {cfg : Config} {db₀ : Database} {s s' : State} {m : List (TxHash × BundleId)}
  {r f : Dues}

/-- Dues can be let go of. -/
theorem Overlap.drop (h : Overlap cfg db₀ (s, m) (r + f)) : Overlap cfg db₀ (s, m) f where
  same := h.same
  emitted x := by
    have hx := h.emitted x
    rw [Prod.fst_add, Multiset.count_add] at hx
    omega
  counted x := by
    have hx := h.counted x
    rw [Prod.snd_add, Multiset.count_add] at hx
    omega

/-- A change that settles no transaction and completes nothing. -/
theorem Overlap.congr (h : Overlap cfg db₀ (s, m) r) (hsame : SameBundles s.db s'.db)
    (hcompletions : s'.completions = s.completions)
    (hsettled : ∀ txId, s'.Unsettled txId ↔ s.Unsettled txId) : Overlap cfg db₀ (s', m) r where
  same := ⟨fun id => (hsame.operations id).trans (h.same.operations id),
    fun txId => (hsame.links txId).trans (h.same.links txId)⟩
  emitted x := by
    simp only [hcompletions, hsettled]
    exact h.emitted x
  counted x := by
    simp only [hsettled]
    exact h.counted x

end Invariant

/-! ## What keeps it -/

/-- No completion is emitted. -/
def Op.Silent : Op → Prop
  | .emit _ payload => payload.completion = none
  | _ => True

/-- No transaction is settled and no retry is counted. -/
def Req.Silent : Req → Prop
  | .command (.updateBundle _ data) => data.operationsMLXDR = none ∧ data.lastFailureReason = none
  | .command _ => False
  | _ => True

theorem reads_silent : Reads Op.Silent Req.Silent where
  query _ := trivial
  rpc _ := trivial
  now := trivial

theorem emitForBundles_silent {payload : EventPayload} (h : payload.completion = none)
    (ids : List BundleId) : Keeps Op.Silent Req.Silent (emitForBundles ids payload) :=
  emitForBundles_uses (fun _ => trivial) (fun _ => h) (fun _ => trivial) ids

theorem runOp_completions {o : Op} (ho : o.Silent) (s : State) :
    (runOp o s).2.completions = s.completions := by
  cases o with
  | emit scope payload =>
    have hnone : payload.completion = none := ho
    simp [State.completions, runOp, hnone]
  | _ => rfl

theorem operationsOf_congr {db db' : Database} {id : BundleId}
    (h : (db'.operationsBundles.find id).map (fun row => (row.operationsMLXDR, row.deletedAt)) =
      (db.operationsBundles.find id).map fun row => (row.operationsMLXDR, row.deletedAt)) :
    db'.operationsOf id = db.operationsOf id := by
  unfold Database.operationsOf
  simp only [Query.run]
  cases hrow : db.operationsBundles.find id with
  | none =>
    rw [hrow, Option.map_none, Option.map_eq_none_iff] at h
    rw [h]
  | some row =>
    rw [hrow] at h
    obtain ⟨row', hrow', heq⟩ := Option.map_eq_some_iff.mp h
    obtain ⟨hops, hdeleted⟩ := Prod.mk.inj heq
    rw [hrow']
    simp only [Option.filter_some, hdeleted]
    split
    · exact hops
    · rfl

theorem updateBundle_same (db : Database) (now : Time) (id : BundleId)
    {data : OperationsBundlePatch} (h : data.operationsMLXDR = none) :
    SameBundles db ((Command.updateBundle id data).run now db).2 where
  operations id' := by
    apply operationsOf_congr
    show ((db.setBundles now _ data).2.operationsBundles.find id').map _ = _
    rw [Database.setBundles_find, Option.map_map]
    apply congrArg (fun f => (db.operationsBundles.find id').map f)
    funext row
    simp only [Function.comp]
    split
    · simp [OperationsBundle.set, h]
    · rfl
  links _ := .refl _

theorem agrees_same {db db' : Database} (h : db'.Agrees db) : SameBundles db db' where
  operations id := by
    apply operationsOf_congr
    rw [h.bundles]
  links txId := by
    apply List.Perm.map
    apply List.Perm.filter
    exact Table.rows_perm h.links

theorem unsettled_congr {s s' : State} (h : s'.db.transactions = s.db.transactions)
    (txId : TxHash) : s'.Unsettled txId ↔ s.Unsettled txId := by
  rw [State.Unsettled, h]
  rfl

section Silent
variable {cfg : Config} {db₀ : Database} {s : State} {m : List (TxHash × BundleId)} {r : Dues}
  {l : Call}

theorem Overlap.runOp {o : Op} (ho : o.Silent) (h : Overlap cfg db₀ (s, m) r) :
    Overlap cfg db₀ ((host.observe retries l).runOp o (s, m)).2 r := by
  apply h.congr
  · show SameBundles s.db (ProviderPlatform.runOp o s).2.db
    rw [runOp_db]
    exact ⟨fun _ => rfl, fun _ => .refl _⟩
  · exact runOp_completions ho s
  · exact unsettled_congr (congrArg Database.transactions (runOp_db o s))

theorem Overlap.serve {q : Req} (hq : q.Silent) (h : Overlap cfg db₀ (s, m) r) :
    Overlap cfg db₀ ((host.observe retries l).serve q (s, m)).2 r := by
  cases q with
  | query q => exact h
  | rpc q =>
    apply h.congr
    · exact ⟨fun _ => rfl, fun _ => .refl _⟩
    · rfl
    · exact unsettled_congr rfl
  | command w =>
    cases w with
    | updateBundle id data =>
      obtain ⟨hops, hreason⟩ := hq
      have hkept : ((host.observe retries l).serve (.command (.updateBundle id data)) (s, m)).2 =
          ((ProviderPlatform.serve (.command (.updateBundle id data)) s).2, m) := by
        simp only [Host.observe, retries, hreason]
        cases data.retryCount <;> rfl
      rw [hkept]
      apply h.congr
      · exact updateBundle_same s.db s.clock id hops
      · rfl
      · exact unsettled_congr rfl
    | _ => exact hq.elim

end Silent

/-! ## The cycles -/

/-- A transaction is settled only while it is UNVERIFIED. -/
def overlap (cfg : Config) (db₀ : Database) (_ : Call) :
    Discipline platform (State × List (TxHash × BundleId)) Dues where
  inv := Overlap cfg db₀
  mayRun _ _ := True
  mayServe p := Req.SettlesOnce p.1
  mayReject _ _ := True

section Triples
variable {α : Type} {cfg : Config} {db₀ : Database} {l : Call} {own : Dues}

theorem overlap_passes :
    Task.Passes (host.observe retries l) (overlap cfg db₀ l) Op.Silent Req.Silent where
  run _ ho _ _ h _ := Overlap.runOp ho h
  serve _ hq _ _ h _ := Overlap.serve hq h

/-- What a task has left over is let go of. -/
theorem overlap_release {t : Promise α} {B : Except Err α → Dues → Prop}
    (ht : Task.Triple (host.observe retries l) (overlap cfg db₀ l) own t B) :
    Task.Triple (host.observe retries l) (overlap cfg db₀ l) own t fun _ o => o = 0 := by
  intro s f hi
  apply Task.wp_mono _ _ ?_ (ht s f hi)
  rintro r s' f' ⟨own', -, hi'⟩
  refine ⟨0, rfl, ?_⟩
  rw [zero_add]
  exact Overlap.drop hi'

theorem overlap_done {r : Except Err α} {own : Dues} :
    Task.Triple (host.observe retries l) (overlap cfg db₀ l) own (.done r) fun _ o => o = 0 :=
  overlap_release (.done (B := fun _ _ => True) trivial)

/-! ## Success -/

/-- What is due for one completion. -/
def dueFor (x : Option Completion) : Dues := ((x.toList : Multiset Completion), 0)

theorem Overlap.emit {s : State} {m : List (TxHash × BundleId)} {f : Dues} {scope : EventScope}
    {payload : EventPayload} (h : Overlap cfg db₀ (s, m) (dueFor payload.completion + f)) :
    Overlap cfg db₀ ((host.observe retries l).runOp (.emit scope payload) (s, m)).2 f where
  same := h.same
  emitted x := by
    have hx := h.emitted x
    rw [Prod.fst_add, dueFor, Multiset.count_add, Multiset.coe_count] at hx
    have hcount : (ProviderPlatform.runOp (.emit scope payload) s).2.completions.count x =
        s.completions.count x + payload.completion.toList.count x := by
      rw [State.completions, ProviderPlatform.runOp, List.filterMap_append, List.count_append]
      cases hpayload : payload.completion with
      | none => simp [hpayload, State.completions]
      | some y => simp [hpayload, State.completions]
    show (ProviderPlatform.runOp (.emit scope payload) s).2.completions.count x + _ ≤ _
    rw [hcount, add_assoc]
    exact hx
  counted x := by
    have hx := h.counted x
    rw [Prod.snd_add, dueFor, zero_add] at hx
    exact hx

/-- A completion that is due is emitted once. -/
theorem emitInScope_overlap {payload : EventPayload} (pp : PublicKey) :
    Task.Triple (host.observe retries l) (overlap cfg db₀ l) (dueFor payload.completion)
      (emitInScope payload pp) fun _ o => o = 0 := by
  apply overlap_release (B := fun _ _ => True)
  apply overlap_passes.bind (keeps_query reads_silent _)
  · intro scope
    cases scope with
    | none => exact .done trivial
    | some scope =>
      apply Task.Triple.op
      rintro ⟨s, m⟩ f hi -
      exact ⟨0, trivial, by rw [zero_add]; exact Overlap.emit hi⟩
  · exact fun _ => trivial

theorem findBundlePps_single (db : Database) (id : BundleId) :
    ((Query.findBundlePps [id]).run db).length ≤ 1 := by
  have hone : ∀ row ∈ db.operationsBundles.select fun r => [id].contains r.id, row.id = id := by
    intro row hrow
    simpa using (Table.mem_select.mp hrow).2
  simp only [Query.run, List.length_map]
  rcases hrows : db.operationsBundles.select fun r => [id].contains r.id with
    _ | ⟨row, _ | ⟨row', rows⟩⟩
  · exact Nat.zero_le 1
  · exact Nat.le_refl 1
  · have hnodup := Table.select_nodup db.operationsBundles fun r => [id].contains r.id
    rw [hrows] at hone hnodup
    have hrow := hone row (by simp)
    have hrow' := hone row' (by simp)
    simp [hrow, hrow'] at hnodup

theorem distinctPps_single {rows : List (Option PublicKey)} (h : rows.length ≤ 1) :
    (distinctPps rows).length ≤ 1 := by
  rcases rows with _ | ⟨pp, _ | ⟨pp', rows⟩⟩
  · exact Nat.zero_le 1
  · cases pp with
    | none => exact Nat.zero_le 1
    | some pp =>
      by_cases hpp : pp = ""
      · simp [distinctPps, hpp]
      · simp [distinctPps, hpp, List.eraseDups_cons]
  · simp at h

/-- A bundle has one PP: one event. -/
theorem emitForBundles_overlap (payload : EventPayload) (id : BundleId) :
    Task.Triple (host.observe retries l) (overlap cfg db₀ l) (dueFor payload.completion)
      (emitForBundles [id] payload) fun _ o => o = 0 := by
  have hread : Task.Triple (host.observe retries l) (overlap cfg db₀ l) (dueFor payload.completion)
      (query (.findBundlePps [id])) fun r o => o = dueFor payload.completion ∧
        ∀ rows : List (Option PublicKey), r = .ok rows → rows.length ≤ 1 := by
    apply Task.Triple.call
    · rintro ⟨s, m⟩ f hi -
      refine ⟨_, ⟨rfl, ?_⟩, hi⟩
      intro rows he
      cases he
      exact findBundlePps_single s.db id
    · exact fun p f hi _ e => ⟨_, ⟨rfl, nofun⟩, hi⟩
  apply overlap_release (B := fun _ _ => True)
  simp only [emitForBundles, List.isEmpty_cons, Bool.false_eq_true, if_false]
  apply Task.Triple.recover (B := fun _ _ => True) ?_ (fun _ _ _ => trivial)
    fun _ _ _ => .done trivial
  apply Task.Triple.bind hread
  · rintro rows o ⟨rfl, hrows⟩
    have hone := distinctPps_single (hrows rows rfl)
    rcases hpps : distinctPps rows with _ | ⟨pp, _ | ⟨pp', pps⟩⟩
    · exact .done trivial
    · exact (emitInScope_overlap pp).bind (fun _ _ _ => .done trivial) fun _ _ _ => trivial
    · rw [hpps] at hone
      simp at hone
  · exact fun _ _ _ => trivial

/-- The completions that are due for some operations of a bundle. -/
def dueForAll (xs : List Completion) : Dues := ((xs : Multiset Completion), 0)

theorem dueForAll_filterMap {β : Type} (g : β → Option Completion) (xs : List β) :
    (xs.map fun x => dueFor (g x)).sum = dueForAll (xs.filterMap g) := by
  induction xs with
  | nil => rfl
  | cons x xs ih =>
    rw [List.map_cons, List.sum_cons, ih, List.filterMap_cons]
    cases g x with
    | none => exact zero_add _
    | some y => rfl

theorem dueForAll_flatMap {β : Type} (g : β → List Completion) (xs : List β) :
    (xs.map fun x => dueForAll (g x)).sum = dueForAll (xs.flatMap g) := by
  induction xs with
  | nil => rfl
  | cons x xs ih =>
    rw [List.map_cons, List.sum_cons, ih, List.flatMap_cons]
    rfl

theorem emitForOperation_overlap (txId : TxHash) (id : BundleId) (channel : ContractId)
    (mlxdr : MLXDR) :
    Task.Triple (host.observe retries l) (overlap cfg db₀ l)
      (dueFor (Database.completionOf cfg txId id mlxdr))
      (emitForOperation cfg txId id channel mlxdr) fun _ o => o = 0 := by
  unfold emitForOperation Database.completionOf
  split
  · rename_i op hop
    rw [hop]
    exact emitForBundles_overlap (.depositCompleted id txId channel op.publicKey op.amount) id
  · rename_i op hop
    rw [hop]
    exact emitForBundles_overlap (.withdrawCompleted id txId channel op.publicKey op.amount) id
  · exact overlap_done

/-- The completions of one bundle. -/
theorem emitBundleEvents_overlap (txId : TxHash) (channel : ContractId) (id : BundleId) :
    Task.Triple (host.observe retries l) (overlap cfg db₀ l) (dueForAll (db₀.owedBy cfg txId id))
      (emitBundleEvents cfg txId channel id) fun r o => r = .ok () → o = 0 := by
  have hread : Task.Triple (host.observe retries l) (overlap cfg db₀ l)
      (dueForAll (db₀.owedBy cfg txId id)) (query (.findBundleById id))
      fun r o => o = dueForAll (db₀.owedBy cfg txId id) ∧ ∀ bundle : Option OperationsBundle,
        r = .ok bundle → (bundle.map (·.operationsMLXDR)).getD [] = db₀.operationsOf id := by
    apply Task.Triple.call
    · rintro ⟨s, m⟩ f hi -
      refine ⟨_, ⟨rfl, ?_⟩, hi⟩
      intro bundle he
      cases he
      exact hi.same.operations id
    · intro p f hi _ e
      refine ⟨_, ⟨rfl, ?_⟩, hi⟩
      intro bundle he
      cases he
  apply Task.Triple.bind hread
  · rintro bundle o ⟨rfl, hoperations⟩
    simp only [hoperations bundle rfl]
    rw [Database.owedBy, ← dueForAll_filterMap]
    exact Task.Triple.forEach_split fun mlxdr _ =>
      (emitForOperation_overlap txId id channel mlxdr).mono fun _ _ ho _ => ho
  · exact fun _ _ _ => nofun

theorem emitCompleted_overlap (txId : TxHash) (ids : List BundleId) (channel : Option ContractId) :
    Task.Triple (host.observe retries l) (overlap cfg db₀ l)
      (dueForAll (ids.flatMap (db₀.owedBy cfg txId))) (emitCompleted cfg txId ids channel)
      fun _ o => o = 0 := by
  apply overlap_release (B := fun _ _ => True)
  cases channel with
  | none => exact .done trivial
  | some channel =>
    have hsilent : Keeps Op.Silent Req.Silent
        (emitForBundles ids (.bundleCompleted txId ids channel)) :=
      emitForBundles_silent rfl ids
    apply overlap_passes.bind hsilent
    · intro _
      rw [← dueForAll_flatMap]
      exact (Task.Triple.forEach_split fun id _ => emitBundleEvents_overlap txId channel id).mono
        fun _ _ _ => trivial
    · exact fun _ => trivial

/-! ## Settling -/

theorem mem_owedBy {db : Database} {txId : TxHash} {id : BundleId} {x : Completion}
    (h : x ∈ db.owedBy cfg txId id) : x.txId = txId := by
  obtain ⟨mlxdr, -, hx⟩ := List.mem_filterMap.mp h
  obtain ⟨op, -, hx⟩ := Option.bind_eq_some_iff.mp hx
  cases op <;> cases hx <;> rfl

theorem linkedTo_nodup (db : Database) (txId : TxHash) : (db.linkedTo txId).Nodup := by
  apply List.Nodup.map_on
  · intro row hrow row' hrow' hid
    obtain ⟨hmem, htx⟩ := Table.mem_select.mp hrow
    obtain ⟨hmem', htx'⟩ := Table.mem_select.mp hrow'
    simp only [Bool.and_eq_true, beq_iff_eq] at htx htx'
    exact Table.eq_of_key_eq hmem hmem' (Prod.ext hid (htx.2.trans htx'.2.symm))
  · exact List.Nodup.of_map _ (Table.select_nodup db.bundlesTransactions _)

theorem unsettled_updateTransaction (s : State) (txId other : TxHash) {status : TransactionStatus}
    (hstatus : status ≠ .unverified) :
    (ProviderPlatform.serve (.command (.updateTransaction txId status)) s).2.Unsettled other ↔
      other ≠ txId ∧ s.Unsettled other := by
  have hfind := Command.updateTransaction_find s.db s.clock txId status other
  unfold State.Unsettled
  show (((Command.updateTransaction txId status).run s.clock s.db).2.transactions.find other).map _
    = _ ↔ _
  rw [hfind]
  cases hrow : s.db.transactions.find other with
  | none => simp
  | some row =>
    have hid : row.id = other := Table.find_key hrow
    by_cases hsame : other = txId
    · simp [hid, hsame, Transaction.setStatus, hstatus]
    · simp [hid, hsame]

/-- The cycle that settles a transaction gets what is due for it. -/
theorem Overlap.settle {s : State} {m : List (TxHash × BundleId)} {f due : Dues} {txId : TxHash}
    {status : TransactionStatus} (h : Overlap cfg db₀ (s, m) f) (hopen : s.Unsettled txId)
    (hstatus : status ≠ .unverified)
    (hcompletions : ∀ x ∈ due.1, x.txId = txId)
    (howed : ∀ x, due.1.count x ≤ (db₀.owed cfg txId).count x)
    (hretries : ∀ x ∈ due.2, x.1 = txId) (honce : due.2.Nodup) :
    Overlap cfg db₀
      ((host.observe retries l).serve (.command (.updateTransaction txId status)) (s, m)).2
      (due + f) := by
  have hsettled := fun other => unsettled_updateTransaction s txId other hstatus
  constructor
  · exact ⟨h.same.operations, h.same.links⟩
  · intro x
    have hx := h.emitted x
    change s.completions.count x + _ ≤ _ at hx
    show s.completions.count x + _ ≤
      if (ProviderPlatform.serve _ s).2.Unsettled x.txId then _ else _
    rw [Prod.fst_add, Multiset.count_add]
    simp only [hsettled]
    by_cases htx : x.txId = txId
    · rw [htx, if_pos hopen] at hx
      have hdue := howed x
      simp only [htx, ne_eq, not_true_eq_false, false_and, if_false]
      omega
    · have hnone : due.1.count x = 0 :=
        Multiset.count_eq_zero_of_notMem fun hmem => htx (hcompletions x hmem)
      simpa [htx, hnone] using hx
  · intro x
    have hx := h.counted x
    change m.count x + _ ≤ _ at hx
    show m.count x + _ ≤ if (ProviderPlatform.serve _ s).2.Unsettled x.1 then _ else _
    rw [Prod.snd_add, Multiset.count_add]
    simp only [hsettled]
    by_cases htx : x.1 = txId
    · rw [htx, if_pos hopen] at hx
      have hdue := Multiset.nodup_iff_count_le_one.mp honce x
      simp only [htx, ne_eq, not_true_eq_false, false_and, if_false]
      omega
    · have hnone : due.2.count x = 0 :=
        Multiset.count_eq_zero_of_notMem fun hmem => htx (hretries x hmem)
      simpa [htx, hnone] using hx

theorem updateTransactionStatus_overlap {txId : TxHash} {status : TransactionStatus}
    {due : Dues} (hstatus : status ≠ .unverified) (hcompletions : ∀ x ∈ due.1, x.txId = txId)
    (howed : ∀ x, due.1.count x ≤ (db₀.owed cfg txId).count x)
    (hretries : ∀ x ∈ due.2, x.1 = txId) (honce : due.2.Nodup) :
    Task.Triple (host.observe retries l) (overlap cfg db₀ l) 0
      (updateTransactionStatus txId status) fun r o => r = .ok () → o = due := by
  have hupdate : Task.Triple (host.observe retries l) (overlap cfg db₀ l) 0
      (command (.updateTransaction txId status)) fun r o => r.isOk = true → o = due := by
    apply Task.Triple.call
    · rintro ⟨s, m⟩ f hi hopen
      rw [zero_add] at hi
      exact ⟨due, fun _ => rfl, Overlap.settle hi hopen hstatus hcompletions howed hretries honce⟩
    · exact fun p f hi _ e => ⟨0, nofun, hi⟩
  apply hupdate.bind
  · exact fun rows o ho => .done fun _ => ho rfl
  · exact fun _ _ _ => nofun

theorem handleVerificationSuccess_overlap {txId : TxHash} {ids : List BundleId}
    (hids : ids.Perm (db₀.linkedTo txId)) :
    Task.Triple (host.observe retries l) (overlap cfg db₀ l) 0
      (handleVerificationSuccess cfg txId ids) fun _ o => o = 0 := by
  apply overlap_release (B := fun _ _ => True)
  apply overlap_passes.bind (findFirstBundleChannel_keeps reads_silent ids)
  · intro channel
    have hsettle : Task.Triple (host.observe retries l) (overlap cfg db₀ l) 0
        (updateTransactionStatus txId .verified)
        fun r o => r = .ok () → o = dueForAll (ids.flatMap (db₀.owedBy cfg txId)) := by
      apply updateTransactionStatus_overlap (by decide)
      · intro x hx
        obtain ⟨id, -, hx⟩ := List.mem_flatMap.mp (Multiset.mem_coe.mp hx)
        exact mem_owedBy hx
      · intro x
        have hperm := hids.flatMap_right (db₀.owedBy cfg txId)
        exact le_of_eq ((Multiset.coe_count x _).trans (hperm.count_eq x))
      · exact fun x hx => absurd hx (Multiset.notMem_zero x)
      · exact Multiset.nodup_zero
    apply hsettle.bind
    · rintro _ o ho
      rw [ho rfl]
      have hcomplete : Keeps Op.Silent Req.Silent
          (Task.forEach (I := platform) completeBundle ids) :=
        Task.Uses.forEach fun id _ => Task.Uses.recover
          ((keeps_command ⟨rfl, rfl⟩).bind fun _ => keeps_pure _) fun _ => keeps_pure _
      apply overlap_passes.bind hcomplete
      · intro _
        exact (emitCompleted_overlap txId ids channel).mono fun _ _ _ => trivial
      · exact fun _ => trivial
    · exact fun _ _ _ => trivial
  · exact fun _ => trivial

/-! ## Failure -/

/-- What is due for one retry. -/
def dueToRetry (txId : TxHash) (id : BundleId) : Dues := (0, {(txId, id)})

theorem dueToRetry_sum (txId : TxHash) (ids : List BundleId) :
    (ids.map (dueToRetry txId)).sum =
      ((0, (ids.map (txId, ·) : List (TxHash × BundleId))) : Dues) := by
  induction ids with
  | nil => rfl
  | cons id ids ih =>
    rw [List.map_cons, List.sum_cons, ih]
    rfl

/-- A retry that is due is counted once. -/
theorem Overlap.count {s : State} {m : List (TxHash × BundleId)} {f : Dues} {txId : TxHash}
    {id : BundleId} {data : OperationsBundlePatch} {retryCount : Nat} {ts : Time}
    {reason : String} {bundleId : BundleId} (h : Overlap cfg db₀ (s, m) (dueToRetry txId id + f))
    (hops : data.operationsMLXDR = none) (hretry : data.retryCount = some retryCount)
    (hreason : data.lastFailureReason = some (.verification ts reason txId bundleId)) :
    Overlap cfg db₀ ((host.observe retries l).serve (.command (.updateBundle id data)) (s, m)).2
      f := by
  have hcounted : ((host.observe retries l).serve (.command (.updateBundle id data)) (s, m)).2 =
      ((ProviderPlatform.serve (.command (.updateBundle id data)) s).2, (txId, id) :: m) := by
    simp only [Host.observe, retries, hretry, hreason]
    rfl
  rw [hcounted]
  constructor
  · have hsame := updateBundle_same s.db s.clock id hops
    exact ⟨fun id' => (hsame.operations id').trans (h.same.operations id'),
      fun txId' => (hsame.links txId').trans (h.same.links txId')⟩
  · intro x
    have hx := h.emitted x
    rw [Prod.fst_add, dueToRetry, zero_add] at hx
    exact hx
  · intro x
    have hx := h.counted x
    rw [Prod.snd_add, dueToRetry, Multiset.count_add, Multiset.count_singleton] at hx
    change m.count x + _ ≤ if s.Unsettled x.1 then 0 else 1 at hx
    show ((txId, id) :: m).count x + _ ≤ if s.Unsettled x.1 then 0 else 1
    rw [List.count_cons]
    simp only [beq_iff_eq, eq_comm (a := (txId, id))]
    omega

theorem failBundleVerification_overlap (txId : TxHash) (reason : String) (terminal : Bool)
    (detail : StructuredFailureDetail) (id : BundleId) :
    Task.Triple (host.observe retries l) (overlap cfg db₀ l) (dueToRetry txId id)
      (failBundleVerification cfg txId reason terminal detail id) fun _ o => o = 0 := by
  apply overlap_release (B := fun _ _ => True)
  apply Task.Triple.recover (B := fun _ _ => True) ?_ (fun _ _ _ => trivial)
    fun _ _ _ => .done trivial
  apply overlap_passes.bind (keeps_query reads_silent _)
  · intro bundle
    cases bundle with
    | none => exact .done trivial
    | some bundle =>
      apply overlap_passes.bind (keeps_run reads_silent.now)
      · intro now
        apply Task.Triple.bind (B := fun _ _ => True)
        · apply Task.Triple.call
          · rintro ⟨s, m⟩ f hi -
            refine ⟨0, trivial, ?_⟩
            rw [zero_add]
            exact Overlap.count hi rfl rfl rfl
          · exact fun p f hi _ e => ⟨_, trivial, hi⟩
        · exact fun _ _ _ => .done trivial
        · exact fun _ _ _ => trivial
      · exact fun _ => trivial
  · exact fun _ => trivial

theorem handleVerificationFailure_overlap {txId : TxHash} {ids : List BundleId}
    (hids : ids.Perm (db₀.linkedTo txId)) (reason : String) (detail : StructuredFailureDetail) :
    Task.Triple (host.observe retries l) (overlap cfg db₀ l) 0
      (handleVerificationFailure cfg txId reason ids true detail) fun _ o => o = 0 := by
  have hsettle : Task.Triple (host.observe retries l) (overlap cfg db₀ l) 0
      (updateTransactionStatus txId .failed)
      fun r o => r = .ok () → o = (ids.map (dueToRetry txId)).sum := by
    rw [dueToRetry_sum]
    apply updateTransactionStatus_overlap (by decide)
    · exact fun x hx => absurd hx (Multiset.notMem_zero x)
    · exact fun x => by simp
    · intro x hx
      obtain ⟨id, -, rfl⟩ := List.mem_map.mp (Multiset.mem_coe.mp hx)
      rfl
    · have hnodup := hids.nodup_iff.mpr (linkedTo_nodup db₀ txId)
      exact Multiset.coe_nodup.mpr (hnodup.map (Prod.mk_right_injective txId))
  have hcount : Task.Triple (host.observe retries l) (overlap cfg db₀ l)
      (ids.map (dueToRetry txId)).sum
      (Task.collect (I := platform) (failBundleVerification cfg txId reason true detail) ids)
      fun r o => ∀ ys, r = .ok ys → o = (ys.map fun _ => 0).sum :=
    Task.Triple.collect_split fun id _ =>
      (failBundleVerification_overlap txId reason true detail id).mono fun _ _ ho _ _ => ho
  have hnone : (Task.collect (I := platform)
      (failBundleVerification cfg txId reason true detail) ids).Yields
        fun ys => ∀ y ∈ ys, y = none :=
    .collect fun id _ => failBundleVerification_yields cfg txId reason detail id
  apply overlap_release (B := fun _ _ => True)
  apply hsettle.bind
  · rintro _ o ho
    rw [ho rfl]
    apply (hcount.yields hnone).bind
    · rintro retryable o ⟨-, hempty⟩
      have hnil : retryable.filterMap id = [] := by
        rw [List.filterMap_eq_nil_iff]
        exact fun y hy => by rw [hempty retryable rfl y hy]; rfl
      rw [hnil]
      exact .done trivial
    · exact fun _ _ _ => trivial
  · exact fun _ _ _ => trivial

/-! ## A cycle -/

theorem emitFailed_silent (txId : TxHash) (ids : List BundleId) (reason : String)
    (channel : Option ContractId) :
    Keeps Op.Silent Req.Silent (emitFailed txId ids reason channel) := by
  cases channel with
  | none => exact keeps_pure _
  | some channel =>
    exact emitForBundles_silent rfl ids

theorem settleTransaction_overlap {tx : Transaction} {ids : List BundleId}
    (hids : ids.Perm (db₀.linkedTo tx.id)) (result : VerificationResult) :
    Task.Triple (host.observe retries l) (overlap cfg db₀ l) 0
      (settleTransaction cfg tx ids result) fun _ o => o = 0 := by
  cases result with
  | verified => exact handleVerificationSuccess_overlap hids
  | failed reason =>
    apply overlap_passes.bind (findFirstBundleChannel_keeps reads_silent ids)
    · intro channel
      apply Task.Triple.bind (handleVerificationFailure_overlap hids reason onchainTxFailed)
      · rintro _ o rfl
        exact overlap_passes.uses (emitFailed_silent tx.id ids reason channel) 0
      · exact fun _ _ ho => ho
    · exact fun _ => rfl
  | pending =>
    apply overlap_passes.bind (keeps_run reads_silent.now)
    · intro now
      split
      · exact handleVerificationFailure_overlap hids _ providerTxTimeout
      · exact .done rfl
    · exact fun _ => rfl

theorem verifyTransaction_overlap (tx : Transaction) :
    Task.Triple (host.observe retries l) (overlap cfg db₀ l) 0 (verifyTransaction cfg tx)
      fun _ o => o = 0 := by
  have hread : Task.Triple (host.observe retries l) (overlap cfg db₀ l) 0
      (query (.findLinksByTransactionId tx.id)) fun r o => o = 0 ∧
        ∀ links : List BundleTransaction, r = .ok links →
          (links.map (·.bundleId)).Perm (db₀.linkedTo tx.id) := by
    apply Task.Triple.call
    · rintro ⟨s, m⟩ f hi -
      refine ⟨0, ⟨rfl, ?_⟩, hi⟩
      intro links he
      cases he
      exact hi.same.links tx.id
    · intro p f hi _ e
      refine ⟨0, ⟨rfl, ?_⟩, hi⟩
      intro links he
      cases he
  apply Task.Triple.recover (B := fun _ o => o = 0)
  · apply hread.bind
    · rintro links o ⟨rfl, hlinks⟩
      simp only
      split
      · exact .done rfl
      · apply overlap_passes.bind (verifyTransactionOnNetwork_keeps reads_silent _)
        · intro result
          exact settleTransaction_overlap (hlinks links rfl) result
        · exact fun _ => rfl
    · exact fun _ _ ho => ho.1
  · exact fun _ _ ho => ho
  · exact fun _ _ ho => .done ho

/-- A cycle starts with nothing due, and leaves nothing due. -/
theorem verifyTransactions_overlap :
    Task.Triple (host.observe retries l) (overlap cfg db₀ l) 0 (verifyTransactions cfg)
      fun _ o => o = 0 := by
  apply Task.Triple.recover (B := fun _ o => o = 0)
  · apply overlap_passes.bind (keeps_query reads_silent _)
    · intro txs
      exact .forEach fun tx _ => verifyTransaction_overlap tx
    · exact fun _ => rfl
  · exact fun _ _ ho => ho
  · exact fun _ _ ho => .done ho

end Triples

/-! ## Every run -/

section Runs
variable {cfg : Config} {s₀ : State} {c : ProviderPool} {m : List (TxHash × BundleId)}

theorem respects_overlap (db₀ : Database) :
    (verifiers cfg).RespectsObserved (overlap cfg db₀) retries (ServesMeet Req.SettlesOnce) where
  run _ _ _ _ _ _ _ _ _ := trivial
  serve c m i l q k hg ht := hg (l, q) (by simp [Choice.served, ht])
  reject _ _ _ _ _ _ _ _ _ := trivial

theorem Overlap.start (hevents : s₀.events = []) : Overlap cfg s₀.db (s₀, []) 0 where
  same := ⟨fun _ => rfl, fun _ => .refl _⟩
  emitted x := by
    have hnone : s₀.completions = [] := by rw [State.completions, hevents]; rfl
    simp [hnone]
  counted x := by simp

theorem Overlap.outside {db₀ : Database} {s s' : State} {r : Dues} (h : Overlap cfg db₀ (s, m) r)
    (hdb : s'.db.Agrees s.db) (hevents : s'.events = s.events) : Overlap cfg db₀ (s', m) r := by
  apply h.congr
  · exact agrees_same hdb
  · rw [State.completions, hevents]
    rfl
  · intro txId
    rw [State.Unsettled, hdb.transactions]
    rfl

theorem drift_events (d : Drift) (s : State) : (drift d s).events = s.events := by
  cases d <;> rfl

/-- **Overlapping cycles are harmless where a transaction is settled once.** In
every run of any number of interleaved verifier cycles in which an update of a
transaction row finds it UNVERIFIED, each completion is emitted at most as often
as the linked bundles owe it, and each retry is counted at most once. -/
theorem cycles_settle_once (hevents : s₀.events = [])
    (h : (verifiers cfg).Observed retries (ServesMeet Req.SettlesOnce) ⟨s₀, []⟩ [] c m) :
    (∀ x, c.state.completions.count x ≤ (s₀.db.owed cfg x.txId).count x) ∧ m.Nodup := by
  have hcycle (l : Call) : Task.Triple (host.observe retries l) (overlap cfg s₀.db l) 0
      (verifyTransactions cfg) fun _ _ => True :=
    verifyTransactions_overlap.mono fun _ _ _ => trivial
  have hshares : Shares ((verifiers cfg).host.observe retries) (overlap cfg s₀.db)
      (Overlap cfg s₀.db) (fun _ _ _ => True) (c.state, m) c.tasks :=
    h.shares (fun _ => rfl) (hcycle _)
    (fun s l hl => by
      obtain rfl : l = .verifyTransactions := eq_of_beq hl
      exact hcycle _)
    (respects_overlap s₀.db)
    (fun c m d r _ hi => hi.outside (drift_agrees d c.state) (drift_events d c.state))
    (fun c m r _ hi => by
      have hkept : Overlap cfg s₀.db (reboot cfg c.state, m) (r + 0) := by
        rw [add_zero]
        exact hi.outside (.refl _) rfl
      exact hkept.drop)
    (shares_nil (Overlap.start hevents))
  obtain ⟨r, hr⟩ := hshares.holds
  constructor
  · intro x
    have hx := hr.emitted x
    change c.state.completions.count x + _ ≤ _ at hx
    split at hx <;> omega
  · apply List.nodup_iff_count_le_one.mpr
    intro x
    have hx := hr.counted x
    change m.count x + _ ≤ _ at hx
    split at hx <;> omega

end Runs

namespace Small

/-- A bundle of a deposit and a withdraw, linked to an UNVERIFIED transaction. -/
def linked : State :=
  { state with db := { database with
      operationsBundles := ⟨[NewOperationsBundle.row 0 ⟨"bundle", .processing, "channel", 1000,
        ["deposit 10", "withdraw 3"], 1, "GPP", "GSUB", 0⟩], by decide⟩
      transactions := ⟨[NewTransaction.row 0 ⟨"tx", .unverified, 5000, "0", 0, "GSUB"⟩], by decide⟩
      bundlesTransactions := ⟨[NewBundleTransaction.row 0 ⟨"bundle", "tx", 0, "GSUB"⟩], by decide⟩
      directory := { database.directory with paymentProviders := ⟨[⟨"GPP", none⟩], by decide⟩ } } }

def deposited : Completion := ⟨"tx", "bundle", .deposit ⟨"GDEP", 10⟩⟩

/-- Two cycles read the transaction; the first settles it. -/
def oneSettles : List ProviderChoice :=
  [.start .verifyTransactions, .start .verifyTransactions] ++ serves 0 4 ++ serves 1 4 ++
    serves 0 9 ++ [.resume 0]

/-- Then so does the second. -/
def bothSettle : List ProviderChoice := oneSettles ++ serves 1 9 ++ [.resume 1]

end Small

theorem cycles_settle_once_small : ∃ (c : ProviderPool) (m : List (TxHash × BundleId)),
    c.state.completions.length = 2 ∧
      (∀ x, c.state.completions.count x ≤ (Small.linked.db.owed Small.config x.txId).count x) ∧
      m.Nodup := by
  have hwatch : ((verifiers Small.config).watch retries (ServesMeet Req.SettlesOnce)
      Small.oneSettles ⟨Small.linked, []⟩ []).map (fun r => r.1.state.completions.length == 2) =
      some true := by decide +kernel
  obtain ⟨c, m, h, hp⟩ :=
    Machine.exists_observed Small.oneSettles (fun (s : State) _ => s.completions.length == 2) hwatch
  exact ⟨c, m, eq_of_beq hp, cycles_settle_once rfl h⟩

/-- The deposit is reported once by each of the cycles. -/
theorem overlapping_cycles_emit_twice :
    ¬ ∀ (cfg : Config) (s₀ : State) (c : ProviderPool) (m : List (TxHash × BundleId)),
      s₀.events = [] → (verifiers cfg).Observed retries Machine.Free ⟨s₀, []⟩ [] c m →
      (∀ x, c.state.completions.count x ≤ (s₀.db.owed cfg x.txId).count x) ∧ m.Nodup := by
  intro h
  have hwatch : ((verifiers Small.config).watch retries Machine.Free
      Small.bothSettle ⟨Small.linked, []⟩ []).map (fun r =>
        r.1.state.completions.count Small.deposited == 2) = some true := by decide +kernel
  obtain ⟨c, m, hr, hp⟩ :=
    Machine.exists_observed Small.bothSettle
      (fun (s : State) _ => s.completions.count Small.deposited == 2) hwatch
  have hle := (h _ _ _ _ rfl hr).1 Small.deposited
  have howed : (Small.linked.db.owed Small.config Small.deposited.txId).count Small.deposited =
      1 := by decide +kernel
  rw [eq_of_beq hp, howed] at hle
  omega

end ProviderPlatform
