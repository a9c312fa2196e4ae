import ProviderPlatform.Lifecycle.Holding

/-! # How often a bundle is tried

A tick that fails raises the retry count of the row before it queues the bundle
again, and a row that has reached the maximum is no longer active. So the row
of a queued bundle counts every tick that pulled it. -/
namespace ProviderPlatform
open Async Store

/-! ## What is known of a bundle -/

section Defs
variable (cfg : Config) (s : State) (m : Ticks)

/-- Unless the verifier failed it, its row is below the maximum. -/
def Below (id : BundleId) : Prop :=
  id ∉ m.verifierFailed →
    ∀ row, s.db.operationsBundles.find id = some row → row.retryCount < cfg.maxRetryAttempts

/-- Its row, while it is active, counts the ticks but for `n` of them. -/
def Counts (id : BundleId) (n : Nat) : Prop :=
  ∀ row, s.db.operationsBundles.find id = some row → row.isIn BundleStatus.active = true →
    m.attempts.count id ≤ row.retryCount + n

/-- The bundle may be in the queue. -/
structure Queueable (id : BundleId) : Prop where
  attempts : m.attempts.count id < cfg.maxRetryAttempts
  counts : Counts s m id 0
  below : Below cfg s m id

/-- What holds of a bundle wherever it is. -/
structure Bounded (id : BundleId) : Prop where
  attempts : m.attempts.count id ≤ cfg.maxRetryAttempts
  active : ∀ row, s.db.operationsBundles.find id = some row →
    row.isIn BundleStatus.active = true → row.retryCount < cfg.maxRetryAttempts
  retryCount : id ∉ m.verifierFailed →
    ∀ row, s.db.operationsBundles.find id = some row → row.retryCount ≤ cfg.maxRetryAttempts

/-- What a token says of its bundle. -/
def Hold.Fits : Hold → Prop
  | .fresh id | .ready id => Queueable cfg s m id
  | .taken id => Counts s m id 1 ∧ Below cfg s m id
  | .reads id retryCount =>
    (∀ row, s.db.operationsBundles.find id = some row → row.isIn BundleStatus.active = true →
      m.attempts.count id ≤ retryCount + 1) ∧
    (id ∉ m.verifierFailed → retryCount < cfg.maxRetryAttempts)
  | _ => True

/-- The queue and the tokens say so of the tracked bundles. -/
structure Counting (tracked : BundleId → Prop) (r : Holds) : Prop where
  bounded : ∀ id, tracked id → Bounded cfg s m id
  queued : ∀ id ∈ s.memory.mempool.queuedIds, tracked id → Queueable cfg s m id
  tokens : ∀ t ∈ r, ∀ id ∈ t.ids, tracked id → t.Fits cfg s m

end Defs

/-! ## Changes that count nothing -/

/-- The row of the bundle may leave the active statuses; its retry count stays,
unless the verifier fails it. -/
structure Fades (s : State) (m : Ticks) (s' : State) (m' : Ticks) (id : BundleId) : Prop where
  attempts : m'.attempts.count id = m.attempts.count id
  failed : id ∈ m.verifierFailed → id ∈ m'.verifierFailed
  row : ∀ row', s'.db.operationsBundles.find id = some row' →
    ∃ row, s.db.operationsBundles.find id = some row ∧
      (row'.isIn BundleStatus.active = true →
        row.isIn BundleStatus.active = true ∧ row'.retryCount = row.retryCount) ∧
      (id ∉ m'.verifierFailed → row'.retryCount = row.retryCount)

section Fades
variable {cfg : Config} {s s' : State} {m m' : Ticks} {tracked : BundleId → Prop}
  {r a b f : Holds} {id : BundleId}

theorem fades_same (hfind : s'.db.operationsBundles.find id = s.db.operationsBundles.find id)
    (hattempts : m'.attempts.count id = m.attempts.count id)
    (hfailed : id ∈ m.verifierFailed → id ∈ m'.verifierFailed) : Fades s m s' m' id where
  attempts := hattempts
  failed := hfailed
  row row' hrow' := ⟨row', hfind ▸ hrow', fun hactive => ⟨hactive, rfl⟩, fun _ => rfl⟩

theorem Counts.fades {n : Nat} (h : Counts s m id n) (hf : Fades s m s' m' id) :
    Counts s' m' id n := by
  intro row' hrow' hactive
  obtain ⟨row, hrow, hstays, -⟩ := hf.row row' hrow'
  obtain ⟨hwas, hcount⟩ := hstays hactive
  rw [hf.attempts, hcount]
  exact h row hrow hwas

theorem Below.fades (h : Below cfg s m id) (hf : Fades s m s' m' id) : Below cfg s' m' id := by
  intro hnot row' hrow'
  obtain ⟨row, hrow, -, hcount⟩ := hf.row row' hrow'
  rw [hcount hnot]
  exact h (fun hmem => hnot (hf.failed hmem)) row hrow

theorem Queueable.fades (h : Queueable cfg s m id) (hf : Fades s m s' m' id) :
    Queueable cfg s' m' id :=
  ⟨hf.attempts ▸ h.attempts, h.counts.fades hf, h.below.fades hf⟩

theorem Bounded.fades (h : Bounded cfg s m id) (hf : Fades s m s' m' id) :
    Bounded cfg s' m' id where
  attempts := hf.attempts ▸ h.attempts
  active row' hrow' hactive := by
    obtain ⟨row, hrow, hstays, -⟩ := hf.row row' hrow'
    obtain ⟨hwas, hcount⟩ := hstays hactive
    rw [hcount]
    exact h.active row hrow hwas
  retryCount hnot row' hrow' := by
    obtain ⟨row, hrow, -, hcount⟩ := hf.row row' hrow'
    rw [hcount hnot]
    exact h.retryCount (fun hmem => hnot (hf.failed hmem)) row hrow

theorem Hold.Fits.fades {t : Hold} (h : t.Fits cfg s m) (hid : id ∈ t.ids)
    (hf : Fades s m s' m' id) : t.Fits cfg s' m' := by
  cases t with
  | fresh id' | ready id' =>
    obtain rfl := List.mem_singleton.mp hid
    exact Queueable.fades h hf
  | taken id' =>
    obtain rfl := List.mem_singleton.mp hid
    exact ⟨h.1.fades hf, h.2.fades hf⟩
  | reads id' retryCount =>
    obtain rfl := List.mem_singleton.mp hid
    obtain ⟨hcounts, hbelow⟩ := h
    refine ⟨fun row' hrow' hactive => ?_, fun hnot => hbelow fun hmem => hnot (hf.failed hmem)⟩
    obtain ⟨row, hrow, hstays, -⟩ := hf.row row' hrow'
    rw [hf.attempts]
    exact hcounts row hrow (hstays hactive).1
  | _ => trivial

theorem Counting.fades (h : Counting cfg s m tracked r)
    (hqueue : ∀ id ∈ s'.memory.mempool.queuedIds, id ∈ s.memory.mempool.queuedIds)
    (hf : ∀ id, tracked id → Fades s m s' m' id) : Counting cfg s' m' tracked r where
  bounded id ht := (h.bounded id ht).fades (hf id ht)
  queued id hid ht := (h.queued id (hqueue id hid) ht).fades (hf id ht)
  tokens t hr id hid ht := (h.tokens t hr id hid ht).fades hid (hf id ht)

theorem Counting.subset (h : Counting cfg s m tracked a) (hb : b ⊆ a) :
    Counting cfg s m tracked b :=
  ⟨h.bounded, h.queued, fun t ht => h.tokens t (hb ht)⟩

/-- That a tick runs says nothing of a bundle. -/
theorem Counting.running (h : Counting cfg s m tracked r) (out : List BundleId) :
    Counting cfg s m tracked ({.running out} + r) := by
  refine ⟨h.bounded, h.queued, fun t ht id hid => ?_⟩
  rcases Multiset.mem_add.mp ht with ht | ht
  · rw [Multiset.mem_singleton.mp ht] at hid
    cases hid
  · exact h.tokens t ht id hid

/-- One bundle that a task has changes; the others fade. -/
theorem Counting.change (h : Counting cfg s m tracked (a + f)) (id : BundleId)
    (hqueue : ∀ id' ∈ s'.memory.mempool.queuedIds, id' ∈ s.memory.mempool.queuedIds ∧ id' ≠ id)
    (hapart : ∀ t ∈ f, id ∉ t.ids) (hf : ∀ id', id' ≠ id → Fades s m s' m' id')
    (hbounded : tracked id → Bounded cfg s' m' id)
    (hb : ∀ t ∈ b, ∀ id' ∈ t.ids, id' = id ∧ (tracked id → t.Fits cfg s' m')) :
    Counting cfg s' m' tracked (b + f) where
  bounded id' ht := by
    by_cases hid : id' = id
    · subst hid
      exact hbounded ht
    · exact (h.bounded id' ht).fades (hf id' hid)
  queued id' hid' ht := by
    obtain ⟨hmem, hne⟩ := hqueue id' hid'
    exact (h.queued id' hmem ht).fades (hf id' hne)
  tokens t hr id' hid' ht := by
    rcases Multiset.mem_add.mp hr with hr | hr
    · obtain ⟨rfl, hfits⟩ := hb t hr id' hid'
      exact hfits ht
    · have hne : id' ≠ id := by
        rintro rfl
        exact hapart t hr hid'
      exact (h.tokens t (Multiset.mem_add.mpr (.inr hr)) id' hid' ht).fades hid' (hf id' hne)

end Fades

/-! ## Requests -/

/-- Requests after which no bundle counts for more. -/
def Req.Fading (l : Call) : Req → Prop
  | .command (.createBundle _) => False
  | .command (.updateBundle _ data) =>
    (data.status = some .expired ∨ data.status = some .completed ∨ data.status = some .failed) ∧
      (data.retryCount = none ∨ l = .verifyTransactions ∧ data.status = some .failed)
  | .command (.updateStatusIfActive _ _ statuses) => statuses = BundleStatus.active
  | .command (.updateIfStatusIn _ _ _) => False
  | _ => True

section Requests
variable {cfg : Config} {s s' : State} {m m' : Ticks} {tracked : BundleId → Prop}
  {r a b f : Holds} {id : BundleId} {l : Call}

/-- A row that is rewritten is active only if it was, and keeps its retry count. -/
theorem fades_update {g : OperationsBundle → OperationsBundle}
    (hfind : s'.db.operationsBundles.find id = (s.db.operationsBundles.find id).map g)
    (hstep : ∀ row, s.db.operationsBundles.find id = some row →
      ((g row).isIn BundleStatus.active = true →
        row.isIn BundleStatus.active = true ∧ (g row).retryCount = row.retryCount) ∧
      (id ∉ m'.verifierFailed → (g row).retryCount = row.retryCount))
    (hattempts : m'.attempts.count id = m.attempts.count id)
    (hfailed : id ∈ m.verifierFailed → id ∈ m'.verifierFailed) : Fades s m s' m' id where
  attempts := hattempts
  failed := hfailed
  row row' hrow' := by
    rw [hfind] at hrow'
    obtain ⟨row, hrow, rfl⟩ := Option.map_eq_some_iff.mp hrow'
    exact ⟨row, hrow, hstep row hrow⟩

/-- A gated change of the status alone. -/
theorem fades_status {p : OperationsBundle → Bool} {now : Time} {status : BundleStatus}
    (hfind : s'.db.operationsBundles.find id = (s.db.operationsBundles.find id).map fun r =>
      if p r then r.set now { status := some status } else r)
    (hgate : ∀ r, p r = true → BundleStatus.active.contains status = true →
      r.isIn BundleStatus.active = true) : Fades s m s' m id := by
  apply fades_update hfind ?_ rfl (fun h => h)
  intro row _
  split
  · rename_i hp
    refine ⟨fun hactive => ⟨hgate row hp ?_, rfl⟩, fun _ => rfl⟩
    rw [isIn_set, Bool.and_eq_true] at hactive
    exact hactive.2
  · exact ⟨fun hactive => ⟨hactive, rfl⟩, fun _ => rfl⟩

theorem onServe_fading {q : Req} (hq : q.Fading l) (m : Ticks) :
    (Ticks.onServe l q m).out = m.out ∧ (Ticks.onServe l q m).dropped = m.dropped ∧
      (Ticks.onServe l q m).attempts = m.attempts ∧ ∀ id ∈ m.verifierFailed, id ∈ (Ticks.onServe l q m).verifierFailed := by
  unfold Ticks.onServe
  split
  · split
    · rename_i hstatus
      obtain ⟨hstatus' | hstatus' | hstatus', -⟩ := hq <;> rw [hstatus] at hstatus' <;> cases hstatus'
    · exact ⟨rfl, rfl, rfl, fun id hid => List.mem_cons_of_mem _ hid⟩
    · exact ⟨rfl, rfl, rfl, fun _ hid => hid⟩
  · exact ⟨rfl, rfl, rfl, fun _ hid => hid⟩

theorem serve_fades {q : Req} (hq : q.Fading l) (s : State) (m : Ticks) (id : BundleId) :
    Fades s m (serve q s).2 (Ticks.onServe l q m) id := by
  obtain ⟨-, -, hattempts, hfailed⟩ := onServe_fading hq m
  cases q with
  | query q => exact fades_same rfl rfl (hfailed id)
  | rpc q => exact fades_same rfl rfl (hfailed id)
  | command w =>
    cases w with
    | createBundle data => exact hq.elim
    | updateIfStatusIn id' data statuses => exact hq.elim
    | updateBundle id' data =>
      obtain ⟨hstatus, hcount⟩ := hq
      apply fades_update (Database.setBundles_find s.db s.clock (·.id == id') data id) ?_
        (congrArg (List.count id) hattempts) (hfailed id)
      intro row hrow
      split
      · rename_i hid
        have hinactive : (row.set s.clock data).isIn BundleStatus.active = false := by
          rw [isIn_set]
          rcases hstatus with h | h | h <;> rw [h] <;> simp [BundleStatus.active]
        refine ⟨fun hactive => ?_, fun hnot => ?_⟩
        · rw [hinactive] at hactive
          cases hactive
        · rcases hcount with hnone | ⟨rfl, hfail⟩
          · simp [OperationsBundle.set, hnone]
          · have hrowid : row.id = id := Table.find_key hrow
            rw [hrowid] at hid
            simp [Ticks.onServe, hfail, eq_of_beq hid] at hnot
      · exact ⟨fun hactive => ⟨hactive, rfl⟩, fun _ => rfl⟩
    | updateStatusIfActive id' status statuses =>
      have hgate : statuses = BundleStatus.active := hq
      subst hgate
      apply fades_status (Database.setBundles_find s.db s.clock
        (fun r => r.id == id' && r.isIn BundleStatus.active) { status := some status } id)
      intro row hp _
      exact (Bool.and_eq_true_iff.mp hp).2
    | expireOlderThan olderThan statuses limit =>
      exact fades_status (Database.setBundles_find s.db s.clock
        (fun r => (s.db.staleIds olderThan statuses limit).contains r.id)
        { status := some .expired } id) fun _ _ hactive => by cases hactive
    | expireByIds ids statuses =>
      exact fades_status (Database.setBundles_find s.db s.clock
        (fun r => ids.contains r.id && r.isIn statuses)
        { status := some .expired } id) fun _ _ hactive => by cases hactive
    | createTransaction _ | createUtxo _ | updateUtxo _ _ | createLink _ | recordInteraction _ _ =>
      apply fades_same ?_ rfl (hfailed id)
      simp only [serve, Command.run]
      repeat' split
      all_goals rfl
    | updateTransaction _ _ => exact fades_same rfl rfl (hfailed id)

end Requests

/-! ## Moves -/

section Moves
variable {cfg : Config} {s s' : State} {m m' : Ticks} {tracked : BundleId → Prop}
  {r a b f : Holds} {id : BundleId}

/-- The bundle of a token is nowhere else. -/
theorem Holding.apart {t : Hold} (h : Holding s m ({t} + f)) (hids : t.ids = [id]) :
    id ∉ s.memory.mempool.queuedIds ∧ ∀ t' ∈ f, id ∉ t'.ids := by
  have honce := h.once
  rw [State.occupied, held_add, held_singleton, hids, Multiset.coe_singleton,
    Multiset.singleton_add, Multiset.add_cons] at honce
  have hnot := (Multiset.nodup_cons.mp honce).1
  rw [Multiset.mem_add, not_or] at hnot
  exact ⟨hnot.1, fun t' ht' hmem => hnot.2 (mem_held ht' hmem)⟩

/-- The token of a bundle becomes another one. -/
theorem Counting.exchange {t t' : Hold} (h : Counting cfg s m tracked ({t} + f))
    (hh : Holding s m ({t} + f)) (hids : t.ids = [id]) (hids' : t'.ids = [id])
    (hqueue : s'.memory.mempool.queuedIds = s.memory.mempool.queuedIds)
    (hf : ∀ id', id' ≠ id → Fades s m s' m id')
    (hbounded : tracked id → Bounded cfg s' m id) (hfits : tracked id → t'.Fits cfg s' m) :
    Counting cfg s' m tracked ({t'} + f) := by
  obtain ⟨hnot, hapart⟩ := hh.apart hids
  apply h.change id ?_ hapart hf hbounded
  · intro t'' ht'' id' hid'
    obtain rfl := Multiset.mem_singleton.mp ht''
    rw [hids'] at hid'
    exact ⟨List.mem_singleton.mp hid', hfits⟩
  · intro id' hid'
    rw [hqueue] at hid'
    refine ⟨hid', ?_⟩
    rintro rfl
    exact hnot hid'

/-- The row of a pulled bundle is read. -/
theorem Counting.read {row : OperationsBundle}
    (h : Counting cfg s m tracked ({.taken id} + f)) (hh : Holding s m ({.taken id} + f))
    (hrow : s.db.operationsBundles.find id = some row) :
    Counting cfg s m tracked ({.reads id row.retryCount} + f) := by
  apply h.exchange hh rfl rfl rfl (fun _ _ => fades_same rfl rfl fun h => h)
  · exact h.bounded id
  · intro ht
    obtain ⟨hcounts, hbelow⟩ := h.tokens (.taken id) (by simp) id (by simp [Hold.ids]) ht
    refine ⟨fun row' hrow' hactive => ?_, fun hnot => hbelow hnot row hrow⟩
    have hle := hcounts row' hrow' hactive
    rw [hrow] at hrow'
    cases hrow'
    exact hle

theorem fades_updateIfStatusIn {data : OperationsBundlePatch} {statuses : List BundleStatus}
    {id' : BundleId} (hne : id' ≠ id) :
    Fades s m (serve (.command (.updateIfStatusIn id data statuses)) s).2 m id' := by
  apply fades_update (updateIfStatusIn_find s id id' data statuses) ?_ rfl (fun h => h)
  intro row hrow
  have hid : row.id = id' := Table.find_key hrow
  rw [if_neg (by simp [hid, hne])]
  exact ⟨fun hactive => ⟨hactive, rfl⟩, fun _ => rfl⟩

/-- What the gated update of a bundle leaves: the row as it was, or one that was
active, rewritten. -/
theorem updateIfStatusIn_row {data : OperationsBundlePatch} {statuses : List BundleStatus}
    {row' : OperationsBundle} (h : (serve (.command
      (.updateIfStatusIn id data statuses)) s).2.db.operationsBundles.find id = some row') :
    s.db.operationsBundles.find id = some row' ∨
      ∃ row, s.db.operationsBundles.find id = some row ∧ row.isIn statuses = true ∧
        row' = row.set s.clock data := by
  rw [updateIfStatusIn_find] at h
  obtain ⟨row, hrow, rfl⟩ := Option.map_eq_some_iff.mp h
  have hid : row.id = id := Table.find_key hrow
  split
  · rename_i hp
    exact .inr ⟨row, hrow, (Bool.and_eq_true_iff.mp hp).2, rfl⟩
  · exact .inl hrow

/-- The bundle has reached the maximum, or its error is final. -/
theorem Counting.fail {k : Nat} {data : OperationsBundlePatch}
    (h : Counting cfg s m tracked ({.reads id k} + f)) (hh : Holding s m ({.reads id k} + f))
    (hstatus : data.status = some .failed) (hcount : data.retryCount = some (k + 1)) :
    Counting cfg (serve (.command (.updateIfStatusIn id data BundleStatus.active)) s).2 m tracked
      ({.spent id} + f) := by
  apply h.exchange hh rfl rfl ?_ (fun _ => fades_updateIfStatusIn)
  · intro ht
    have hbounded := h.bounded id ht
    obtain ⟨-, hbelow⟩ := h.tokens (.reads id k) (by simp) id (by simp [Hold.ids]) ht
    refine ⟨hbounded.attempts, fun row' hrow' hactive => ?_, fun hnot row' hrow' => ?_⟩
    · rcases updateIfStatusIn_row hrow' with hrow | ⟨row, -, -, rfl⟩
      · exact hbounded.active row' hrow hactive
      · simp [isIn_set, hstatus, BundleStatus.active] at hactive
    · rcases updateIfStatusIn_row hrow' with hrow | ⟨row, -, -, rfl⟩
      · exact hbounded.retryCount hnot row' hrow
      · have hlt := hbelow hnot
        simp only [OperationsBundle.set, hcount, Option.getD_some]
        omega
  · exact fun _ => trivial
  · rfl

/-- The bundle is to be tried again, if its row is still active. -/
theorem Counting.retry {k : Nat} {data : OperationsBundlePatch}
    (h : Counting cfg s m tracked ({.reads id k} + f)) (hh : Holding s m ({.reads id k} + f))
    (hcount : data.retryCount = some (k + 1))
    (hmax : k + 1 < cfg.maxRetryAttempts) (hupdated : (serve (.command
      (.updateIfStatusIn id data BundleStatus.active)) s).1 = .ok true) :
    Counting cfg (serve (.command (.updateIfStatusIn id data BundleStatus.active)) s).2 m tracked
      ({.ready id} + f) := by
  obtain ⟨row, hrow, hactive⟩ : ∃ row, s.db.operationsBundles.find id = some row ∧
      row.isIn BundleStatus.active = true := by
    have hsome : (s.db.operationsBundles.select
        fun r => r.id == id && r.isIn BundleStatus.active).isEmpty = false := by
      have htrue : (!(s.db.operationsBundles.select
          fun r => r.id == id && r.isIn BundleStatus.active).isEmpty) = true :=
        Except.ok.inj hupdated
      simpa using htrue
    obtain ⟨row, hmem⟩ := List.exists_mem_of_ne_nil _ (List.isEmpty_eq_false_iff.mp hsome)
    obtain ⟨hmem, hp⟩ := Table.mem_select.mp hmem
    obtain ⟨hid, hactive⟩ := Bool.and_eq_true_iff.mp hp
    exact ⟨row, eq_of_beq hid ▸ Table.find_of_mem hmem, hactive⟩
  have hafter {row' : OperationsBundle} (hrow' : (serve (.command (.updateIfStatusIn id data
      BundleStatus.active)) s).2.db.operationsBundles.find id = some row') :
      row'.retryCount = k + 1 := by
    rw [updateIfStatusIn_find, hrow, Option.map_some, Option.some.injEq] at hrow'
    have hid : row.id = id := Table.find_key hrow
    rw [← hrow', if_pos (by simp [hid, hactive])]
    simp [OperationsBundle.set, hcount]
  apply h.exchange hh rfl rfl ?_ (fun _ => fades_updateIfStatusIn)
  · intro ht
    have hbounded := h.bounded id ht
    refine ⟨hbounded.attempts, fun row' hrow' _ => ?_, fun _ row' hrow' => ?_⟩
    · rw [hafter hrow']
      exact hmax
    · rw [hafter hrow']
      exact Nat.le_of_lt hmax
  · intro ht
    obtain ⟨hcounts, -⟩ := h.tokens (.reads id k) (by simp) id (by simp [Hold.ids]) ht
    have hle := hcounts row hrow hactive
    refine ⟨Nat.lt_of_le_of_lt hle hmax, fun row' hrow' _ => ?_, fun _ row' hrow' => ?_⟩
    · rw [hafter hrow']
      exact hle
    · rw [hafter hrow']
      exact hmax
  · rfl

/-- An update that is refused changes no row. -/
theorem Counting.refused {data : OperationsBundlePatch} {statuses : List BundleStatus}
    (h : Counting cfg s m tracked r) (hrefused : (serve (.command
      (.updateIfStatusIn id data statuses)) s).1 = .ok false) :
    Counting cfg (serve (.command (.updateIfStatusIn id data statuses)) s).2 m tracked r := by
  have hnone : s.db.operationsBundles.select (fun r => r.id == id && r.isIn statuses) = [] := by
    have hfalse : (!(s.db.operationsBundles.select
        fun r => r.id == id && r.isIn statuses).isEmpty) = false := Except.ok.inj hrefused
    simpa using hfalse
  apply h.fades ?_ fun id' _ => fades_same ?_ rfl fun h => h
  · exact fun _ hid => hid
  rw [updateIfStatusIn_find]
  cases hrow : s.db.operationsBundles.find id' with
  | none => rfl
  | some row =>
    have hnot : ¬ (row.id == id && row.isIn statuses) = true := by
      intro hp
      have hmem : row ∈ s.db.operationsBundles.select fun r => r.id == id && r.isIn statuses :=
        Table.mem_select.mpr ⟨Table.find_mem hrow, hp⟩
      rw [hnone] at hmem
      cases hmem
    rw [Option.map_some, if_neg hnot]

/-- A bundle that may be queued is queued. -/
theorem Counting.place {bundle : SlotBundle} {t : Hold}
    (h : Counting cfg s m tracked ({t} + f)) (hids : t.ids = [bundle.bundleId])
    (hfits : t.Fits cfg s m → Queueable cfg s m bundle.bundleId)
    (hattempts : m'.attempts = m.attempts) (hfailed : m'.verifierFailed = m.verifierFailed) :
    Counting cfg (runOp (.place bundle) s).2 m' tracked f := by
  have hfades (id : BundleId) : Fades s m (runOp (.place bundle) s).2 m' id :=
    fades_same rfl (congrArg _ hattempts) fun h => hfailed ▸ h
  refine ⟨fun id ht => (h.bounded id ht).fades (hfades id), fun id hid ht => ?_,
    fun t' ht' id hid ht => ?_⟩
  · apply Queueable.fades ?_ (hfades id)
    have hsub := (Mempool.place_subperm s.memory.mempool bundle).subset
    obtain ⟨b, hb, rfl⟩ := List.mem_map.mp hid
    rcases List.mem_cons.mp (hsub hb) with rfl | hb
    · exact hfits (h.tokens t (by simp) _ (by simp [hids]) ht)
    · exact h.queued _ (List.mem_map_of_mem hb) ht
  · have hmem : t' ∈ {t} + f := Multiset.mem_add.mpr (.inr ht')
    exact (h.tokens t' hmem id hid ht).fades hid (hfades id)

/-- The tick that pulls a bundle counts. -/
theorem Counting.pull (h : Counting cfg s m tracked r) (hh : Holding s m r) :
    Counting cfg (runOp .removeFirstSlot s).2
      { m with out := s.firstIds ++ m.out, attempts := s.firstIds ++ m.attempts } tracked
      (each .taken s.firstIds + r) := by
  have hqueued := queuedIds_pull s
  have honce := hh.once
  rw [State.occupied, hqueued, ← Multiset.coe_add, add_assoc] at honce
  obtain ⟨hnodup, -, hapart⟩ := Multiset.nodup_add.mp honce
  have hdisjoint {id : BundleId} (hid : id ∈ s.firstIds) :
      id ∉ ((runOp .removeFirstSlot s).2.memory.mempool.queuedIds : Multiset BundleId) + held r :=
    Multiset.disjoint_left.mp hapart (Multiset.mem_coe.mpr hid)
  have hone {id : BundleId} (hid : id ∈ s.firstIds) : s.firstIds.count id = 1 :=
    List.count_eq_one_of_mem (Multiset.coe_nodup.mp hnodup) hid
  have hfades {id : BundleId} (hid : id ∉ s.firstIds) : Fades s m (runOp .removeFirstSlot s).2
      { m with out := s.firstIds ++ m.out, attempts := s.firstIds ++ m.attempts } id := by
    apply fades_same
    · rfl
    · rw [List.count_append, List.count_eq_zero_of_not_mem hid, zero_add]
    · exact fun h => h
  have hwas {id : BundleId} (hid : id ∈ s.firstIds) (ht : tracked id) : Queueable cfg s m id := by
    apply h.queued id ?_ ht
    rw [hqueued]
    exact List.mem_append_left _ hid
  refine ⟨fun id ht => ?_, fun id hid ht => ?_, fun t ht' id hid ht => ?_⟩
  · by_cases hid : id ∈ s.firstIds
    · have hbounded := h.bounded id ht
      refine ⟨?_, hbounded.active, hbounded.retryCount⟩
      have hlt := (hwas hid ht).attempts
      simp only [List.count_append, hone hid]
      omega
    · exact (h.bounded id ht).fades (hfades hid)
  · have hnot : id ∉ s.firstIds := by
      intro hmem
      exact hdisjoint hmem (Multiset.mem_add.mpr (.inl hid))
    apply (h.queued id ?_ ht).fades (hfades hnot)
    rw [hqueued]
    exact List.mem_append_right _ hid
  · rcases Multiset.mem_add.mp ht' with ht' | ht'
    · obtain ⟨id', hid', rfl⟩ := mem_each.mp ht'
      obtain rfl := List.mem_singleton.mp hid
      have hqueueable := hwas hid' ht
      refine ⟨fun row hrow hactive => ?_, hqueueable.below⟩
      have hle := hqueueable.counts row hrow hactive
      simp only [List.count_append, hone hid']
      omega
    · have hnot : id ∉ s.firstIds := by
        intro hmem
        exact hdisjoint hmem (Multiset.mem_add.mpr (.inr (mem_held ht' hid)))
      exact (h.tokens t ht' id hid ht).fades hid (hfades hnot)

/-- A row that is inserted counts no tick yet. -/
theorem Counting.admit {row : OperationsBundle} (h : Counting cfg s m tracked f)
    (hh : Holding s m f) (hnew : ¬ s.HasRow id) (hcount : row.retryCount = 0)
    (hmax : tracked id → 0 < cfg.maxRetryAttempts)
    (hqueue : s'.memory.mempool.queuedIds = s.memory.mempool.queuedIds)
    (hfind : ∀ id', s'.db.operationsBundles.find id' =
      if id = id' then some row else s.db.operationsBundles.find id') :
    Counting cfg s' m tracked ({.fresh id} + {.accepted id} + f) := by
  have hnone : m.attempts.count id = 0 :=
    List.count_eq_zero_of_not_mem fun hmem => hnew (hh.attempted id hmem)
  have hrow {row' : OperationsBundle} (hrow' : s'.db.operationsBundles.find id = some row') :
      row'.retryCount = 0 := by
    rw [hfind, if_pos rfl] at hrow'
    cases hrow'
    exact hcount
  rw [← zero_add f] at h
  apply h.change id
  · intro id' hid'
    rw [hqueue] at hid'
    refine ⟨hid', ?_⟩
    rintro rfl
    exact hnew (hh.rows id' (Multiset.mem_add.mpr (.inl hid')))
  · intro t ht hid
    exact hnew (hh.rows id (Multiset.mem_add.mpr (.inr (mem_held ht hid))))
  · intro id' hne
    exact fades_same (by rw [hfind, if_neg (Ne.symm hne)]) rfl fun h => h
  · intro ht
    refine ⟨by omega, fun row' hrow' _ => ?_, fun _ row' hrow' => ?_⟩
    · rw [hrow hrow']
      exact hmax ht
    · rw [hrow hrow']
      exact Nat.zero_le _
  · intro t ht id' hid'
    rcases Multiset.mem_add.mp ht with ht | ht <;> obtain rfl := Multiset.mem_singleton.mp ht
    · refine ⟨List.mem_singleton.mp hid', fun htracked => ⟨?_, fun row' _ _ => ?_, ?_⟩⟩
      · rw [hnone]
        exact hmax htracked
      · omega
      · intro _ row' hrow'
        rw [hrow hrow']
        exact hmax htracked
    · cases hid'

/-- A new admission starts the count again. -/
theorem Counting.reset {data : OperationsBundlePatch} (h : Counting cfg s m tracked r)
    (hcount : data.retryCount = some 0) (hmax : tracked id → 0 < cfg.maxRetryAttempts) :
    Counting cfg (serve (.command (.updateBundle id data)) s).2
      { m with attempts := m.attempts.filter (· != id) } tracked r := by
  generalize hm : ({ m with attempts := m.attempts.filter (· != id) } : Ticks) = m'
  generalize hs : (serve (.command (.updateBundle id data)) s).2 = s'
  have hfailed : m'.verifierFailed = m.verifierFailed := by rw [← hm]
  have hfind (id' : BundleId) : s'.db.operationsBundles.find id' =
      (s.db.operationsBundles.find id').map fun r => if r.id == id then r.set s.clock data else r := by
    rw [← hs]
    exact Database.setBundles_find s.db s.clock (·.id == id) data id'
  have hfades {id' : BundleId} (hne : id' ≠ id) : Fades s m s' m' id' := by
    apply fades_update (hfind id') ?_ ?_ fun h => hfailed ▸ h
    · intro row hrow
      have hid : row.id = id' := Table.find_key hrow
      rw [if_neg (by simp [hid, hne])]
      exact ⟨fun hactive => ⟨hactive, rfl⟩, fun _ => rfl⟩
    · rw [← hm]
      exact List.count_filter (by simpa using hne)
  have hnone : m'.attempts.count id = 0 := by
    rw [← hm]
    exact List.count_eq_zero_of_not_mem (by simp)
  have hrow {row' : OperationsBundle} (hrow' : s'.db.operationsBundles.find id = some row') :
      row'.retryCount = 0 := by
    rw [hfind] at hrow'
    obtain ⟨row, hrow, rfl⟩ := Option.map_eq_some_iff.mp hrow'
    have hid : row.id = id := Table.find_key hrow
    simp [hid, OperationsBundle.set, hcount]
  have hbelow (ht : tracked id) : Below cfg s' m' id := by
    intro _ row' hrow'
    rw [hrow hrow']
    exact hmax ht
  have hqueueable (ht : tracked id) : Queueable cfg s' m' id :=
    ⟨hnone ▸ hmax ht, fun _ _ _ => by omega, hbelow ht⟩
  refine ⟨fun id' ht => ?_, fun id' hid' ht => ?_, fun t ht' id' hid' ht => ?_⟩
  · by_cases hid : id' = id
    · subst hid
      refine ⟨by omega, fun row' hrow' _ => ?_, fun _ row' hrow' => ?_⟩
      · rw [hrow hrow']
        exact hmax ht
      · rw [hrow hrow']
        exact Nat.zero_le _
    · exact (h.bounded id' ht).fades (hfades hid)
  · by_cases hid : id' = id
    · subst hid
      exact hqueueable ht
    · rw [← hs] at hid'
      exact (h.queued id' hid' ht).fades (hfades hid)
  · by_cases hid : id' = id
    · subst hid
      have hfits := h.tokens t ht' id' hid' ht
      cases t with
      | fresh _ | ready _ =>
        obtain rfl := List.mem_singleton.mp hid'
        exact hqueueable ht
      | taken _ =>
        obtain rfl := List.mem_singleton.mp hid'
        exact ⟨fun _ _ _ => by omega, hbelow ht⟩
      | reads _ _ =>
        obtain rfl := List.mem_singleton.mp hid'
        exact ⟨fun _ _ _ => by omega, fun hnot => hfits.2 (hfailed ▸ hnot)⟩
      | _ => trivial
    · exact (h.tokens t ht' id' hid' ht).fades hid' (hfades hid)

/-! ## The boot -/

/-- The rows that the boot reads are active, and it has counted nothing yet. -/
theorem Counting.hydrate (h : Counting cfg s m tracked ({.boot} + f))
    (hh : Holding s m ({.boot} + f)) :
    Counting cfg s m tracked ({.booting} +
      each .fresh ((Query.findPendingOrProcessing.run s.db).map (·.id)) + f) := by
  obtain ⟨-, -, -, hnone⟩ := hh.boot (by simp)
  refine ⟨h.bounded, h.queued, fun t ht' id hid ht => ?_⟩
  rw [add_assoc, Multiset.mem_add, Multiset.mem_singleton, Multiset.mem_add, mem_each] at ht'
  rcases ht' with rfl | ⟨id', hid', rfl⟩ | ht'
  · cases hid
  · obtain rfl := List.mem_singleton.mp hid
    obtain ⟨row, hmem, rfl⟩ := List.mem_map.mp hid'
    obtain ⟨hmem, hactive⟩ := Table.mem_select.mp hmem
    have hrow := Table.find_of_mem hmem
    have hlt := (h.bounded row.id ht).active row hrow hactive
    refine ⟨by rw [hnone]; exact Nat.zero_lt_of_lt hlt, ?_, fun _ row' hrow' => ?_⟩
    · intro row' _ _
      rw [hnone]
      exact Nat.zero_le _
    · rw [hrow] at hrow'
      cases hrow'
      exact hlt
  · exact h.tokens t (Multiset.mem_add.mpr (.inr ht')) id hid ht

/-- What a process starts on. -/
theorem counting_boot (hmemory : s.memory = .boot cfg)
    (hbounded : ∀ id, tracked id → Bounded cfg s m.restart id) :
    Counting cfg s m.restart tracked {.boot} := by
  have hqueue : s.memory.mempool.queuedIds = [] := by rw [hmemory]; rfl
  refine ⟨hbounded, fun id hid => ?_, fun t ht id hid => ?_⟩
  · rw [hqueue] at hid
    cases hid
  · rw [Multiset.mem_singleton.mp ht] at hid
    cases hid

theorem Bounded.reboot (h : Bounded cfg s m id) : Bounded cfg (reboot cfg s) m.restart id :=
  ⟨Nat.zero_le _, h.active, h.retryCount⟩

theorem bounded_of_new (hnew : s.db.operationsBundles.find id = none) :
    Bounded cfg s m.restart id := by
  refine ⟨Nat.zero_le _, fun row hrow => ?_, fun _ row hrow => ?_⟩ <;>
    · rw [hnew] at hrow
      cases hrow

end Moves

end ProviderPlatform
