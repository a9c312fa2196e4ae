import ProviderPlatform.Lifecycle.RetryBound
import ProviderPlatform.Mempool.Admission

/-! # The TTL sweep of the mempool

`expireBundles` takes every expired bundle out of the queue first and then
writes their rows one by one, with no handler around a write. So the rows that
are written are those up to the first write that fails; the bundles after it
are in no slot and in no terminal status. -/
namespace ProviderPlatform
open Async Store

/-- The row of the bundle is there and in a terminal status. -/
def State.Ended (s : State) (id : BundleId) : Prop :=
  ∃ row, s.db.operationsBundles.find id = some row ∧ row.status ∉ BundleStatus.active

namespace Mempool
variable {mempool : Mempool} {bundle : SlotBundle} {p : SlotBundle → Bool}

/-- The expired bundles in the order of the sweep, from the last slot on. -/
def expiring (mempool : Mempool) (now : Time) : List SlotBundle :=
  mempool.slots.reverse.flatMap fun slot => slot.bundles.filter (isBundleExpired now)

theorem takeExpired_expiring (mempool : Mempool) (now : Time) :
    (mempool.takeExpired now).1 = mempool.expiring now := sweep_fst _ _

theorem takeExpired_queued (h : mempool.queuedIds.Nodup) (now : Time) :
    (mempool.takeExpired now).2.queued =
      mempool.queued.filter fun b => !isBundleExpired now b :=
  sweep_snd fun _ hslot => byId_of_nodup h _ hslot

theorem mem_expiring {now : Time} :
    bundle ∈ mempool.expiring now ↔ bundle ∈ mempool.queued ∧ isBundleExpired now bundle = true := by
  simp only [expiring, queued, List.mem_flatMap, List.mem_reverse, List.mem_filter]
  tauto

/-! ## The writes -/

/-- The ids of the rows that are written: each write uses one beat and the event
of a bundle with a PP one more, and the first write that rejects ends the loop. -/
def markedBy : List SlotBundle → List (Beat Err) → List BundleId
  | [], _ => []
  | bundle :: bundles, bs =>
    match (bs.headD .calm).fate with
    | .serve => bundle.bundleId ::
        markedBy bundles (if bundle.ppPublicKey = "" then bs.tail else bs.tail.tail)
    | _ => []

end Mempool

/-- An emission comes to its end after one beat, or none where there is no PP. -/
theorem emitForPp_eval (pp : PublicKey) (payload : EventPayload) {bs : List (Beat Err)}
    (hlives : ∀ b ∈ bs, Beat.Lives b) (s : State) :
    ∃ s', (emitForPp pp payload).eval host bs s =
        (some (.ok ()), if pp = "" then bs else bs.tail, s') ∧
      s'.db = s.db ∧ s'.memory = s.memory := by
  by_cases hpp : pp = ""
  · refine ⟨s, ?_, rfl, rfl⟩
    rw [emitForPp, if_pos hpp, if_pos hpp]
    rfl
  · rw [emitForPp, if_neg hpp, if_neg hpp, Task.recover, Task.eval_settle]
    let s₁ := host.pass (bs.headD .calm).elapsed s
    cases hfate : (bs.headD .calm).fate with
    | serve =>
      have hscope : (query (.resolveScopeForPp pp)).eval host bs s =
          (some (.ok ((Query.resolveScopeForPp pp).run s.db)), bs.tail, s₁) :=
        Task.eval_call host hfate
      rw [emitInScope, Task.eval_bind_ok host hscope]
      cases (Query.resolveScopeForPp pp).run s.db with
      | none => exact ⟨s₁, rfl, rfl, rfl⟩
      | some scope => exact ⟨(runOp (.emit scope payload) s₁).2, rfl, rfl, rfl⟩
    | reject e =>
      have hscope : (query (.resolveScopeForPp pp)).eval host bs s =
          (some (.error e), bs.tail, s₁) := by
        simp only [query, Task.call, Task.eval, hfate]
        rfl
      rw [emitInScope, Task.eval_bind_error host hscope]
      exact ⟨s₁, rfl, rfl, rfl⟩
    | stop => exact absurd hfate (Beat.head_lives hlives)

/-- One write: the row is then in a terminal status, the others are as they were. -/
theorem exists_marked (s : State) (id id' : BundleId) (Q : Prop) :
    (∃ row, (serve (.command (.updateBundle id' { status := some .expired })) s).2.db.operationsBundles.find id = some row ∧
        (row.status ∉ BundleStatus.active ∨ Q)) ↔
      ∃ row, s.db.operationsBundles.find id = some row ∧
        (row.status ∉ BundleStatus.active ∨ id = id' ∨ Q) := by
  rw [find_updateBundle]
  cases hrow : s.db.operationsBundles.find id with
  | none => simp
  | some row =>
    have hkey := Table.find_key hrow
    by_cases hid : id = id'
    · subst hid
      simp [hkey, BundleStatus.active]
    · simp [hkey, hid]

/-- The loop ends with the rows EXPIRED that were written, and the others as
they were; it touches nothing of the memory. -/
theorem markExpired_loop : ∀ (bundles : List SlotBundle) {bs : List (Beat Err)},
    (∀ b ∈ bs, Beat.Lives b) → ∀ s : State,
    ((Task.forEach (I := platform) Mempool.markExpired bundles).eval host bs s).2.2.memory =
        s.memory ∧
      ∀ id, ((Task.forEach (I := platform) Mempool.markExpired bundles).eval host bs s).2.2.Ended id ↔
        ∃ row, s.db.operationsBundles.find id = some row ∧
          (row.status ∉ BundleStatus.active ∨ id ∈ Mempool.markedBy bundles bs)
  | [], bs, _, s => by
    refine ⟨rfl, fun id => ?_⟩
    simp only [Mempool.markedBy, List.not_mem_nil, or_false]
    rfl
  | bundle :: bundles, bs, hlives, s => by
    let loop := Task.forEach (I := platform) Mempool.markExpired
    let s₁ := host.pass (bs.headD .calm).elapsed s
    have hstep : loop (bundle :: bundles) = (Mempool.markExpired bundle >>= fun _ => loop bundles) := rfl
    have htail : ∀ b ∈ bs.tail, Beat.Lives b := fun b hb => hlives b (List.mem_of_mem_tail hb)
    show ((loop (bundle :: bundles)).eval host bs s).2.2.memory = s.memory ∧
      ∀ id, ((loop (bundle :: bundles)).eval host bs s).2.2.Ended id ↔ _
    rw [hstep]
    cases hfate : (bs.headD .calm).fate with
    | serve =>
      let s₂ := (serve (.command (.updateBundle bundle.bundleId { status := some .expired })) s₁).2
      have hwrite : (command (.updateBundle bundle.bundleId { status := some .expired })).eval host
          bs s = (some (serve (.command (.updateBundle bundle.bundleId
            { status := some .expired })) s₁).1, bs.tail, s₂) := Task.eval_call host hfate
      obtain ⟨s₃, hemit, hdb, hmemory⟩ := emitForPp_eval bundle.ppPublicKey
        (Mempool.bundleExpiredPayload bundle) htail s₂
      have hmark : (Mempool.markExpired bundle).eval host bs s =
          (some (.ok ()), if bundle.ppPublicKey = "" then bs.tail else bs.tail.tail, s₃) := by
        rw [Mempool.markExpired, Task.eval_bind_ok host hwrite, hemit]
      have hrest : ∀ b ∈ (if bundle.ppPublicKey = "" then bs.tail else bs.tail.tail), Beat.Lives b := by
        split
        · exact htail
        · exact fun b hb => htail b (List.mem_of_mem_tail hb)
      obtain ⟨hkept, hended⟩ := markExpired_loop bundles hrest s₃
      rw [Task.eval_bind_ok host hmark]
      refine ⟨hkept.trans hmemory, fun id => (hended id).trans ?_⟩
      rw [hdb, exists_marked s₁ id bundle.bundleId, Mempool.markedBy, hfate]
      simp only [List.mem_cons]
      rfl
    | reject e =>
      have hwrite : (command (.updateBundle bundle.bundleId { status := some .expired })).eval host
          bs s = (some (.error e), bs.tail, s₁) := by
        simp only [command, Task.call, Task.eval, hfate]
        rfl
      have hmark : (Mempool.markExpired bundle).eval host bs s = (some (.error e), bs.tail, s₁) := by
        rw [Mempool.markExpired, Task.eval_bind_error host hwrite]
      rw [Task.eval_bind_error host hmark, Mempool.markedBy, hfate]
      refine ⟨rfl, fun id => ?_⟩
      simp only [List.not_mem_nil, or_false]
      rfl
    | stop => exact absurd hfate (Beat.head_lives hlives)

/-! ## The sweep -/

/-- Every bundle that a sweep takes out of the queue ends in a terminal status. -/
def SweepSafe (bs : List (Beat Err)) (s : State) : Prop :=
  ∀ bundle ∈ s.memory.mempool.queued,
    bundle ∈ (Mempool.expireBundles.eval host bs s).2.2.memory.mempool.queued ∨
    (Mempool.expireBundles.eval host bs s).2.2.Ended bundle.bundleId

/-- Every expired bundle has a row, which is in a terminal status already or is
written by the sweep. -/
def SweepCompletes (bs : List (Beat Err)) (s : State) : Prop :=
  ∀ bundle ∈ s.memory.mempool.expiring s.clock,
    ∃ row, s.db.operationsBundles.find bundle.bundleId = some row ∧
      (row.status ∉ BundleStatus.active ∨
        bundle.bundleId ∈ Mempool.markedBy (s.memory.mempool.expiring s.clock) bs)

theorem sweepSafe_iff {s : State} (hnodup : s.memory.mempool.queuedIds.Nodup)
    {bs : List (Beat Err)} (hlives : ∀ b ∈ bs, Beat.Lives b) :
    SweepSafe bs s ↔ SweepCompletes bs s := by
  have heval : Mempool.expireBundles.eval host bs s =
      (Task.forEach (I := platform) Mempool.markExpired
        (s.memory.mempool.takeExpired s.clock).1).eval host bs
        (s.withMempool (s.memory.mempool.takeExpired s.clock).2) := rfl
  obtain ⟨hmemory, hended⟩ := markExpired_loop (s.memory.mempool.expiring s.clock) hlives
    (s.withMempool (s.memory.mempool.takeExpired s.clock).2)
  rw [Mempool.takeExpired_expiring] at heval
  have hqueued := Mempool.takeExpired_queued hnodup s.clock
  unfold SweepSafe SweepCompletes
  simp only [heval, hmemory, hended, State.withMempool_mempool, State.withMempool_db, hqueued,
    Mempool.mem_expiring, List.mem_filter]
  constructor
  · rintro hsafe bundle ⟨hmem, hexpired⟩
    obtain ⟨-, hlive⟩ | hdone := hsafe bundle hmem
    · simp [hexpired] at hlive
    · exact hdone
  · intro hcompletes bundle hmem
    cases hexpired : isBundleExpired s.clock bundle with
    | true => exact .inr (hcompletes bundle ⟨hmem, hexpired⟩)
    | false => exact .inl ⟨hmem, rfl⟩

/-- **The sweep is failure-safe** exactly when every expired bundle is in a
terminal status already or is written before the first write that fails. Where
a run leads the ids of the queue are distinct and every bundle has its row. -/
theorem sweep_safe_iff (cfg : Config) (fuel : Nat) :
    (∀ s : State, s.memory.mempool.queuedIds.Nodup → ∀ bs : List (Beat Err),
      (∀ b ∈ bs, Beat.Lives b) → (SweepSafe bs s ↔ SweepCompletes bs s)) ∧
    ∀ (s : State) (c : ProviderPool), s.memory = .boot cfg →
      (operated cfg fuel).Run Machine.Free ((operated cfg fuel).init s) c →
      c.state.memory.mempool.queuedIds.Nodup ∧
      ∀ id ∈ c.state.memory.mempool.queuedIds, c.state.HasRow id := by
  exact ⟨fun s hnodup bs hlives => sweepSafe_iff hnodup hlives,
    fun s c hboot h => queued_reachable hboot h⟩

namespace Small

/-- The admission of a deposit, and a day after it. -/
def dayAfter : List ProviderChoice := admitted ++ [.drift (.elapse 86400000)]

end Small

/-- The update of the only expired bundle is served. -/
theorem sweep_safe_iff_small :
    ∃ c : ProviderPool, c.state.memory.mempool.queuedIds = ["deposit 10"] ∧
      (SweepSafe [⟨0, .serve⟩] c.state ↔ SweepCompletes [⟨0, .serve⟩] c.state) := by
  obtain ⟨c, hr, hp⟩ := Machine.exists_run_of_replay (M := operated Small.config 1)
    (G := Machine.Free) (c := (operated Small.config 1).init Small.state) Small.dayAfter
    (fun s => s.memory.mempool.queuedIds == ["deposit 10"]) (by decide +kernel)
  obtain ⟨hsafe, hreached⟩ := sweep_safe_iff Small.config 1
  refine ⟨c, eq_of_beq hp, hsafe c.state (hreached Small.state c rfl hr).1 _ ?_⟩
  simp [Beat.Lives]

/-- The update of the only expired bundle is rejected: it is in no slot, and its
row stays PROCESSING. -/
theorem sweep_not_safe :
    ¬ ∀ (cfg : Config) (fuel : Nat) (s : State) (c : ProviderPool), s.memory = .boot cfg →
      (operated cfg fuel).Run Machine.Free ((operated cfg fuel).init s) c →
      ∀ bs : List (Beat Err), (∀ b ∈ bs, Beat.Lives b) → SweepSafe bs c.state := by
  intro h
  obtain ⟨c, hr, hp⟩ := Machine.exists_run_of_replay (M := operated Small.config 1)
    (G := Machine.Free) (c := (operated Small.config 1).init Small.state) Small.dayAfter
    (fun s =>
      let s' := (Mempool.expireBundles.eval host [⟨0, .reject (.database "down")⟩] s).2.2
      s.memory.mempool.queuedIds == ["deposit 10"] && s'.memory.mempool.queuedIds == [] &&
        (s'.db.operationsBundles.find "deposit 10").map (·.status) == some .processing)
    (by decide +kernel)
  simp only [Bool.and_eq_true, beq_iff_eq] at hp
  obtain ⟨⟨hqueued, hempty⟩, hstatus⟩ := hp
  have hmem : "deposit 10" ∈ c.state.memory.mempool.queuedIds := by simp [hqueued]
  obtain ⟨bundle, hbundle, hid⟩ := List.mem_map.mp hmem
  have hsafe := h Small.config 1 Small.state c rfl hr [⟨0, .reject (.database "down")⟩]
    (by simp [Beat.Lives]) bundle hbundle
  obtain hqueued' | ⟨row, hrow, hended⟩ := hsafe
  · have hids := List.mem_map_of_mem (f := fun b : SlotBundle => b.bundleId) hqueued'
    rw [show List.map _ _ = _ from hempty] at hids
    cases hids
  · rw [hid] at hrow
    rw [hrow, Option.map_some, Option.some.injEq] at hstatus
    simp [hstatus, BundleStatus.active] at hended

end ProviderPlatform
