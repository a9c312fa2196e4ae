import ProviderPlatform.Lifecycle.RetryBound
import ProviderPlatform.Mempool.Admission
import ProviderPlatform.Mempool.Bookkeeping

/-! # The TTL gate

What the executor leaves of a slot it pulled, and of the rows of the bundles it
evicts, whichever writes fail; and the TTL itself, the earliest of a day from
now and the expirations of the spend signatures. -/
namespace ProviderPlatform
open Async Store

/-! ## The TTL of a bundle -/

/-- The TTLs that bound a bundle's own: a day from now, and the expiration of
each spend signature. -/
def ttlBounds (now : Time) (spend : List SpendOperation) (latestLedgerSequence : Nat) : Set Time :=
  {t | t = now + 24 * 60 * 60 * 1000 ∨ ∃ op ∈ spend, ∃ signature,
    op.utxoSignature = some signature ∧
      t = now + 5000 * ((signature.exp : Int) - latestLedgerSequence)}

theorem minExpirationLedger_eq_none {spend : List SpendOperation}
    (h : minExpirationLedger spend = none) {op : SpendOperation} (hop : op ∈ spend) :
    op.utxoSignature = none := by
  have hnil := List.min?_eq_none_iff.mp h
  simpa using List.filterMap_eq_nil_iff.mp hnil op hop

theorem minExpirationLedger_eq_some {spend : List SpendOperation} {exp : Nat}
    (h : minExpirationLedger spend = some exp) :
    (∃ op ∈ spend, ∃ signature, op.utxoSignature = some signature ∧ signature.exp = exp) ∧
      ∀ op ∈ spend, ∀ signature, op.utxoSignature = some signature → exp ≤ signature.exp := by
  obtain ⟨hmem, hle⟩ := List.min?_eq_some_iff.mp h
  constructor
  · simpa using hmem
  · intro op hop signature hsig
    exact hle _ (List.mem_filterMap.mpr ⟨op, hop, by simp [hsig]⟩)

/-- The TTL is the least of its bounds. -/
theorem calculateBundleTtl_isLeast (now : Time) (classified : ClassifiedOperations)
    (latestLedgerSequence : Nat) :
    IsLeast (ttlBounds now classified.spend latestLedgerSequence)
      (calculateBundleTtl now classified latestLedgerSequence) := by
  have hday : now + defaultBundleTtlMs = now + 24 * 60 * 60 * 1000 := rfl
  unfold calculateBundleTtl
  cases hmin : minExpirationLedger classified.spend with
  | none =>
    refine ⟨.inl hday, ?_⟩
    rintro t (rfl | ⟨op, hop, signature, hsig, -⟩)
    · exact hday.le
    · simp [minExpirationLedger_eq_none hmin hop] at hsig
  | some exp =>
    obtain ⟨⟨op, hop, signature, hsig, rfl⟩, hle⟩ := minExpirationLedger_eq_some hmin
    have hsig' : now + ((signature.exp : Int) - latestLedgerSequence) * stellarLedgerCloseTimeMs =
        now + 5000 * ((signature.exp : Int) - latestLedgerSequence) := by
      rw [stellarLedgerCloseTimeMs, mul_comm]
    simp only [hsig', hday]
    by_cases hlt : now + 5000 * ((signature.exp : Int) - latestLedgerSequence) <
        now + 24 * 60 * 60 * 1000
    · rw [if_pos hlt]
      refine ⟨.inr ⟨op, hop, signature, hsig, rfl⟩, ?_⟩
      rintro t (rfl | ⟨op', hop', signature', hsig', rfl⟩)
      · exact hlt.le
      · have hexp := hle op' hop' signature' hsig'
        unfold Time at *
        omega
    · rw [if_neg hlt]
      refine ⟨.inl rfl, ?_⟩
      rintro t (rfl | ⟨op', hop', signature', hsig', rfl⟩)
      · exact le_refl _
      · have hexp := hle op' hop' signature' hsig'
        unfold Time at *
        omega

/-! ## The gate -/

/-- The step serves the update that marks a bundle EXPIRED. -/
def Evicts (id : BundleId) : Step platform State → Prop
  | .served _ q => q = .command (.updateStatusIfActive id .expired BundleStatus.active)
  | _ => False

/-- The update that marks a bundle EXPIRED is rejected at the step. -/
def EvictionFails (id : BundleId) : Step platform State → Prop
  | .rejected _ q _ => q = .command (.updateStatusIfActive id .expired BundleStatus.active)
  | _ => False

namespace Slot

/-- The evictions of the gate, one bundle after the other. -/
def evictions (slot : Slot) (now : Time) : Promise Unit :=
  Task.forEach (I := platform) persistEviction (slot.getBundles.filter (isBundleExpired now))

/-- What the TTL gate does to a slot and to the rows of its bundles. -/
structure Gated (slot : Slot) (bs : List (Beat Err)) (s : State) : Prop where
  /-- The slot keeps the bundles whose TTL is later than now, in their order. -/
  left : ∃ slot', ((expireSlotBundlesPastTtl slot).eval host bs s).1 = some (.ok slot') ∧
    slot'.bundles = slot.bundles.filter (fun b => decide (s.clock < b.ttl)) ∧
    slot'.currentWeight = (slot'.bundles.map (·.weight)).sum
  /-- The write for each expired bundle is made: it is served, or it fails. -/
  attempted : ∀ b ∈ slot.bundles, b.ttl ≤ s.clock →
    ∃ st ∈ (expireSlotBundlesPastTtl slot).trace host bs s,
      Evicts b.bundleId st ∨ EvictionFails b.bundleId st
  /-- An active row whose write succeeded is EXPIRED. -/
  expired : ∀ b ∈ slot.bundles, b.ttl ≤ s.clock →
    (∃ st ∈ (expireSlotBundlesPastTtl slot).trace host bs s, Evicts b.bundleId st) →
    ∀ row, s.db.operationsBundles.find b.bundleId = some row → row.isIn BundleStatus.active →
      ∃ now, ((expireSlotBundlesPastTtl slot).eval host bs s).2.2.db.operationsBundles.find
        b.bundleId = some (row.set now { status := some .expired })
  /-- Every other row is untouched: one that is not active, one whose write
  failed, and those of all other bundles. -/
  kept : ∀ id row, s.db.operationsBundles.find id = some row →
    (row.isIn BundleStatus.active = false ∨
      (¬ ∃ st ∈ (expireSlotBundlesPastTtl slot).trace host bs s, Evicts id st) ∨
      id ∉ (slot.bundles.filter (isBundleExpired s.clock)).map (·.bundleId)) →
    ((expireSlotBundlesPastTtl slot).eval host bs s).2.2.db.operationsBundles.find id = some row

end Slot

section Gate
variable {slot : Slot} {s : State} {id : BundleId} {row : OperationsBundle}

/-- What the gate asks of the repositories. -/
def Req.Evicting (ids : List BundleId) : Req → Prop
  | .command c => ∃ id ∈ ids, c = .updateStatusIfActive id .expired BundleStatus.active
  | _ => True

theorem evictions_uses (slot : Slot) (now : Time) :
    Keeps (fun _ => True)
      (Req.Evicting ((slot.bundles.filter (isBundleExpired now)).map (·.bundleId)))
      (slot.evictions now) := by
  have hannounces : Announces (fun _ => True)
      (Req.Evicting ((slot.bundles.filter (isBundleExpired now)).map (·.bundleId))) :=
    ⟨⟨fun _ => trivial, fun _ => trivial, trivial⟩, fun _ _ _ => trivial, fun _ => trivial⟩
  refine Task.Uses.forEach fun b hb => Task.Uses.recover ?_ fun _ => keeps_pure _
  refine (keeps_command ?_).bind fun _ => emitForPp_keeps hannounces _ rfl
  exact ⟨b.bundleId, List.mem_map_of_mem hb, rfl⟩

/-- An eviction leaves a row that is not active, and the rows of other bundles. -/
theorem evict_keeps {id' : BundleId} (h : row.isIn BundleStatus.active = false ∨ id' ≠ id)
    (hrow : s.db.operationsBundles.find id = some row) :
    (serve (.command (.updateStatusIfActive id' .expired BundleStatus.active))
      s).2.db.operationsBundles.find id = some row := by
  have hkey := Table.find_key hrow
  rw [updateStatusIfActive_find, hrow, Option.map_some]
  obtain hinactive | hne := h
  · simp [hinactive]
  · simp [hkey, Ne.symm hne]

/-- A row that no eviction writes is left. -/
theorem evictions_kept (slot : Slot) (now : Time) :
    Task.Guided host (fun st => row.isIn BundleStatus.active = false ∨ ¬ Evicts id st ∨
        id ∉ (slot.bundles.filter (isBundleExpired now)).map (·.bundleId))
      (fun s => s.db.operationsBundles.find id = some row) (slot.evictions now)
      (fun _ s => s.db.operationsBundles.find id = some row)
      fun s => s.db.operationsBundles.find id = some row := by
  refine Task.Guided.of_steps ?_ ?_ (fun _ _ hs => hs) (evictions_uses slot now)
  · intro o s _ hs _
    rwa [show (host.runOp o s).2.db = s.db from runOp_db o s]
  · intro q s hq hs hg
    cases q with
    | query q => exact hs
    | rpc r => exact hs
    | command c =>
      obtain ⟨id', hid', rfl⟩ := hq
      refine evict_keeps ?_ hs
      obtain hinactive | hnot | hnot := hg
      · exact .inl hinactive
      · refine .inr ?_
        rintro rfl
        exact hnot rfl
      · refine .inr ?_
        rintro rfl
        exact hnot hid'

/-- A row that is served an eviction is EXPIRED at the end, if it was active. -/
theorem evictions_expired (slot : Slot) (now : Time) {bs : List (Beat Err)}
    (hrow : s.db.operationsBundles.find id = some row)
    (hactive : row.isIn BundleStatus.active = true)
    (hserved : ∃ st ∈ (slot.evictions now).trace host bs s, Evicts id st) :
    ∃ at', ((slot.evictions now).eval host bs s).2.2.db.operationsBundles.find id =
      some (row.set at' { status := some .expired }) := by
  have hwritten : ∀ (s : State) (id' : BundleId),
      (∃ at', s.db.operationsBundles.find id = some (row.set at' { status := some .expired })) →
      ∃ at', (serve (.command (.updateStatusIfActive id' .expired BundleStatus.active))
        s).2.db.operationsBundles.find id = some (row.set at' { status := some .expired }) := by
    rintro s id' ⟨at', hset⟩
    exact ⟨at', evict_keeps (.inl (by simp [OperationsBundle.isIn, BundleStatus.active])) hset⟩
  have hown : ∀ (s : State), s.db.operationsBundles.find id = some row →
      (serve (.command (.updateStatusIfActive id .expired BundleStatus.active))
        s).2.db.operationsBundles.find id = some (row.set s.clock { status := some .expired }) := by
    intro s hs
    have hkey := Table.find_key hs
    rw [updateStatusIfActive_find, hs, Option.map_some]
    simp [hkey, hactive]
  refine Task.eval_of_served
    (K := fun s : State => s.db.operationsBundles.find id = some row ∨
      ∃ at', s.db.operationsBundles.find id = some (row.set at' { status := some .expired }))
    (P := fun s : State => ∃ at', s.db.operationsBundles.find id =
      some (row.set at' { status := some .expired }))
    (E := fun q : Req => q = .command (.updateStatusIfActive id .expired BundleStatus.active))
    ?_ ?_ (fun _ _ => ⟨fun hs => hs, fun hs => hs⟩) ?_ (evictions_uses slot now) (.inl hrow) ?_
  · intro o s _
    rw [show (host.runOp o s).2.db = s.db from runOp_db o s]
    exact ⟨fun hs => hs, fun hs => hs⟩
  · intro q s hq
    cases q with
    | query q => exact ⟨fun hs => hs, fun hs => hs⟩
    | rpc r => exact ⟨fun hs => hs, fun hs => hs⟩
    | command c =>
      obtain ⟨id', -, rfl⟩ := hq
      refine ⟨hwritten s id', ?_⟩
      rintro (hs | hs)
      · by_cases hid : id' = id
        · subst hid
          exact .inr ⟨_, hown s hs⟩
        · exact .inl (evict_keeps (.inr hid) hs)
      · exact .inr (hwritten s id' hs)
  · rintro q s - rfl (hs | hs)
    · exact ⟨_, hown s hs⟩
    · exact hwritten s id hs
  · obtain ⟨st, hst, hevicts⟩ := hserved
    cases st with
    | served s' q => exact ⟨s', q, hevicts, hst⟩
    | ran s' o => cases hevicts
    | rejected s' q e => cases hevicts
    | stopped s' q => cases hevicts

/-- Without a stop an eviction comes to its end, whatever rejects. -/
theorem persistEviction_returns (b : SlotBundle) :
    Task.Guided host (fun st => ∀ s' q, st ≠ Step.stopped s' q) (fun _ => True) (persistEviction b)
      (fun _ _ => True) fun _ => False := by
  refine Task.Guided.recover_lives (E := fun _ => True) (fun s q hg => hg s q rfl) ?_
    fun _ => .pure fun _ _ => trivial
  refine Task.Guided.bind (B := fun _ _ => True) ?_ fun _ => ?_
  · have huses : Keeps (fun _ => True) (fun _ => True)
        (command (.updateStatusIfActive b.bundleId .expired BundleStatus.active)) :=
      keeps_command trivial
    exact .of_uses (fun _ _ _ _ _ => trivial) (fun _ _ _ _ => trivial) (fun _ _ _ => trivial) huses
  · exact emitForPp_guided (fun _ _ _ _ => trivial) (fun _ _ _ => trivial) _ _

theorem evictions_return (slot : Slot) (now : Time) :
    Task.Guided host (fun st => ∀ s' q, st ≠ Step.stopped s' q) (fun _ => True) (slot.evictions now)
      (fun _ _ => True) fun _ => False :=
  Task.Guided.forEach_keeps persistEviction_returns _

/-- The process does not stop, and the write for the bundle is not made. -/
def Unattempted (id : BundleId) (st : Step platform State) : Prop :=
  (∀ s' q, st ≠ .stopped s' q) ∧ ¬ (Evicts id st ∨ EvictionFails id st)

/-- There are no such evictions of the bundle. -/
theorem evictions_unattempted {b : SlotBundle} {bundles : List SlotBundle} (hmem : b ∈ bundles) :
    Task.Guided host (Unattempted b.bundleId) (fun _ => True)
      (Task.forEach (I := platform) persistEviction bundles) (fun _ _ => False) fun _ => False := by
  induction bundles with
  | nil => cases hmem
  | cons first rest ih =>
    obtain rfl | hmem := List.mem_cons.mp hmem
    · have hcall : Task.Guided host (Unattempted b.bundleId) (fun _ => True)
          (command (.updateStatusIfActive b.bundleId .expired BundleStatus.active))
          (fun _ _ => False) fun _ => False :=
        .call (fun _ _ _ => trivial) (fun _ _ hg => absurd (.inl rfl) hg.2)
          (fun _ _ _ hg => absurd (.inr rfl) hg.2) fun s' _ hg => absurd rfl (hg.1 s' _)
      refine Task.Guided.bind (B := fun _ _ => False) ?_ fun _ => ?_
      · exact Task.Guided.recover (hcall.bind fun _ _ _ _ hs => hs.elim)
          (fun _ _ _ _ hs => hs.elim) fun _ hs => hs
      · exact fun _ _ _ hs => hs.elim
    · refine Task.Guided.bind (B := fun _ _ => True) ?_ fun _ => ih hmem
      exact (persistEviction_returns first).of_guard fun st hg => hg.1

/-- Without a stop the write for each bundle that is evicted is served or fails. -/
theorem evictions_attempted {now : Time} {b : SlotBundle} (hb : b ∈ slot.bundles)
    (hexpired : isBundleExpired now b = true) {bs : List (Beat Err)}
    (hlives : ∀ beat ∈ bs, Beat.Lives beat) (s : State) :
    ∃ st ∈ (slot.evictions now).trace host bs s,
      Evicts b.bundleId st ∨ EvictionFails b.bundleId st := by
  by_contra hnone
  have hmem : b ∈ slot.bundles.filter (isBundleExpired now) := List.mem_filter.mpr ⟨hb, hexpired⟩
  have hnot : ∀ st ∈ (slot.evictions now).trace host bs s, Unattempted b.bundleId st := by
    refine fun st hst => ⟨?_, fun hmade => hnone ⟨st, hst, hmade⟩⟩
    exact Task.trace_lives host _ bs s hlives st hst
  exact (evictions_unattempted hmem).keeps hnot trivial

/-- The gate is the evictions, and then the slot without the expired bundles. -/
theorem expireSlotBundlesPastTtl_evictions (slot : Slot) (bs : List (Beat Err)) (s : State) :
    ((expireSlotBundlesPastTtl slot).eval host bs s).2.2 =
        ((slot.evictions s.clock).eval host bs s).2.2 ∧
      (expireSlotBundlesPastTtl slot).trace host bs s =
        .ran s .now :: (slot.evictions s.clock).trace host bs s := by
  let removed : Promise Slot := pure (slot.removeWhere (isBundleExpired s.clock))
  have heval : (expireSlotBundlesPastTtl slot).eval host bs s =
      (slot.evictions s.clock >>= fun _ => removed).eval host bs s := rfl
  have htrace : (expireSlotBundlesPastTtl slot).trace host bs s =
      .ran s .now :: (slot.evictions s.clock >>= fun _ => removed).trace host bs s := rfl
  rw [heval, htrace, Task.bind_eq_settle, Task.eval_settle, Task.trace_settle]
  rcases (slot.evictions s.clock).eval host bs s with ⟨_ | e | a, bs', s'⟩
  · exact ⟨rfl, congrArg _ (List.append_nil _)⟩
  · exact ⟨rfl, congrArg _ (List.append_nil _)⟩
  · exact ⟨rfl, congrArg _ (List.append_nil _)⟩

/-- **One slot.** Distinct ids and a right count are enough for the gate. -/
theorem slot_gated (hnodup : (slot.bundles.map (·.bundleId)).Nodup) (hcounted : slot.Counted)
    {bs : List (Beat Err)} (hlives : ∀ b ∈ bs, Beat.Lives b) (s : State) : slot.Gated bs s := by
  obtain ⟨hstate, htrace⟩ := expireSlotBundlesPastTtl_evictions slot bs s
  refine ⟨?_, ?_, ?_, ?_⟩
  · have hguided : Task.Guided host (fun st => ∀ s' q, st ≠ Step.stopped s' q) (· = s)
        (expireSlotBundlesPastTtl slot)
        (fun slot' _ => slot' = slot.removeWhere (isBundleExpired s.clock)) fun _ => False := by
      refine Task.Guided.bind (B := fun now _ => now = s.clock) ?_ fun now => ?_
      · exact .op fun s' hs _ => by rw [hs]; rfl
      refine Task.Guided.of_state fun s' hnow => ?_
      have hreturn := (evictions_return slot now).bind fun _ =>
        Task.Guided.pure (g := fun st => ∀ s' q, st ≠ Step.stopped s' q) (P := fun _ => True)
          (A := fun _ => False) (B := fun slot' _ => slot' = slot.removeWhere (isBundleExpired now))
          fun _ _ => rfl
      exact hreturn.mono (fun _ _ => trivial) (fun _ _ hs => hnow ▸ hs) fun _ hs => hs
    have hended := hguided bs s (Task.trace_lives host _ bs s hlives) rfl
    revert hended
    rcases ((expireSlotBundlesPastTtl slot).eval host bs s).1 with _ | e | slot'
    · exact fun hended => hended.elim
    · exact fun hended => hended.elim
    · intro hended
      refine ⟨slot', rfl, ?_, ?_⟩
      · rw [show slot' = _ from hended, Slot.removeWhere_bundles hnodup]
        refine List.filter_congr fun b _ => Bool.eq_iff_iff.mpr ?_
        rw [Bool.not_eq_true', isBundleExpired, decide_eq_false_iff_not, decide_eq_true_iff]
        exact not_le
      · rw [show slot' = _ from hended]
        exact Slot.removeWhere_keeps (P := Slot.Counted)
          (fun _ id hs => Slot.removeBundle_counted id hs) _ hcounted
  · intro b hb httl
    obtain ⟨st, hst, hmade⟩ := evictions_attempted hb (decide_eq_true httl) hlives s
    rw [htrace]
    exact ⟨st, List.mem_cons_of_mem _ hst, hmade⟩
  · intro b hb httl hserved row hrow hactive
    rw [hstate]
    refine evictions_expired slot s.clock hrow hactive ?_
    rw [htrace] at hserved
    obtain ⟨st, hst, hevicts⟩ := hserved
    obtain rfl | hst := List.mem_cons.mp hst
    · cases hevicts
    · exact ⟨st, hst, hevicts⟩
  · intro id row hrow hkept
    rw [hstate]
    refine (evictions_kept slot s.clock).keeps (fun st hst => ?_) hrow
    obtain hinactive | hnot | hnot := hkept
    · exact .inl hinactive
    · refine .inr (.inl fun hevicts => hnot ⟨st, ?_, hevicts⟩)
      rw [htrace]
      exact List.mem_cons_of_mem _ hst
    · exact .inr (.inr hnot)

end Gate

/-! ## Runs -/

/-- **The TTL gate.** For every slot that is pulled at any point of any run of a
provider, at every time and under every schedule without a crash, writes that
fail among it: the slot keeps exactly its bundles whose TTL is later, a write is made
for each of the others, and the active rows whose write succeeded are EXPIRED, all
others as they were. And a TTL is the least of a day from now and the expirations
of the signatures. -/
theorem ttl_gate (cfg : Config) (fuel : Nat) (s : State) (hboot : s.memory = .boot cfg) :
    (∀ c : ProviderPool, (operated cfg fuel).Run Machine.Free ((operated cfg fuel).init s) c →
      ∀ slot, c.state.memory.mempool.removeFirstSlot.1 = some slot →
      ∀ (bs : List (Beat Err)), (∀ b ∈ bs, Beat.Lives b) → ∀ s' : State, slot.Gated bs s') ∧
    ∀ (now : Time) (classified : ClassifiedOperations) (latestLedgerSequence : Nat),
      IsLeast (ttlBounds now classified.spend latestLedgerSequence)
        (calculateBundleTtl now classified latestLedgerSequence) := by
  refine ⟨fun c h slot hpull bs hlives s' => ?_, calculateBundleTtl_isLeast⟩
  have hmem := Mempool.removeFirstSlot_mem hpull
  have hbooked : c.state.Booked := by
    refine State.Booked.run h fun slot hslot => ?_
    rw [show ((operated cfg fuel).init s).state = s from rfl, hboot] at hslot
    cases hslot
  obtain ⟨hqueue, -⟩ := queued_reachable hboot h
  have hsub : (slot.bundles.map (·.bundleId)).Sublist c.state.memory.mempool.queuedIds := by
    refine List.Sublist.map _ ?_
    rw [Mempool.queued_of_removeFirstSlot hpull]
    exact List.sublist_append_left _ _
  exact slot_gated (hsub.nodup hqueue) (hbooked slot hmem).counted hlives s'

/-- The bundle that was admitted is pulled a day later. Its write fails, or is served
and then its row is EXPIRED. -/
theorem ttl_gate_small :
    ∃ (c : ProviderPool) (slot : Slot) (s : State), c.state.memory.mempool.removeFirstSlot.1 = some slot ∧
      slot.bundles.map (·.bundleId) = ["deposit 10"] ∧
      slot.Gated [⟨0, .reject (.database "down")⟩] s ∧ slot.Gated [] s ∧
      ∃ (row : OperationsBundle) (now : Time),
        ((expireSlotBundlesPastTtl slot).eval host [] s).2.2.db.operationsBundles.find
          "deposit 10" = some (row.set now { status := some .expired }) := by
  obtain ⟨c, hr, hp⟩ := Machine.exists_run_of_replay (M := operated Small.config 1)
    (G := Machine.Free) (c := (operated Small.config 1).init Small.state) Small.admitted
    (fun s => (s.memory.mempool.removeFirstSlot.1.map fun slot =>
        slot.bundles.map fun b => (b.bundleId, decide (b.ttl ≤ s.clock + 86400000))) ==
          some [("deposit 10", true)] &&
      ((s.db.operationsBundles.find "deposit 10").map (·.isIn BundleStatus.active)) == some true)
    (by decide +kernel)
  rw [Bool.and_eq_true, beq_iff_eq, beq_iff_eq] at hp
  obtain ⟨slot, hslot, hids⟩ := Option.map_eq_some_iff.mp hp.1
  obtain ⟨row, hrow, hactive⟩ := Option.map_eq_some_iff.mp hp.2
  obtain ⟨b, hbundles, hb⟩ := List.map_eq_singleton_iff.mp hids
  obtain ⟨hid, httl⟩ := Prod.mk.inj hb
  have hgated (bs : List (Beat Err)) (hlives : ∀ beat ∈ bs, Beat.Lives beat) :
      slot.Gated bs { c.state with clock := c.state.clock + 86400000 } :=
    (ttl_gate Small.config 1 Small.state rfl).1 c hr slot hslot bs hlives _
  have hcalm := hgated [] (List.forall_mem_nil _)
  have hmem : b ∈ slot.bundles := by simp [hbundles]
  obtain ⟨st, hst, hmade⟩ := hcalm.attempted b hmem (of_decide_eq_true httl)
  -- past its end a schedule serves every request
  have hserved : Evicts b.bundleId st := by
    refine hmade.resolve_right fun hfails => ?_
    rcases Task.trace_serves host _ [] _ (List.forall_mem_nil _) st hst with
      ⟨_, _, rfl⟩ | ⟨_, _, rfl⟩
    · exact hfails
    · exact hfails
  obtain ⟨now, hnow⟩ := hcalm.expired b hmem (of_decide_eq_true httl) ⟨st, hst, hserved⟩ row
    (hid ▸ hrow) hactive
  exact ⟨c, slot, _, hslot, by simp [hbundles, hid], hgated _ (by simp [Beat.Lives]), hcalm,
    row, now, hid ▸ hnow⟩

end ProviderPlatform
