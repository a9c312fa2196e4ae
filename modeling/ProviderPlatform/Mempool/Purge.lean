import ProviderPlatform.Mempool.Bookkeeping
import ProviderPlatform.Mempool.Contents

/-! # What a purge takes out

`purgeBundles` goes through a snapshot of each slot and removes by id, so where
an id stands twice in a slot the first of the two goes at each turn. Whether a
bundle goes depends on its id alone: what is left is what a filter leaves. -/
namespace ProviderPlatform
open Async

namespace Slot
variable {slot : Slot}

theorem byId_contains (ids : List BundleId) (slot : Slot) :
    slot.ById fun b => ids.contains b.bundleId := fun _ _ _ _ he => congrArg ids.contains he

/-- The bundles of the slot are all among the ids, and there are ids. -/
def emptiedBy (ids : List BundleId) (slot : Slot) : Bool :=
  !ids.isEmpty && slot.bundles.all fun b => ids.contains b.bundleId

theorem without_isEmpty (p : SlotBundle → Bool) (slot : Slot) :
    (slot.without p).isEmpty = slot.bundles.all p := by
  rw [Bool.eq_iff_iff]
  simp [isEmpty, without]

@[simp] theorem without_false (slot : Slot) : (slot.without fun _ => false) = slot := by
  simp [without]

end Slot

namespace Mempool
variable {mempool : Mempool} {ids : List BundleId}

/-- A purge that is exact: the bundles with one of the ids are counted and gone,
what else is queued is in its order, and each slot is there without its purged
bundles, in its order, but for those that hold none then. -/
structure Purged (ids : List BundleId) (mempool : Mempool) (outcome : Nat × Mempool) : Prop where
  removed : outcome.1 = (mempool.queued.filter fun b => ids.contains b.bundleId).length
  queued : outcome.2.queued = mempool.queued.filter fun b => !ids.contains b.bundleId
  capacity : outcome.2.capacity = mempool.capacity
  slots : outcome.2.slots = (mempool.slots.filter fun slot => !slot.emptiedBy ids).map
    (·.without fun b => ids.contains b.bundleId)

theorem purgeBundles_nil (mempool : Mempool) : mempool.purgeBundles [] = (0, mempool) := rfl

theorem purgeBundles_of_ne (h : ids ≠ []) (mempool : Mempool) : mempool.purgeBundles ids =
    ((sweep (fun b => ids.contains b.bundleId) mempool.slots).1.length,
      { mempool with slots := (sweep (fun b => ids.contains b.bundleId) mempool.slots).2 }) :=
  if_neg fun hempty => h (List.isEmpty_iff.mp hempty)

theorem sweep_count (p : SlotBundle → Bool) (slots : List Slot) :
    (sweep p slots).1.length = ((slots.flatMap (·.bundles)).filter p).length := by
  have hperm : (slots.reverse.flatMap fun slot => slot.bundles.filter p).Perm
      (slots.flatMap fun slot => slot.bundles.filter p) :=
    (List.reverse_perm slots).flatMap_right _
  rw [sweep_fst, List.filter_flatMap, hperm.length_eq]

theorem purged (mempool : Mempool) (ids : List BundleId) :
    Purged ids mempool (mempool.purgeBundles ids) := by
  by_cases hids : ids = []
  · subst hids
    rw [purgeBundles_nil]
    refine ⟨by simp, by simp, rfl, ?_⟩
    simp [Slot.emptiedBy]
  · have hbyId : ∀ slot ∈ mempool.slots, slot.ById fun b => ids.contains b.bundleId :=
      fun slot _ => slot.byId_contains ids
    rw [purgeBundles_of_ne hids]
    refine ⟨sweep_count _ _, sweep_snd hbyId, rfl, ?_⟩
    have hgone : ∀ slot : Slot, (slot.without fun b => ids.contains b.bundleId).isEmpty =
        slot.emptiedBy ids := fun slot => by simp [Slot.without_isEmpty, Slot.emptiedBy, hids]
    rw [sweep_slots hbyId, List.filter_map]
    exact congrArg _ (List.filter_congr fun slot _ => congrArg not (hgone slot))

end Mempool

/-- **A purge is exact** in every mempool. In every state of a run every slot
holds a bundle and counts its weight, before a purge and after it: the slots that
go are those that the purge empties. -/
theorem purge_exact (cfg : Config) (fuel : Nat) (allowed : State → Call → Bool) :
    (∀ (mempool : Mempool) (ids : List BundleId),
      mempool.Purged ids (mempool.purgeBundles ids)) ∧
    ∀ (s : State) (c : ProviderPool), s.memory.mempool = .new cfg.slotCapacity →
      (process cfg fuel allowed).Run Machine.Free ⟨s, []⟩ c →
      ∀ (ids : List BundleId), ∀ slot ∈ c.state.memory.mempool.slots ++
        (c.state.memory.mempool.purgeBundles ids).2.slots,
        slot.bundles ≠ [] ∧ slot.currentWeight = (slot.bundles.map (·.weight)).sum := by
  refine ⟨Mempool.purged, fun s c hs h ids slot hslot => ?_⟩
  have hbooked : c.state.Booked := by
    refine State.Booked.run h fun slot hslot => ?_
    rw [hs] at hslot
    cases hslot
  have hpurged : (runOp (.purgeBundles ids) c.state).2.Booked := hbooked.runOp _
  rcases List.mem_append.mp hslot with hmem | hmem
  · exact ⟨(hbooked slot hmem).nonempty, (hbooked slot hmem).counted⟩
  · exact ⟨(hpurged slot hmem).nonempty, (hpurged slot hmem).counted⟩

/-- A purge by an id that is given twice and one that is unknown. -/
theorem purge_exact_small : ∃ c : ProviderPool,
    c.state.memory.mempool.queuedIds = ["urgent", "slow"] ∧
    let (removed, mempool) := c.state.memory.mempool.purgeBundles ["slow", "none", "slow"]
    removed = 1 ∧ mempool.queuedIds = ["urgent"] ∧ ∀ slot ∈ mempool.slots, slot.bundles ≠ [] := by
  obtain ⟨c, hr, hp⟩ := Machine.exists_run_of_replay
    (M := process Small.config 1 fun _ _ => true) (G := Machine.Free) (c := ⟨Small.state, []⟩)
    (Small.adds Small.swapping) (fun s => s.memory.mempool.queuedIds == ["urgent", "slow"] &&
      decide ((s.memory.mempool.purgeBundles ["slow", "none", "slow"]).1 = 1) &&
      (s.memory.mempool.purgeBundles ["slow", "none", "slow"]).2.queuedIds == ["urgent"])
    (by decide +kernel)
  obtain ⟨-, hheld⟩ := purge_exact Small.config 1 fun _ _ => true
  simp only [Bool.and_eq_true, beq_iff_eq, decide_eq_true_eq] at hp
  obtain ⟨⟨hqueued, hremoved⟩, hleft⟩ := hp
  exact ⟨c, hqueued, hremoved, hleft, fun slot hslot =>
    (hheld Small.state c rfl hr ["slow", "none", "slow"] slot (List.mem_append_right _ hslot)).1⟩

end ProviderPlatform
