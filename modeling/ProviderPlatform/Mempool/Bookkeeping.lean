import ProviderPlatform.Mempool.Capacity
import ProviderPlatform.Mempool.Homogeneous

/-! # The books of the mempool

`currentWeight` is kept by increments, the order by sorting, and slots that
become empty are spliced out. The three facts hold of every slot of every
reachable queue, so the statistics, which read only the slots' own counters,
report what is queued. -/
namespace ProviderPlatform
open Async

/-! ## Statistics -/

/-- What `getStats` reports. -/
structure MempoolStats where
  totalSlots : Nat
  totalBundles : Nat
  totalWeight : Nat
  averageBundlesPerSlot : Rat
  deriving DecidableEq

/-- What `getStatsForChannels` reports. -/
structure ChannelStats where
  queueDepth : Nat
  slotCount : Nat
  deriving DecidableEq

namespace Mempool

/-- Gets total number of bundles across all slots. -/
def getTotalBundles (mempool : Mempool) : Nat :=
  mempool.slots.foldl (fun sum slot => sum + slot.getBundleCount) 0

/-- Gets statistics about the mempool. -/
def getStats (mempool : Mempool) : MempoolStats :=
  let totalBundles := mempool.getTotalBundles
  let totalWeight := mempool.slots.foldl (fun sum slot => sum + slot.getTotalWeight) 0
  let totalSlots := mempool.slots.length
  ⟨totalSlots, totalBundles, totalWeight,
    if totalSlots > 0 then (totalBundles : Rat) / totalSlots else 0⟩

/-- Aggregate stats restricted to the given channels. -/
def getStatsForChannels (mempool : Mempool) (channelContractIds : List ContractId) :
    ChannelStats :=
  if channelContractIds.isEmpty then ⟨0, 0⟩
  else mempool.slots.foldl
    (fun stats slot =>
      if channelContractIds.contains slot.channelContractId then
        ⟨stats.queueDepth + slot.getBundleCount, stats.slotCount + 1⟩
      else stats) ⟨0, 0⟩

end Mempool

/-! ## One slot -/

namespace Slot
variable {slot : Slot}

/-- The bundles are in the order of their priority, the highest first. -/
def Sorted (slot : Slot) : Prop :=
  slot.bundles.Pairwise fun a b => b.priorityScore ≤ a.priorityScore

/-- The weight is counted, the bundles are sorted, and there are some. -/
structure Booked (slot : Slot) : Prop where
  counted : slot.Counted
  sorted : slot.Sorted
  nonempty : slot.bundles ≠ []

theorem sortByPriority_sorted (bundles : List SlotBundle) :
    (sortByPriority bundles).Pairwise fun a b => b.priorityScore ≤ a.priorityScore := by
  have hle (a b : SlotBundle) : compareBundlePriority a b ≤ 0 ↔ b.priorityScore ≤ a.priorityScore :=
    sub_nonpos
  have htotal : Std.Total fun a b : SlotBundle => compareBundlePriority a b ≤ 0 :=
    ⟨fun a b => by simpa only [hle] using le_total b.priorityScore a.priorityScore⟩
  have htrans : IsTrans SlotBundle fun a b => compareBundlePriority a b ≤ 0 :=
    ⟨fun a b c hab hbc => by
      rw [hle] at hab hbc ⊢
      exact hbc.trans hab⟩
  have hsorted := List.pairwise_insertionSort (fun a b => compareBundlePriority a b ≤ 0) bundles
  exact hsorted.imp fun h => (hle _ _).mp h

theorem push_booked (h : slot.Counted) (bundle : SlotBundle) : (slot.push bundle).Booked where
  counted := push_counted h bundle
  sorted := sortByPriority_sorted _
  nonempty hnil := by
    have hmem := (slot.push_bundles_perm bundle).mem_iff.mpr List.mem_cons_self
    rw [hnil] at hmem
    cases hmem

theorem Booked.add (h : slot.Booked) (bundle : SlotBundle) : (slot.add bundle).1.Booked := by
  unfold Slot.add
  split
  · exact push_booked h.counted bundle
  · split
    · rename_i lowest hlow
      exact push_booked (drop_counted h.counted (replaceable_mem hlow)) bundle
    · exact h

/-- A removal keeps the books, but may leave the slot empty. -/
def Kept (slot : Slot) : Prop := slot.Counted ∧ slot.Sorted

theorem Kept.removeBundle (h : slot.Kept) (id : BundleId) : (slot.removeBundle id).1.Kept :=
  ⟨removeBundle_counted id h.1, h.2.sublist (slot.removeBundle_sublist id)⟩

end Slot

/-! ## The queue -/

namespace Mempool
variable {mempool : Mempool}

/-- Every slot of the queue is in order. -/
def Booked (mempool : Mempool) : Prop := ∀ slot ∈ mempool.slots, slot.Booked

theorem Booked.place (h : mempool.Booked) (bundle : SlotBundle) :
    (mempool.place bundle).2.Booked := by
  apply place_forall _ h
  constructor
  · exact fun p _ hslot => hslot.add p.2
  · exact fun removed _ _ => Slot.push_booked (Slot.counted_new _ _) removed

/-- A sweep takes the slots that it emptied out. -/
theorem sweep_booked (p : SlotBundle → Bool) : ∀ {slots : List Slot},
    (∀ slot ∈ slots, slot.Booked) → ∀ slot ∈ (sweep p slots).2, slot.Booked
  | [], _ => fun _ hslot => nomatch hslot
  | slot :: slots, h => by
    obtain ⟨hslot, hslots⟩ := List.forall_mem_cons.mp h
    have ih := sweep_booked p hslots
    have hkept : (slot.removeWhere p).Kept :=
      Slot.removeWhere_keeps (fun _ id hs => hs.removeBundle id) p ⟨hslot.counted, hslot.sorted⟩
    simp only [sweep]
    split
    · exact ih
    · rename_i hne
      apply List.forall_mem_cons.mpr ⟨⟨hkept.1, hkept.2, ?_⟩, ih⟩
      simpa [Slot.isEmpty] using hne

/-- The slot that is pulled is not empty. -/
theorem Booked.pulled (h : mempool.Booked) {slot : Slot}
    (hslot : mempool.removeFirstSlot.1 = some slot) : slot.isEmpty = false := by
  have hne := (h slot (removeFirstSlot_mem hslot)).nonempty
  simpa [Slot.isEmpty] using hne

/-! ## What the statistics report -/

theorem foldl_count (f : Slot → Nat) : ∀ (slots : List Slot) (n : Nat),
    slots.foldl (fun sum slot => sum + f slot) n = n + (slots.map f).sum
  | [], n => rfl
  | slot :: slots, n => by
    rw [List.foldl_cons, foldl_count f slots, List.map_cons, List.sum_cons, Nat.add_assoc]

theorem getTotalBundles_eq (mempool : Mempool) :
    mempool.getTotalBundles = mempool.queued.length := by
  rw [getTotalBundles, foldl_count, Nat.zero_add, queued, List.length_flatMap]
  rfl

theorem totalWeight_eq (h : mempool.Booked) :
    (mempool.slots.map (·.getTotalWeight)).sum = (mempool.queued.map (·.weight)).sum := by
  obtain ⟨capacity, slots⟩ := mempool
  simp only [Booked, queued] at h ⊢
  induction slots with
  | nil => rfl
  | cons slot slots ih =>
    obtain ⟨hslot, hslots⟩ := List.forall_mem_cons.mp h
    have hcount : slot.getTotalWeight = (slot.bundles.map (·.weight)).sum := hslot.counted
    rw [List.map_cons, List.sum_cons, List.flatMap_cons, List.map_append, List.sum_append, hcount,
      ih hslots]

/-- The statistics are the true counts. -/
theorem Booked.getStats (h : mempool.Booked) : mempool.getStats =
    ⟨mempool.slots.length, mempool.queued.length, (mempool.queued.map (·.weight)).sum,
      if mempool.slots.length > 0 then (mempool.queued.length : Rat) / mempool.slots.length
      else 0⟩ := by
  simp only [Mempool.getStats, getTotalBundles_eq, foldl_count, Nat.zero_add, totalWeight_eq h]

/-- The bundles that are queued for the channels, and the slots that hold them. -/
theorem getStatsForChannels_eq (h : ∀ slot ∈ mempool.slots, slot.OneChannel)
    (channels : List ContractId) : mempool.getStatsForChannels channels =
      ⟨(mempool.queued.filter fun b => channels.contains b.channelContractId).length,
        (mempool.slots.filter fun slot => channels.contains slot.channelContractId).length⟩ := by
  let asked (slot : Slot) : Bool := channels.contains slot.channelContractId
  have hfold : ∀ (slots : List Slot) (stats : ChannelStats), (∀ slot ∈ slots, slot.OneChannel) →
      slots.foldl (fun stats slot =>
        if channels.contains slot.channelContractId then
          ⟨stats.queueDepth + slot.getBundleCount, stats.slotCount + 1⟩
        else stats) stats =
      ⟨stats.queueDepth + ((slots.flatMap (·.bundles)).filter
          fun b => channels.contains b.channelContractId).length,
        stats.slotCount + (slots.filter fun slot =>
          channels.contains slot.channelContractId).length⟩ := by
    intro slots
    induction slots with
    | nil => exact fun stats _ => rfl
    | cons slot slots ih =>
      intro stats hslots
      obtain ⟨hslot, hslots⟩ := List.forall_mem_cons.mp hslots
      rw [List.foldl_cons, ih _ hslots, List.flatMap_cons, List.filter_append, List.length_append]
      by_cases hin : channels.contains slot.channelContractId = true
      · have hall : slot.bundles.filter (fun b => channels.contains b.channelContractId) =
            slot.bundles := List.filter_eq_self.mpr fun b hb => by rw [hslot b hb, hin]
        rw [if_pos hin, List.filter_cons_of_pos (p := asked) hin, hall, List.length_cons]
        simp only [Slot.getBundleCount, ChannelStats.mk.injEq]
        refine ⟨by omega, ?_⟩
        show stats.slotCount + 1 + (slots.filter asked).length = _
        omega
      · have hnone : slot.bundles.filter (fun b => channels.contains b.channelContractId) = [] :=
          List.filter_eq_nil_iff.mpr fun b hb => by rw [hslot b hb]; exact hin
        rw [if_neg hin, List.filter_cons_of_neg (p := asked) hin, hnone, List.length_nil, Nat.zero_add]
  unfold getStatsForChannels
  split
  · rename_i hnil
    rw [List.isEmpty_iff.mp hnil]
    simp
  · rw [hfold _ _ h]
    simp [queued]

end Mempool

/-! ## Runs -/

namespace State
variable {s : State}

/-- Every slot of the queue is in order. -/
def Booked (s : State) : Prop := s.memory.mempool.Booked

theorem Booked.runOp (h : s.Booked) (o : Op) : (runOp o s).2.Booked := by
  cases o with
  | place bundle => exact Mempool.Booked.place h bundle
  | takeExpired => exact Mempool.sweep_booked _ h
  | purgeBundles ids =>
    unfold Booked
    simp only [ProviderPlatform.runOp, State.withMempool_mempool, Mempool.purgeBundles]
    split
    · exact h
    · exact Mempool.sweep_booked _ h
  | removeFirstSlot =>
    unfold Booked
    simp only [ProviderPlatform.runOp, State.withMempool_mempool, Mempool.removeFirstSlot]
    split
    · exact h
    · rename_i hslots
      unfold Booked Mempool.Booked at h
      rw [hslots] at h
      exact (List.forall_mem_cons.mp h).2
  | _ => exact h

theorem Booked.run {cfg : Config} {fuel : Nat} {allowed : State → Call → Bool}
    {c c' : ProviderPool} (h : (process cfg fuel allowed).Run Machine.Free c c')
    (h0 : c.state.Booked) : c'.state.Booked := by
  apply h.state_invariant (P := Booked) (g := fun _ _ => True) (fun _ _ _ _ _ => trivial)
  · exact fun s o hs _ => hs.runOp o
  · intro s q hs
    cases q <;> exact hs
  · intro s d hs
    show State.Booked (drift d s)
    rw [Booked, drift_mempool]
    exact hs
  · exact fun s _ slot hslot => nomatch hslot
  · exact h0

end State

/-- **The books are right.** In every state of every run from an empty mempool
each slot's weight is the sum of its bundles' weights, its bundles are in the
order of their priority and it is not empty; so the statistics are the true
counts, and a slot that is pulled is not empty. -/
theorem mempool_books (cfg : Config) (fuel : Nat) (allowed : State → Call → Bool) (s : State)
    (c : ProviderPool) (hs : s.memory.mempool = .new cfg.slotCapacity)
    (h : (process cfg fuel allowed).Run Machine.Free ⟨s, []⟩ c) :
    let mempool := c.state.memory.mempool
    (∀ slot ∈ mempool.slots, slot.currentWeight = (slot.bundles.map (·.weight)).sum ∧
      slot.bundles.Pairwise (fun a b => b.priorityScore ≤ a.priorityScore) ∧
      slot.bundles ≠ []) ∧
    mempool.getStats = ⟨mempool.slots.length, mempool.queued.length,
      (mempool.queued.map (·.weight)).sum,
      if mempool.slots.length > 0 then (mempool.queued.length : Rat) / mempool.slots.length
      else 0⟩ ∧
    (∀ channels, mempool.getStatsForChannels channels =
      ⟨(mempool.queued.filter fun b => channels.contains b.channelContractId).length,
        (mempool.slots.filter fun slot => channels.contains slot.channelContractId).length⟩) ∧
    ∀ slot, mempool.removeFirstSlot.1 = some slot → slot.isEmpty = false := by
  have hslots : s.memory.mempool.slots = [] := by rw [hs]; rfl
  have hbooked : c.state.Booked := by
    apply State.Booked.run h
    unfold State.Booked Mempool.Booked
    rw [hslots]
    exact fun _ hslot => nomatch hslot
  have hchannel : c.state.OneChannel := by
    apply State.OneChannel.run h
    unfold State.OneChannel
    rw [hslots]
    exact fun _ hslot => nomatch hslot
  refine ⟨?_, hbooked.getStats, ?_, ?_⟩
  · intro slot hslot
    have hslot := hbooked slot hslot
    exact ⟨hslot.counted, hslot.sorted, hslot.nonempty⟩
  · exact Mempool.getStatsForChannels_eq hchannel
  · exact fun slot hpull => hbooked.pulled hpull

/-- A run in which a bundle takes the place of another. -/
theorem mempool_books_small :
    ∃ c : ProviderPool, c.state.memory.mempool.queuedIds = ["urgent", "slow"] ∧
      c.state.memory.mempool.getStats = ⟨2, 2, 19, 1⟩ := by
  obtain ⟨c, hr, hp⟩ := Machine.exists_run_of_replay
    (M := process Small.config 1 fun _ _ => true) (G := Machine.Free) (c := ⟨Small.state, []⟩)
    (Small.adds Small.swapping) (fun s => s.memory.mempool.queuedIds == ["urgent", "slow"] &&
      decide (s.memory.mempool.slots.length = 2) &&
      decide (s.memory.mempool.queued.map (·.weight) = [9, 10])) (by decide +kernel)
  obtain ⟨-, hstats, -⟩ := mempool_books Small.config 1 (fun _ _ => true) Small.state c rfl hr
  simp only [Bool.and_eq_true, beq_iff_eq, decide_eq_true_eq] at hp
  obtain ⟨⟨hids, hlength⟩, hweights⟩ := hp
  have hcount : c.state.memory.mempool.queued.length = 2 := by
    simpa using congrArg List.length hweights
  refine ⟨c, hids, ?_⟩
  rw [hstats, hlength, hcount, hweights]
  norm_num

end ProviderPlatform
