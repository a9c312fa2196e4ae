import ProviderPlatform.Mempool.Contents
import ProviderPlatform.Mempool.Homogeneous

/-! # The order of the cascade

A slot gives up the occupant of lowest priority, and only to a bundle of higher
priority. So what the cascade carries never gains priority, every slot it has
passed holds nothing of lower priority than what it still carries, and a new
slot is opened for a bundle that no other of the channel is below. -/
namespace ProviderPlatform
open Async

namespace Slot
variable {slot : Slot} {bundle removed : SlotBundle}

theorem findLowestPriorityBundle_le {bundles : List SlotBundle} {lowest : SlotBundle}
    (h : findLowestPriorityBundle bundles = some lowest) :
    ∀ b ∈ bundles, lowest.priorityScore ≤ b.priorityScore := by
  cases bundles with
  | nil => simp
  | cons b bundles =>
    simp only [findLowestPriorityBundle, Option.some.injEq] at h
    have key (l : List SlotBundle) (first : SlotBundle) : ∀ b ∈ first :: l,
        (l.foldl (fun lowest current =>
          if current.priorityScore < lowest.priorityScore then current else lowest)
          first).priorityScore ≤ b.priorityScore := by
      induction l generalizing first with
      | nil => simp
      | cons x l ih =>
        rw [List.foldl_cons]
        by_cases hlt : x.priorityScore < first.priorityScore
        · rw [if_pos hlt]
          obtain ⟨hx, -⟩ := List.forall_mem_cons.mp (ih x)
          exact List.forall_mem_cons.mpr ⟨hx.trans hlt.le, ih x⟩
        · rw [if_neg hlt]
          obtain ⟨hfirst, hl⟩ := List.forall_mem_cons.mp (ih first)
          have hx := hfirst.trans (not_lt.mp hlt)
          exact List.forall_mem_cons.mpr ⟨hfirst, List.forall_mem_cons.mpr ⟨hx, hl⟩⟩
    rw [← h]
    exact key bundles b

theorem findLowestPriorityBundle_eq_none {bundles : List SlotBundle}
    (h : findLowestPriorityBundle bundles = none) : bundles = [] := by
  cases bundles with
  | nil => rfl
  | cons b bundles => simp [findLowestPriorityBundle] at h

/-- What `add` returns is no occupant's better: an occupant of lower priority
whose place the bundle took, or the bundle itself, which no occupant is below. -/
theorem add_returns (h : (slot.add bundle).2 = some removed) :
    (∀ b ∈ slot.bundles, removed.priorityScore ≤ b.priorityScore) ∧
    (slot.replaceable bundle = some removed ∧ slot.canFit bundle = false ∧
        removed.priorityScore < bundle.priorityScore ∧
        (slot.add bundle).1.bundles.Perm (bundle :: slot.bundles.erase removed) ∨
      removed = bundle ∧ (slot.add bundle).1 = slot) := by
  cases hfit : slot.canFit bundle with
  | true => simp [add, hfit] at h
  | false =>
    cases hlow : slot.replaceable bundle with
    | some lowest =>
      obtain ⟨hfirst, hlt⟩ := Option.filter_eq_some_iff.mp hlow
      have hadd : slot.add bundle = ((slot.drop lowest).push bundle, some lowest) := by
        simp [add, hfit, hlow]
      rw [hadd] at h ⊢
      obtain rfl := Option.some.inj h
      exact ⟨findLowestPriorityBundle_le hfirst,
        .inl ⟨rfl, rfl, of_decide_eq_true hlt, (slot.drop lowest).push_bundles_perm bundle⟩⟩
    | none =>
      have hadd : slot.add bundle = (slot, some bundle) := by simp [add, hfit, hlow]
      rw [hadd] at h ⊢
      obtain rfl := Option.some.inj h
      refine ⟨fun b hb => ?_, .inr ⟨rfl, rfl⟩⟩
      cases hfirst : findLowestPriorityBundle slot.bundles with
      | none => simp [findLowestPriorityBundle_eq_none hfirst] at hb
      | some lowest =>
        simp only [replaceable, hfirst, Option.filter_some, decide_eq_true_eq] at hlow
        have hnot : ¬ lowest.priorityScore < bundle.priorityScore := fun hlt => by
          simp [hlt] at hlow
        exact (not_lt.mp hnot).trans (findLowestPriorityBundle_le hfirst b hb)

/-- What is carried on has at most the priority of what was offered. -/
theorem add_returns_le (h : (slot.add bundle).2 = some removed) :
    removed.priorityScore ≤ bundle.priorityScore := by
  obtain ⟨-, ⟨-, -, hlt, -⟩ | ⟨rfl, -⟩⟩ := add_returns h
  · exact hlt.le
  · exact le_refl _

/-- A slot that passed a bundle on holds nothing below it. -/
theorem add_passed (h : (slot.add bundle).2 = some removed) :
    ∀ b ∈ (slot.add bundle).1.bundles, removed.priorityScore ≤ b.priorityScore := by
  obtain ⟨hlow, ⟨-, -, hlt, hperm⟩ | ⟨rfl, hsame⟩⟩ := add_returns h
  · intro b hb
    rcases List.mem_cons.mp (hperm.mem_iff.mp hb) with rfl | hb
    · exact hlt.le
    · exact hlow b (List.mem_of_mem_erase hb)
  · rwa [hsame]

end Slot

/-! ## The cascade -/

namespace Mempool
variable {mempool : Mempool} {bundle removed : SlotBundle} {channel : ContractId}

/-- What is carried never has more priority than the bundle that was added. -/
theorem offers_le (channel : ContractId) : ∀ (slots : List Slot) (bundle : SlotBundle),
    ∀ p ∈ offers channel slots bundle, p.2.priorityScore ≤ bundle.priorityScore
  | [], bundle => by simp [offers]
  | slot :: slots, bundle => by
    by_cases hch : slot.channelContractId = channel
    · rw [offers, if_neg (by simpa using hch), List.forall_mem_cons]
      refine ⟨le_refl _, ?_⟩
      cases hleft : (slot.add bundle).2 with
      | none => simp
      | some removed =>
        exact fun p hp => (offers_le channel slots removed p hp).trans (Slot.add_returns_le hleft)
    · rw [offers, if_pos hch]
      exact offers_le channel slots bundle

/-- From one offer to a later one the priority of what is carried never rises. -/
theorem offers_pairwise (channel : ContractId) : ∀ (slots : List Slot) (bundle : SlotBundle),
    (offers channel slots bundle).Pairwise fun p q => q.2.priorityScore ≤ p.2.priorityScore
  | [], bundle => by simp [offers]
  | slot :: slots, bundle => by
    by_cases hch : slot.channelContractId = channel
    · rw [offers, if_neg (by simpa using hch), List.pairwise_cons]
      cases hleft : (slot.add bundle).2 with
      | none => simp
      | some removed =>
        refine ⟨fun q hq => ?_, offers_pairwise channel slots removed⟩
        exact (offers_le channel slots removed q hq).trans (Slot.add_returns_le hleft)
    · rw [offers, if_pos hch]
      exact offers_pairwise channel slots bundle

/-- What is left over is at most what was carried at any offer, and no bundle
in a slot of the channel is below it. -/
theorem offer_returns (channel : ContractId) : ∀ (slots : List Slot) (bundle : SlotBundle),
    (offer channel slots bundle).2 = some removed →
    removed.priorityScore ≤ bundle.priorityScore ∧
    (∀ p ∈ offers channel slots bundle, removed.priorityScore ≤ p.2.priorityScore) ∧
    ∀ slot ∈ (offer channel slots bundle).1, slot.channelContractId = channel →
      ∀ b ∈ slot.bundles, removed.priorityScore ≤ b.priorityScore
  | [], bundle, h => by
    obtain rfl := Option.some.inj h
    simp [offer, offers]
  | slot :: slots, bundle, h => by
    by_cases hch : slot.channelContractId = channel
    · cases hleft : (slot.add bundle).2 with
      | none =>
        rw [offer_cons_of_fit hch hleft] at h
        cases h
      | some carried =>
        rw [offer_cons_of_leftover hch hleft] at h ⊢
        obtain ⟨hle, hoffers, hslots⟩ := offer_returns channel slots carried h
        have hbundle := hle.trans (Slot.add_returns_le hleft)
        refine ⟨hbundle, ?_, List.forall_mem_cons.mpr ⟨fun _ b hb => ?_, hslots⟩⟩
        · rw [offers, if_neg (by simpa using hch), hleft]
          exact List.forall_mem_cons.mpr ⟨hbundle, hoffers⟩
        · exact hle.trans (Slot.add_passed hleft b hb)
    · rw [offer_cons_of_ne hch] at h ⊢
      obtain ⟨hle, hoffers, hslots⟩ := offer_returns channel slots bundle h
      refine ⟨hle, ?_, List.forall_mem_cons.mpr ⟨fun he => absurd he hch, hslots⟩⟩
      rw [offers, if_pos hch]
      exact hoffers

/-- The cascade of a placement respects priority: a bundle that is displaced is
below the one that takes its place, what is carried never gains priority, and
a slot that is opened holds one bundle, which no queued one of the channel is
below. -/
structure RespectsPriority (mempool : Mempool) (bundle : SlotBundle) : Prop where
  /-- The slots are the old ones, with what the offers added, and the one opened. -/
  adds : ∀ slot ∈ (mempool.place bundle).2.slots, slot ∈ mempool.slots ∨
    (∃ p ∈ offers bundle.channelContractId mempool.slots bundle, slot = (p.1.add p.2).1) ∨
    (mempool.place bundle).1 = .newSlot ∧
      ∃ removed, slot = (Slot.new mempool.capacity bundle.channelContractId).push removed
  displaced : ∀ p ∈ offers bundle.channelContractId mempool.slots bundle, ∀ removed,
    (p.1.add p.2).2 = some removed → removed ≠ p.2 →
    removed.priorityScore < p.2.priorityScore ∧ removed ∈ p.1.bundles ∧
      (p.1.add p.2).1.bundles.Perm (p.2 :: p.1.bundles.erase removed)
  carried : (offers bundle.channelContractId mempool.slots bundle).Pairwise
    fun p q => q.2.priorityScore ≤ p.2.priorityScore
  opened : (mempool.place bundle).1 = .newSlot →
    ∃ slots opened removed, (mempool.place bundle).2.slots = slots ++ [opened] ∧
      opened.channelContractId = bundle.channelContractId ∧ opened.bundles = [removed] ∧
      ∀ b ∈ (mempool.place bundle).2.queued, b.channelContractId = bundle.channelContractId →
        removed.priorityScore ≤ b.priorityScore

/-- Slots of one channel each are enough: then the bundles of a channel are
those in its slots. -/
theorem respectsPriority (h : ∀ slot ∈ mempool.slots, slot.OneChannel) (bundle : SlotBundle) :
    mempool.RespectsPriority bundle where
  adds := by
    refine place_forall ⟨fun p hp _ => .inr (.inl ⟨p, hp, rfl⟩), fun removed hleft hw => ?_⟩
      fun slot hslot => .inl hslot
    refine .inr (.inr ⟨?_, removed, rfl⟩)
    rw [place_of_leftover (Prod.ext rfl hleft), if_pos hw]
  displaced p _ removed hleft hne := by
    obtain ⟨-, ⟨hlow, -, hlt, hperm⟩ | ⟨rfl, -⟩⟩ := Slot.add_returns hleft
    · exact ⟨hlt, Slot.replaceable_mem hlow, hperm⟩
    · exact absurd rfl hne
  carried := offers_pairwise _ _ _
  opened hopen := by
    have hslots : ∀ slot ∈ (mempool.place bundle).2.slots, slot.OneChannel :=
      place_forall (placeKeeps_oneChannel h) h
    rcases ho : offer bundle.channelContractId mempool.slots bundle with ⟨slots, _ | removed⟩
    · simp [place_of_taken ho] at hopen
    · rw [place_of_leftover ho] at hopen hslots ⊢
      split at hopen
      · rename_i hw
        rw [if_pos hw] at hslots ⊢
        refine ⟨slots, _, removed, rfl, rfl, Slot.push_new_bundles _ _ _, fun b hb hch => ?_⟩
        obtain ⟨-, -, hbelow⟩ := offer_returns bundle.channelContractId mempool.slots bundle
          (by rw [ho])
        obtain ⟨slot, hslot, hmem⟩ := List.mem_flatMap.mp hb
        have hown := hslots slot hslot b hmem
        rcases List.mem_append.mp hslot with hslot | hslot
        · exact hbelow slot (by rwa [ho]) (hown.symm.trans hch) b hmem
        · obtain rfl := List.mem_singleton.mp hslot
          rw [Slot.push_new_bundles, List.mem_singleton] at hmem
          rw [hmem]
      · simp at hopen

end Mempool

/-! ## Runs -/

/-- **The cascade respects priority**, for every bundle in every state that a
process reaches from an empty mempool, and at every placement it makes. -/
theorem cascade_respects_priority (cfg : Config) (fuel : Nat) (allowed : State → Call → Bool)
    (s : State) (hs : s.memory.mempool = .new cfg.slotCapacity) (c : ProviderPool)
    (h : (process cfg fuel allowed).Run Machine.Free ⟨s, []⟩ c) :
    (∀ bundle, c.state.memory.mempool.RespectsPriority bundle) ∧
    ∀ ch : ProviderChoice, ∀ p ∈ ch.ops host c, ∀ bundle, p.2 = .place bundle →
      p.1.memory.mempool.RespectsPriority bundle := by
  have h0 : s.OneChannel := by
    rw [State.OneChannel, hs]
    simp [Mempool.new]
  have hone : c.state.OneChannel := State.OneChannel.run h h0
  refine ⟨Mempool.respectsPriority hone, fun ch p hp bundle _ => ?_⟩
  have hops : p.1.OneChannel :=
    ch.ops_keep (P := State.OneChannel) (fun _ o hs => State.OneChannel.runOp hs o) hone p hp
  exact Mempool.respectsPriority hops bundle

/-- A bundle of weight 10 is displaced by one of weight 9 into a new slot. -/
theorem cascade_respects_priority_small :
    ∃ c : ProviderPool,
      (c.state.memory.mempool.place (Small.slotBundle "urgent" 9 2 "GPP")).1 = .newSlot ∧
      c.state.memory.mempool.RespectsPriority (Small.slotBundle "urgent" 9 2 "GPP") := by
  obtain ⟨c, hr, hp⟩ := Machine.exists_run_of_replay
    (M := process Small.config 1 fun _ _ => true) (G := Machine.Free) (c := ⟨Small.state, []⟩)
    (Small.adds [Small.slotBundle "slow" 10 1 "GPP"])
    (fun s => (s.memory.mempool.place (Small.slotBundle "urgent" 9 2 "GPP")).1 == .newSlot)
    (by decide +kernel)
  refine ⟨c, by simpa using hp, ?_⟩
  exact (cascade_respects_priority Small.config 1 (fun _ _ => true) _ rfl c hr).1 _

end ProviderPlatform
