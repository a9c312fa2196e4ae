import ProviderPlatform.Mempool.Bookkeeping
import ProviderPlatform.Mempool.Contents
import ProviderPlatform.Transition.Labelled
import Mathlib.Data.Multiset.Filter
import Mathlib.Algebra.Order.Group.Multiset

/-! # The mempool is a bag

What the mempool is for, without slots: a bag of bundles. A bundle is put in;
the bundles of one channel are taken out together, in the order of their
priority; the expired and the listed ones are taken out. The slots, the cascade
and the sweeps implement that. -/
namespace ProviderPlatform
open Transition

/-! ## The bag -/

inductive BagEvent
  | admitted (bundle : SlotBundle)
  | refused (bundle lost : SlotBundle)
  | pulled (bundles : List SlotBundle)
  | idle
  | expired (now : Time) (bundles : List SlotBundle)
  | purged (bundleIds : List BundleId) (bundles : List SlotBundle)
  | restarted
  deriving DecidableEq

/-- What an event does to the bag. Nothing but an overweight bundle is refused,
and nothing but the empty bag has nothing to pull. -/
inductive BagStep (capacity : Nat) : Multiset SlotBundle → BagEvent → Multiset SlotBundle → Prop
  | accept (bag : Multiset SlotBundle) (b : SlotBundle) :
      BagStep capacity bag (.admitted b) (b ::ₘ bag)
  | refuse {bag bag' : Multiset SlotBundle} {b lost : SlotBundle}
      (hkept : lost ::ₘ bag' = b ::ₘ bag) (hheavy : capacity < lost.weight) :
      BagStep capacity bag (.refused b lost) bag'
  | pull {bag : Multiset SlotBundle} {bundles : List SlotBundle} (hne : bundles ≠ [])
      (hchannel : ∃ channel, ∀ b ∈ bundles, b.channelContractId = channel)
      (hsorted : bundles.Pairwise fun a b => b.priorityScore ≤ a.priorityScore) :
      BagStep capacity (bundles + bag) (.pulled bundles) bag
  | idle : BagStep capacity 0 .idle 0
  | expire {bag : Multiset SlotBundle} {now : Time} {bundles : List SlotBundle}
      (hbundles : (bundles : Multiset SlotBundle) = bag.filter fun b => b.ttl ≤ now) :
      BagStep capacity bag (.expired now bundles) (bag.filter fun b => ¬b.ttl ≤ now)
  | purge {bag : Multiset SlotBundle} {ids : List BundleId} {bundles : List SlotBundle}
      (hbundles : (bundles : Multiset SlotBundle) = bag.filter fun b => b.bundleId ∈ ids) :
      BagStep capacity bag (.purged ids bundles) (bag.filter fun b => b.bundleId ∉ ids)
  | restart (bag : Multiset SlotBundle) : BagStep capacity bag .restarted 0

def bagOf (capacity : Nat) : Labelled BagEvent (Multiset SlotBundle) := ⟨BagStep capacity⟩

/-! ## What comes in goes out once -/

namespace BagEvent

/-- What an event puts into the bag, and what it takes out. -/
def incoming : BagEvent → Multiset SlotBundle
  | .admitted b | .refused b _ => {b}
  | _ => 0

def outgoing : BagEvent → Multiset SlotBundle
  | .refused _ lost => {lost}
  | .pulled bundles | .expired _ bundles | .purged _ bundles => bundles
  | _ => 0

/-- The events since the last restart. -/
def life : List BagEvent → List BagEvent :=
  List.foldl (fun es e => if e = .restarted then [] else es ++ [e]) []

theorem life_snoc (es : List BagEvent) (e : BagEvent) :
    life (es ++ [e]) = if e = .restarted then [] else life es ++ [e] := by
  simp [life, List.foldl_append]

end BagEvent

section Balance
variable {capacity : Nat} {bag bag' : Multiset SlotBundle} {e : BagEvent} {es : List BagEvent}

theorem BagStep.balance (h : BagStep capacity bag e bag') (he : e ≠ .restarted) :
    e.incoming + bag = e.outgoing + bag' := by
  cases h with
  | accept b => simp [BagEvent.incoming, BagEvent.outgoing]
  | refuse hkept hheavy => simpa [BagEvent.incoming, BagEvent.outgoing] using hkept.symm
  | pull hne hchannel hsorted => simp [BagEvent.incoming, BagEvent.outgoing]
  | idle => rfl
  | expire hbundles =>
    simp only [BagEvent.incoming, BagEvent.outgoing, hbundles, zero_add]
    exact (Multiset.filter_add_not _ bag).symm
  | purge hbundles =>
    simp only [BagEvent.incoming, BagEvent.outgoing, hbundles, zero_add]
    exact (Multiset.filter_add_not _ bag).symm
  | restart => exact absurd rfl he

/-- **The balance of a bag.** What was put in since the last restart is in the
bag or was taken out, and nothing else. -/
theorem bag_balance (h : (bagOf capacity).Traces 0 es bag) :
    ((BagEvent.life es).map BagEvent.incoming).sum =
      ((BagEvent.life es).map BagEvent.outgoing).sum + bag := by
  apply h.invariant (P := fun es bag => ((BagEvent.life es).map BagEvent.incoming).sum =
    ((BagEvent.life es).map BagEvent.outgoing).sum + bag)
  · rfl
  · intro es b e c ih hs
    rw [BagEvent.life_snoc]
    split
    · rename_i he
      subst he
      cases hs
      rfl
    · rename_i he
      have hbalance := BagStep.balance hs he
      simp only [List.map_append, List.sum_append, List.map_singleton, List.sum_singleton]
      calc _ = ((BagEvent.life es).map BagEvent.outgoing).sum + (e.incoming + b) := by
              rw [ih, add_assoc, add_comm b]
        _ = _ := by rw [hbalance, add_assoc]

end Balance

/-! ## The slots implement the bag -/

namespace Mempool
variable {mempool : Mempool} {bundle : SlotBundle}

/-- The bundles of all slots. -/
def bag (mempool : Mempool) : Multiset SlotBundle := mempool.queued

/-- If no slot takes what is left over, that is overweight and it is lost. -/
theorem place_refused (h : (mempool.place bundle).1 = .slotFull) :
    ∃ lost, (offer bundle.channelContractId mempool.slots bundle).2 = some lost ∧
      mempool.capacity < lost.weight ∧
      lost ::ₘ (mempool.place bundle).2.bag = bundle ::ₘ mempool.bag := by
  have hperm := offer_perm bundle.channelContractId mempool.slots bundle
  rcases ho : offer bundle.channelContractId mempool.slots bundle with ⟨slots, _ | lost⟩
  · rw [place_of_taken ho] at h
    cases h
  · rw [ho] at hperm
    rw [place_of_leftover ho] at h ⊢
    split at h
    · cases h
    · rename_i hheavy
      rw [if_neg hheavy]
      refine ⟨lost, rfl, Nat.lt_of_not_le hheavy, ?_⟩
      exact Multiset.coe_eq_coe.mpr ((List.perm_append_singleton lost _).symm.trans hperm)

/-- What a sweep takes out and what it leaves. -/
theorem sweep_bag (mempool : Mempool) {p : SlotBundle → Bool}
    (h : ∀ slot ∈ mempool.slots, slot.ById p) :
    ((sweep p mempool.slots).1 : Multiset SlotBundle) = mempool.bag.filter (p ·) ∧
      (({ mempool with slots := (sweep p mempool.slots).2 } : Mempool).bag) =
        mempool.bag.filter (¬p ·) := by
  constructor
  · rw [sweep_fst, bag, Multiset.filter_coe, queued, List.filter_flatMap]
    apply Multiset.coe_eq_coe.mpr
    simpa using (List.reverse_perm mempool.slots).flatMap_right _
  · rw [bag, queued, sweep_snd h, bag, Multiset.filter_coe]
    simp [queued]

end Mempool

/-! ## The operations -/

/-- What an operation shows of the bag. -/
def State.bagEvents (s : State) : Op → List BagEvent
  | .place bundle =>
    [if (s.memory.mempool.place bundle).1 = .slotFull then
      .refused bundle ((Mempool.offer bundle.channelContractId s.memory.mempool.slots
        bundle).2.getD bundle)
    else .admitted bundle]
  | .takeExpired => [.expired s.clock (s.memory.mempool.takeExpired s.clock).1]
  | .purgeBundles bundleIds => [.purged bundleIds
      (Mempool.sweep (fun b => bundleIds.contains b.bundleId) s.memory.mempool.slots).1]
  | .removeFirstSlot =>
    [s.memory.mempool.removeFirstSlot.1.elim .idle fun slot => .pulled slot.bundles]
  | _ => []

/-- What every operation keeps of the slots. -/
structure State.Shelved (capacity : Nat) (s : State) : Prop where
  booked : s.Booked
  oneChannel : s.OneChannel
  capacity : s.memory.mempool.capacity = capacity

namespace State
variable {capacity : Nat} {s : State}

theorem Shelved.runOp (h : s.Shelved capacity) (o : Op) : (runOp o s).2.Shelved capacity :=
  ⟨h.booked.runOp o, h.oneChannel.runOp o, (runOp_capacity o s).trans h.capacity⟩

theorem Shelved.place (h : s.Shelved capacity) (bundle : SlotBundle) :
    (bagOf capacity).Traces s.memory.mempool.bag (s.bagEvents (.place bundle))
      (s.memory.mempool.place bundle).2.bag := by
  apply Labelled.Traces.single
  split
  · rename_i hfull
    obtain ⟨lost, hlost, hheavy, hkept⟩ := Mempool.place_refused hfull
    rw [hlost]
    exact .refuse hkept (h.capacity ▸ hheavy)
  · rename_i hfull
    have hbag : (s.memory.mempool.place bundle).2.bag = bundle ::ₘ s.memory.mempool.bag :=
      Multiset.coe_eq_coe.mpr (Mempool.place_perm hfull)
    rw [hbag]
    exact .accept _ bundle

theorem Shelved.pull (h : s.Shelved capacity) :
    (bagOf capacity).Traces s.memory.mempool.bag (s.bagEvents .removeFirstSlot)
      s.memory.mempool.removeFirstSlot.2.bag := by
  apply Labelled.Traces.single
  cases hpull : s.memory.mempool.removeFirstSlot.1 with
  | none =>
    unfold Mempool.removeFirstSlot at hpull ⊢
    split at hpull
    · rename_i hslots
      have hempty : s.memory.mempool.bag = 0 := by simp [Mempool.bag, Mempool.queued, hslots]
      rw [hempty]
      exact .idle
    · cases hpull
  | some slot =>
    have hmem := Mempool.removeFirstSlot_mem hpull
    rw [Mempool.bag, Mempool.queued_of_removeFirstSlot hpull, ← Multiset.coe_add]
    exact .pull (h.booked slot hmem).nonempty ⟨_, h.oneChannel slot hmem⟩ (h.booked slot hmem).sorted

theorem bagged_takeExpired (h : s.memory.mempool.queuedIds.Nodup) :
    (bagOf capacity).Traces s.memory.mempool.bag (s.bagEvents .takeExpired)
      (s.memory.mempool.takeExpired s.clock).2.bag := by
  obtain ⟨htaken, hleft⟩ := Mempool.sweep_bag s.memory.mempool
    (p := isBundleExpired s.clock) fun slot hslot => Mempool.byId_of_nodup h _ hslot
  apply Labelled.Traces.single
  rw [Mempool.takeExpired, hleft]
  have hexpired (b : SlotBundle) : isBundleExpired s.clock b = true ↔ b.ttl ≤ s.clock := by
    simp [isBundleExpired]
  simp only [hexpired] at htaken ⊢
  exact .expire htaken

theorem bagged_purgeBundles (s : State) (ids : List BundleId) :
    (bagOf capacity).Traces s.memory.mempool.bag (s.bagEvents (.purgeBundles ids))
      (s.memory.mempool.purgeBundles ids).2.bag := by
  obtain ⟨htaken, hleft⟩ := Mempool.sweep_bag s.memory.mempool
    (p := fun b => ids.contains b.bundleId)
    fun slot _ x _ y _ he => by simp only [he]
  have hbag : (s.memory.mempool.purgeBundles ids).2.bag =
      s.memory.mempool.bag.filter (fun b => b.bundleId ∉ ids) := by
    unfold Mempool.purgeBundles
    split
    · rename_i hempty
      rw [List.isEmpty_iff.mp hempty]
      simp
    · simpa using hleft
  apply Labelled.Traces.single
  rw [hbag]
  exact .purge (by simpa using htaken)

end State
end ProviderPlatform
