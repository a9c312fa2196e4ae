import ProviderPlatform.Mempool.Cascade
import Mathlib.Algebra.Order.BigOperators.Group.List
import Mathlib.Algebra.Order.Ring.Nat

/-! # Slot capacity

Every slot's `currentWeight` is the sum of the weights of its bundles. The
direct insertion checks the capacity; the replacement of an occupant does
not, so a slot stays within its capacity exactly when every replacement swaps
in a bundle that fits the room its occupant leaves. -/
namespace ProviderPlatform
open Async

namespace Slot

/-- The total weight of the bundles in the slot. -/
def totalWeight (slot : Slot) : Nat := (slot.bundles.map (·.weight)).sum

/-- The counter is the sum. -/
def Counted (slot : Slot) : Prop := slot.currentWeight = slot.totalWeight

/-- If the bundle replaces an occupant, it fits the room that one leaves. -/
def SwapFits (slot : Slot) (bundle : SlotBundle) : Prop :=
  slot.canFit bundle = false → ∀ lowest ∈ slot.replaceable bundle,
    slot.currentWeight - lowest.weight + bundle.weight ≤ slot.capacity

instance (slot : Slot) (bundle : SlotBundle) : Decidable (slot.SwapFits bundle) :=
  inferInstanceAs (Decidable (_ → ∀ lowest ∈ slot.replaceable bundle, _))

theorem totalWeight_of_perm {slot : Slot} {bundles : List SlotBundle}
    (h : slot.bundles.Perm bundles) : slot.totalWeight = (bundles.map (·.weight)).sum :=
  (h.map _).sum_nat

theorem counted_new (capacity : Nat) (channel : ContractId) : (new capacity channel).Counted := rfl

theorem push_counted {slot : Slot} (h : slot.Counted) (bundle : SlotBundle) :
    (slot.push bundle).Counted := by
  rw [Counted, totalWeight_of_perm (slot.push_bundles_perm bundle), List.map_cons, List.sum_cons,
    add_comm, ← totalWeight, ← h]
  rfl

theorem drop_counted {slot : Slot} {bundle : SlotBundle} (h : slot.Counted)
    (hmem : bundle ∈ slot.bundles) : (slot.drop bundle).Counted := by
  have hsum := slot.totalWeight_of_perm (List.perm_cons_erase hmem)
  rw [List.map_cons, List.sum_cons] at hsum
  show slot.currentWeight - bundle.weight = ((slot.bundles.erase bundle).map (·.weight)).sum
  rw [h, hsum, Nat.add_sub_cancel_left]

theorem removeBundle_counted {slot : Slot} (id : BundleId) (h : slot.Counted) :
    (slot.removeBundle id).1.Counted := by
  unfold removeBundle
  split
  · rename_i b hb
    have hsum := slot.totalWeight_of_perm (find?_perm_cons_eraseP hb)
    rw [List.map_cons, List.sum_cons] at hsum
    show slot.currentWeight - b.weight = _
    rw [h, hsum, Nat.add_sub_cancel_left]
    rfl
  · exact h

theorem removeFirst_counted {slot : Slot} (h : slot.Counted) : (slot.removeFirst).1.Counted := by
  unfold removeFirst
  split
  · exact h
  · rename_i b bundles hb
    show slot.currentWeight - b.weight = (bundles.map (·.weight)).sum
    rw [h, totalWeight, hb, List.map_cons, List.sum_cons, Nat.add_sub_cancel_left]

theorem add_counted {slot : Slot} (h : slot.Counted) (bundle : SlotBundle) :
    (slot.add bundle).1.Counted := by
  unfold add
  split
  · exact push_counted h bundle
  · split
    · rename_i lowest hlow
      exact push_counted (drop_counted h (replaceable_mem hlow)) bundle
    · exact h

theorem add_capacity (slot : Slot) (bundle : SlotBundle) :
    (slot.add bundle).1.capacity = slot.capacity := by
  unfold add
  split
  · rfl
  · split <;> rfl

theorem removeBundle_capacity (slot : Slot) (id : BundleId) :
    (slot.removeBundle id).1.capacity = slot.capacity := by
  unfold removeBundle
  split <;> rfl

theorem removeFirst_capacity (slot : Slot) : slot.removeFirst.1.capacity = slot.capacity := by
  unfold removeFirst
  split <;> rfl

theorem totalWeight_le_of_sublist {slot slot' : Slot} (h : slot'.bundles.Sublist slot.bundles) :
    slot'.totalWeight ≤ slot.totalWeight :=
  (h.map _).sum_le_sum fun _ _ => Nat.zero_le _

/-- **One addition.** A slot within its capacity stays within it exactly when
the swap fits. -/
theorem add_within_iff {slot : Slot} {bundle : SlotBundle} (h : slot.Counted)
    (hle : slot.totalWeight ≤ slot.capacity) :
    (slot.add bundle).1.totalWeight ≤ slot.capacity ↔ slot.SwapFits bundle := by
  rw [← add_counted h bundle]
  cases hfit : slot.canFit bundle with
  | true =>
    rw [add, if_pos hfit]
    exact ⟨fun _ hno => absurd (hfit.symm.trans hno) nofun, fun _ => of_decide_eq_true hfit⟩
  | false =>
    rw [add, if_neg (by simp [hfit])]
    cases hlow : slot.replaceable bundle with
    | none => exact ⟨fun _ _ _ he => absurd (hlow.symm.trans he) nofun, fun _ => h ▸ hle⟩
    | some lowest =>
      refine ⟨fun hw _ _ he => ?_, fun hs => hs hfit lowest hlow⟩
      rw [← Option.some.inj (hlow.symm.trans he)]
      exact hw

/-! ## One slot on its own -/

/-- A call of a slot's methods. -/
inductive SlotCall
  | add (bundle : SlotBundle)
  | removeFirst
  | removeBundle (id : BundleId)

def call (slot : Slot) : SlotCall → Slot
  | .add bundle => (slot.add bundle).1
  | .removeFirst => slot.removeFirst.1
  | .removeBundle id => (slot.removeBundle id).1

def calls (slot : Slot) (cs : List SlotCall) : Slot := cs.foldl call slot

/-- Every addition of the sequence swaps in a bundle that fits. -/
def CallsFit : Slot → List SlotCall → Prop
  | _, [] => True
  | slot, c :: cs => (∀ bundle, c = .add bundle → slot.SwapFits bundle) ∧ (slot.call c).CallsFit cs

/-- Within the capacity from the first call to the last. -/
def StaysWithin (cap : Nat) : Slot → List SlotCall → Prop
  | slot, [] => slot.totalWeight ≤ cap
  | slot, c :: cs => slot.totalWeight ≤ cap ∧ (slot.call c).StaysWithin cap cs

/-- Counted and within the capacity. -/
structure Within (cap : Nat) (slot : Slot) : Prop where
  counted : slot.Counted
  capacity : slot.capacity = cap
  le : slot.totalWeight ≤ cap

section Within
variable {cap : Nat} {slot : Slot}

theorem Within.add_iff (h : slot.Within cap) (bundle : SlotBundle) :
    (slot.add bundle).1.Within cap ↔ slot.SwapFits bundle := by
  have hle : slot.totalWeight ≤ slot.capacity := h.capacity ▸ h.le
  have hiff : _ ↔ slot.SwapFits bundle := add_within_iff h.counted hle
  rw [h.capacity] at hiff
  refine ⟨fun hw => hiff.mp hw.le, fun hfit => ?_⟩
  exact ⟨add_counted h.counted bundle, (add_capacity slot bundle).trans h.capacity, hiff.mpr hfit⟩

theorem Within.removeBundle (id : BundleId) (h : slot.Within cap) :
    (slot.removeBundle id).1.Within cap :=
  ⟨removeBundle_counted id h.counted, (removeBundle_capacity slot id).trans h.capacity,
    (totalWeight_le_of_sublist (slot.removeBundle_sublist id)).trans h.le⟩

theorem Within.removeFirst (h : slot.Within cap) : slot.removeFirst.1.Within cap := by
  refine ⟨removeFirst_counted h.counted, (removeFirst_capacity slot).trans h.capacity, ?_⟩
  refine (totalWeight_le_of_sublist ?_).trans h.le
  unfold Slot.removeFirst
  split
  · exact List.Sublist.refl _
  · rename_i hb
    rw [hb]
    exact List.sublist_cons_self _ _

theorem Within.call_iff (h : slot.Within cap) (c : SlotCall) :
    (slot.call c).Within cap ↔ ∀ bundle, c = .add bundle → slot.SwapFits bundle := by
  cases c with
  | add bundle =>
    refine (h.add_iff bundle).trans ⟨fun hfit _ he => ?_, fun hfit => hfit bundle rfl⟩
    rwa [← SlotCall.add.inj he]
  | removeFirst => exact iff_of_true h.removeFirst fun _ he => nomatch he
  | removeBundle id => exact iff_of_true (h.removeBundle id) fun _ he => nomatch he

theorem call_counted (h : slot.Counted) (c : SlotCall) : (slot.call c).Counted := by
  cases c with
  | add bundle => exact add_counted h bundle
  | removeFirst => exact removeFirst_counted h
  | removeBundle id => exact removeBundle_counted id h

theorem call_capacity (slot : Slot) (c : SlotCall) : (slot.call c).capacity = slot.capacity := by
  cases c with
  | add bundle => exact add_capacity slot bundle
  | removeFirst => exact removeFirst_capacity slot
  | removeBundle id => exact removeBundle_capacity slot id

theorem StaysWithin.le {cs : List SlotCall} (h : slot.StaysWithin cap cs) :
    slot.totalWeight ≤ cap := by
  cases cs with
  | nil => exact h
  | cons c cs => exact h.1

/-- **A sequence of calls** stays within the capacity exactly when its swaps
fit. -/
theorem Within.staysWithin_iff {cs : List SlotCall} (h : slot.Within cap) :
    slot.StaysWithin cap cs ↔ slot.CallsFit cs := by
  induction cs generalizing slot with
  | nil => exact iff_of_true h.le trivial
  | cons c cs ih =>
    constructor
    · rintro ⟨-, hcs⟩
      have hw : (slot.call c).Within cap :=
        ⟨call_counted h.counted c, (call_capacity slot c).trans h.capacity, hcs.le⟩
      exact ⟨(h.call_iff c).mp hw, (ih hw).mp hcs⟩
    · rintro ⟨hc, hcs⟩
      exact ⟨h.le, (ih ((h.call_iff c).mpr hc)).mpr hcs⟩

end Within

theorem within_new (cap : Nat) (channel : ContractId) : (new cap channel).Within cap :=
  ⟨rfl, rfl, Nat.zero_le _⟩

end Slot

/-! ## The mempool -/

theorem Slot.Within.placeKeeps {mempool : Mempool} {bundle : SlotBundle}
    (h : ∀ offer ∈ Mempool.offers bundle.channelContractId mempool.slots bundle,
      offer.1.SwapFits offer.2) :
    Mempool.PlaceKeeps (Slot.Within mempool.capacity) mempool bundle where
  offers p hp hw := (hw.add_iff p.2).mpr (h p hp)
  opens removed _ hw := by
    have hcounted := Slot.push_counted
      (Slot.counted_new mempool.capacity bundle.channelContractId) removed
    refine ⟨hcounted, rfl, ?_⟩
    rw [← hcounted]
    exact (Nat.zero_add _).trans_le hw

/-- The state invariant: every slot is within the capacity. -/
structure MempoolWithin (cfg : Config) (s : State) : Prop where
  capacity : s.memory.mempool.capacity = cfg.slotCapacity
  slots : ∀ slot ∈ s.memory.mempool.slots, slot.Within cfg.slotCapacity

theorem mempoolWithin_new {cfg : Config} {s : State}
    (h : s.memory.mempool = .new cfg.slotCapacity) : MempoolWithin cfg s := by
  refine ⟨by rw [h]; rfl, ?_⟩
  rw [h]
  exact fun _ => nofun

theorem MempoolWithin.runOp {cfg : Config} {s : State} {o : Op} (h : MempoolWithin cfg s)
    (hfit : ∀ offer ∈ o.offers s, offer.1.SwapFits offer.2) :
    MempoolWithin cfg (runOp o s).2 := by
  refine ⟨(runOp_capacity o s).trans h.capacity,
    runOp_slots (fun _ id hs => hs.removeBundle id) (fun bundle ho => ?_) h.slots⟩
  rw [← h.capacity]
  subst ho
  exact Slot.Within.placeKeeps hfit

theorem MempoolWithin.run {cfg : Config} {fuel : Nat} {allowed : State → Call → Bool}
    {c c' : ProviderPool}
    (h : (process cfg fuel allowed).Run (OffersMeet Slot.SwapFits) c c')
    (h0 : MempoolWithin cfg c.state) : MempoolWithin cfg c'.state := by
  refine h.state_invariant (P := MempoolWithin cfg)
    (g := fun s (o : Op) => ∀ offer ∈ o.offers s, offer.1.SwapFits offer.2)
    (fun c ch hg => hg) (fun s o hs hfit => MempoolWithin.runOp hs hfit) (fun s q hs => ?_)
    (fun s d hs => ?_) (fun s _ => ?_) h0
  · cases q <;> exact ⟨hs.capacity, hs.slots⟩
  · show MempoolWithin cfg (drift d s)
    exact ⟨by rw [drift_mempool]; exact hs.capacity, by rw [drift_mempool]; exact hs.slots⟩
  · exact mempoolWithin_new rfl

/-- **Slots within their capacity.** A slot on its own stays within its capacity
through a sequence of calls exactly when every replacement swaps in a bundle
that fits the room its occupant leaves; and if that holds of every replacement
in a run, every slot of a mempool that starts empty stays within it. -/
theorem slots_within_capacity (cfg : Config) (fuel : Nat) (allowed : State → Call → Bool) :
    (∀ cap channel cs, (Slot.new cap channel).StaysWithin cap cs ↔
      (Slot.new cap channel).CallsFit cs) ∧
    ∀ (s : State) (c : ProviderPool), s.memory.mempool = .new cfg.slotCapacity →
      (process cfg fuel allowed).Run (OffersMeet Slot.SwapFits) ⟨s, []⟩ c →
      ∀ slot ∈ c.state.memory.mempool.slots, slot.totalWeight ≤ cfg.slotCapacity := by
  refine ⟨fun cap channel cs => (Slot.within_new cap channel).staysWithin_iff, ?_⟩
  intro s c hs hrun slot hslot
  exact ((MempoolWithin.run hrun (mempoolWithin_new hs)).slots slot hslot).le

namespace Small

/-- A bundle of weight 9 takes the place of one of weight 10. -/
def swapping : List SlotBundle := [slotBundle "slow" 10 1 "GPP", slotBundle "urgent" 9 2 "GPP"]

/-- A slot is filled by a bundle of weight 9 and one of weight 1; then a bundle
of weight 10 and the highest priority comes. -/
def overloading : List SlotBundle :=
  [slotBundle "heavy" 9 2 "GPP", slotBundle "light" 1 1 "GPP", slotBundle "urgent" 10 3 "GPP"]

end Small

/-- It takes the place of the light one: a slot of capacity 10 weighs 19. -/
theorem slots_exceed_capacity :
    (¬ ∀ cap channel cs, ((Slot.new cap channel).calls cs).totalWeight ≤ cap) ∧
    ¬ ∀ (cfg : Config) (fuel : Nat) (allowed : State → Call → Bool) (s : State) (c : ProviderPool),
      s.memory.mempool = .new cfg.slotCapacity →
      (process cfg fuel allowed).Run Machine.Free ⟨s, []⟩ c →
      ∀ slot ∈ c.state.memory.mempool.slots, slot.totalWeight ≤ cfg.slotCapacity := by
  constructor
  · intro h
    have hover : ¬ ((Slot.new 10 "channel").calls (Small.overloading.map .add)).totalWeight ≤ 10 := by
      decide +kernel
    exact hover (h 10 "channel" _)
  · intro h
    obtain ⟨c, hr, hp⟩ := Machine.exists_run_of_replay
      (M := process Small.config 1 fun _ _ => true) (G := Machine.Free) (c := ⟨Small.state, []⟩)
      (Small.adds Small.overloading)
      (fun s => s.memory.mempool.slots.any fun slot => 10 < slot.totalWeight) (by decide +kernel)
    obtain ⟨slot, hslot, hover⟩ := List.any_eq_true.mp hp
    have hle : slot.totalWeight ≤ 10 := h _ _ _ _ c rfl hr slot hslot
    exact absurd hle (Nat.not_le.mpr (of_decide_eq_true hover))

/-- The run with the swap that fits. -/
theorem slots_within_capacity_small :
    ∃ c : ProviderPool, c.state.memory.mempool.queuedIds = ["urgent", "slow"] ∧
      (process Small.config 1 fun _ _ => true).Run (OffersMeet Slot.SwapFits) ⟨Small.state, []⟩ c ∧
      ∀ slot ∈ c.state.memory.mempool.slots, slot.totalWeight ≤ 10 := by
  obtain ⟨c, hr, hp⟩ := Machine.exists_run_of_replay
    (M := process Small.config 1 fun _ _ => true) (G := OffersMeet Slot.SwapFits)
    (c := ⟨Small.state, []⟩) (Small.adds Small.swapping)
    (fun s => s.memory.mempool.queuedIds == ["urgent", "slow"]) (by decide +kernel)
  exact ⟨c, by simpa using hp, hr, (slots_within_capacity Small.config 1 fun _ _ => true).2 _ c rfl hr⟩

end ProviderPlatform
