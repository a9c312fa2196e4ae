import ProviderPlatform.Frame

/-! # The displacement cascade

What `addBundle` does to the slots, slot by slot: which slots the bundle, or
an occupant it displaced, is offered to, and what a slot that takes one keeps
beside it. A property of slots survives every operation of the mempool when
it survives the additions of the cascade and removals. -/
namespace ProviderPlatform
open Async

namespace Slot

/-- What stays beside a bundle that the slot takes in; `none` if the slot does
not take it. -/
def companions (slot : Slot) (bundle : SlotBundle) : Option (List SlotBundle) :=
  if slot.canFit bundle then some slot.bundles
  else (slot.replaceable bundle).map fun lowest => slot.bundles.erase lowest

theorem findLowestPriorityBundle_mem {bundles : List SlotBundle} {lowest : SlotBundle}
    (h : findLowestPriorityBundle bundles = some lowest) : lowest ∈ bundles := by
  cases bundles with
  | nil => cases h
  | cons b bundles =>
    simp only [findLowestPriorityBundle, Option.some.injEq] at h
    have key (l : List SlotBundle) (init : SlotBundle) :
        l.foldl (fun lowest current =>
          if current.priorityScore < lowest.priorityScore then current else lowest) init = init ∨
        l.foldl (fun lowest current =>
          if current.priorityScore < lowest.priorityScore then current else lowest) init ∈ l := by
      induction l generalizing init with
      | nil => exact .inl rfl
      | cons x l ih =>
        simp only [List.foldl_cons, List.mem_cons]
        rcases ih (if x.priorityScore < init.priorityScore then x else init) with h | h
        · rw [h]
          split
          · exact .inr (.inl rfl)
          · exact .inl rfl
        · exact .inr (.inr h)
    rw [← h]
    exact List.mem_cons.mpr (key bundles b)

theorem replaceable_mem {slot : Slot} {bundle lowest : SlotBundle}
    (h : slot.replaceable bundle = some lowest) : lowest ∈ slot.bundles :=
  findLowestPriorityBundle_mem (Option.filter_eq_some_iff.mp h).1

theorem sortByPriority_perm (bundles : List SlotBundle) :
    (sortByPriority bundles).Perm bundles := List.perm_insertionSort _ _

theorem push_bundles_perm (slot : Slot) (bundle : SlotBundle) :
    (slot.push bundle).bundles.Perm (bundle :: slot.bundles) :=
  (sortByPriority_perm _).trans (List.perm_append_singleton _ _)

/-- A slot that takes a bundle holds it beside its companions. -/
theorem add_bundles_perm {slot : Slot} {bundle : SlotBundle} {stay : List SlotBundle}
    (h : slot.companions bundle = some stay) :
    (slot.add bundle).1.bundles.Perm (bundle :: stay) := by
  unfold companions at h
  unfold add
  split at h
  · rename_i hfit
    cases h
    rw [if_pos hfit]
    exact slot.push_bundles_perm bundle
  · rename_i hfit
    obtain ⟨lowest, hlow, rfl⟩ := Option.map_eq_some_iff.mp h
    rw [if_neg hfit, hlow]
    exact (slot.drop lowest).push_bundles_perm bundle

theorem add_of_companions_none {slot : Slot} {bundle : SlotBundle}
    (h : slot.companions bundle = none) : slot.add bundle = (slot, some bundle) := by
  unfold companions at h
  unfold add
  split at h
  · cases h
  · rename_i hfit
    rw [if_neg hfit, Option.map_eq_none_iff.mp h]

theorem companions_subset {slot : Slot} {bundle : SlotBundle} {stay : List SlotBundle}
    (h : slot.companions bundle = some stay) : stay ⊆ slot.bundles := by
  unfold companions at h
  split at h
  · cases h
    exact List.Subset.refl _
  · obtain ⟨lowest, -, rfl⟩ := Option.map_eq_some_iff.mp h
    exact List.erase_subset

/-- What is left over is the bundle itself or an occupant. -/
theorem add_leftover {slot : Slot} {bundle removed : SlotBundle}
    (h : (slot.add bundle).2 = some removed) : removed = bundle ∨ removed ∈ slot.bundles := by
  unfold add at h
  split at h
  · cases h
  · split at h
    · rename_i lowest hlow
      cases h
      exact .inr (replaceable_mem hlow)
    · cases h
      exact .inl rfl

theorem add_channel (slot : Slot) (bundle : SlotBundle) :
    (slot.add bundle).1.channelContractId = slot.channelContractId := by
  unfold add
  split
  · rfl
  · split <;> rfl

theorem add_new {capacity : Nat} {channel : ContractId} {bundle : SlotBundle} :
    (new capacity channel).add bundle =
      if bundle.weight ≤ capacity then ((new capacity channel).push bundle, none)
      else (new capacity channel, some bundle) := by
  have hfit : (new capacity channel).canFit bundle = decide (bundle.weight ≤ capacity) := by
    simp only [canFit, new, Nat.zero_add]
  unfold add
  rw [hfit]
  simp only [decide_eq_true_eq]
  split
  · rfl
  · rfl

/-! ## Removals -/

theorem find?_perm_cons_eraseP {p : SlotBundle → Bool} {bundles : List SlotBundle}
    {b : SlotBundle} (h : bundles.find? p = some b) : bundles.Perm (b :: bundles.eraseP p) := by
  induction bundles with
  | nil => cases h
  | cons x bundles ih =>
    by_cases hx : p x = true
    · rw [List.find?_cons_of_pos hx] at h
      cases h
      rw [List.eraseP_cons_of_pos hx]
    · rw [List.find?_cons_of_neg hx] at h
      rw [List.eraseP_cons_of_neg hx]
      exact ((ih h).cons x).trans (List.Perm.swap b x _)

theorem removeBundle_sublist (slot : Slot) (id : BundleId) :
    (slot.removeBundle id).1.bundles.Sublist slot.bundles := by
  unfold removeBundle
  split
  · exact List.eraseP_sublist
  · exact List.Sublist.refl _

/-- What a removal by id keeps, a conditional removal keeps. -/
theorem removeWhere_keeps {P : Slot → Prop}
    (hrem : ∀ slot id, P slot → P (slot.removeBundle id).1) (p : SlotBundle → Bool)
    {slot : Slot} (h : P slot) : P (slot.removeWhere p) := by
  unfold removeWhere
  generalize slot.getBundles.filter p = removed
  induction removed generalizing slot with
  | nil => exact h
  | cons b removed ih => exact ih (hrem slot b.bundleId h)

end Slot

namespace Mempool

/-! ## Offers -/

/-- Every slot a bundle is offered to, each with the bundle that is carried to
it: the new one, or an occupant displaced by an earlier offer. -/
def offers (channel : ContractId) : List Slot → SlotBundle → List (Slot × SlotBundle)
  | [], _ => []
  | slot :: slots, bundle =>
    if slot.channelContractId ≠ channel then offers channel slots bundle
    else (slot, bundle) :: match (slot.add bundle).2 with
      | none => []
      | some removed => offers channel slots removed

section Offer
variable {channel : ContractId} {slots : List Slot} {bundle : SlotBundle}

theorem offer_cons_of_ne {slot : Slot} (h : slot.channelContractId ≠ channel) :
    offer channel (slot :: slots) bundle =
      (slot :: (offer channel slots bundle).1, (offer channel slots bundle).2) := by
  rw [offer, if_pos h]

theorem offer_cons_of_fit {slot : Slot} (h : slot.channelContractId = channel)
    (hadd : (slot.add bundle).2 = none) :
    offer channel (slot :: slots) bundle = ((slot.add bundle).1 :: slots, none) := by
  rw [offer, if_neg (by simpa using h)]
  revert hadd
  rcases slot.add bundle with ⟨slot', _ | removed⟩
  · exact fun _ => rfl
  · nofun

theorem offer_cons_of_leftover {slot : Slot} {removed : SlotBundle}
    (h : slot.channelContractId = channel) (hadd : (slot.add bundle).2 = some removed) :
    offer channel (slot :: slots) bundle =
      ((slot.add bundle).1 :: (offer channel slots removed).1, (offer channel slots removed).2) := by
  rw [offer, if_neg (by simpa using h)]
  revert hadd
  rcases slot.add bundle with ⟨slot', _ | r⟩
  · nofun
  · rintro ⟨⟩
    rfl

/-- **The cascade, slot by slot.** A property of slots survives the cascade
when it survives the addition of every carried bundle to the slot it is
offered to. -/
theorem offer_forall {P : Slot → Prop} (hslots : ∀ slot ∈ slots, P slot)
    (hadd : ∀ p ∈ offers channel slots bundle, P p.1 → P (p.1.add p.2).1) :
    ∀ slot ∈ (offer channel slots bundle).1, P slot := by
  induction slots generalizing bundle with
  | nil => simp [offer]
  | cons slot slots ih =>
    obtain ⟨hslot, hslots⟩ := List.forall_mem_cons.mp hslots
    by_cases hch : slot.channelContractId = channel
    · rw [offers, if_neg (by simpa using hch)] at hadd
      obtain ⟨hhead, htail⟩ := List.forall_mem_cons.mp hadd
      cases hleft : (slot.add bundle).2 with
      | none =>
        rw [offer_cons_of_fit hch hleft]
        exact List.forall_mem_cons.mpr ⟨hhead hslot, hslots⟩
      | some removed =>
        rw [offer_cons_of_leftover hch hleft]
        rw [hleft] at htail
        exact List.forall_mem_cons.mpr ⟨hhead hslot, ih hslots htail⟩
    · rw [offers, if_pos hch] at hadd
      rw [offer_cons_of_ne hch]
      exact List.forall_mem_cons.mpr ⟨hslot, ih hslots hadd⟩

/-- What holds of the new bundle and of the occupants of its channel holds of
whatever is carried, and an offer is to a slot of the channel. -/
theorem offers_forall {Q : SlotBundle → Prop} (hb : Q bundle)
    (hslots : ∀ slot ∈ slots, slot.channelContractId = channel → ∀ b ∈ slot.bundles, Q b) :
    ∀ p ∈ offers channel slots bundle,
      p.1 ∈ slots ∧ p.1.channelContractId = channel ∧ Q p.2 := by
  induction slots generalizing bundle with
  | nil => simp [offers]
  | cons slot slots ih =>
    obtain ⟨hslot, hslots⟩ := List.forall_mem_cons.mp hslots
    have hrest (carried : SlotBundle) (hc : Q carried) :
        ∀ p ∈ offers channel slots carried,
          p.1 ∈ slot :: slots ∧ p.1.channelContractId = channel ∧ Q p.2 := fun p hp =>
      let ⟨hmem, hch, hq⟩ := ih hc hslots p hp
      ⟨List.mem_cons_of_mem _ hmem, hch, hq⟩
    by_cases hch : slot.channelContractId = channel
    · rw [offers, if_neg (by simpa using hch)]
      refine List.forall_mem_cons.mpr ⟨⟨List.mem_cons_self, hch, hb⟩, ?_⟩
      cases hleft : (slot.add bundle).2 with
      | none => simp
      | some removed =>
        refine hrest removed ?_
        rcases Slot.add_leftover hleft with rfl | hmem
        · exact hb
        · exact hslot hch removed hmem
    · rw [offers, if_pos hch]
      exact hrest bundle hb

theorem offer_leftover {Q : SlotBundle → Prop} (hb : Q bundle)
    (hslots : ∀ slot ∈ slots, slot.channelContractId = channel → ∀ b ∈ slot.bundles, Q b)
    {removed : SlotBundle} (h : (offer channel slots bundle).2 = some removed) : Q removed := by
  induction slots generalizing bundle with
  | nil =>
    cases h
    exact hb
  | cons slot slots ih =>
    obtain ⟨hslot, hslots⟩ := List.forall_mem_cons.mp hslots
    by_cases hch : slot.channelContractId = channel
    · cases hleft : (slot.add bundle).2 with
      | none =>
        rw [offer_cons_of_fit hch hleft] at h
        cases h
      | some r =>
        rw [offer_cons_of_leftover hch hleft] at h
        refine ih ?_ hslots h
        rcases Slot.add_leftover hleft with rfl | hmem
        · exact hb
        · exact hslot hch r hmem
    · rw [offer_cons_of_ne hch] at h
      exact ih hb hslots h

end Offer

/-! ## Operations of the mempool -/

/-- The additions `place` makes keep a property of slots: those of the cascade,
and the one that opens a new slot. -/
structure PlaceKeeps (P : Slot → Prop) (mempool : Mempool) (bundle : SlotBundle) : Prop where
  offers : ∀ p ∈ offers bundle.channelContractId mempool.slots bundle, P p.1 → P (p.1.add p.2).1
  opens : ∀ removed, (offer bundle.channelContractId mempool.slots bundle).2 = some removed →
    removed.weight ≤ mempool.capacity →
    P ((Slot.new mempool.capacity bundle.channelContractId).push removed)

section Place
variable {mempool : Mempool} {bundle : SlotBundle} {slots : List Slot}

theorem place_of_taken (h : offer bundle.channelContractId mempool.slots bundle = (slots, none)) :
    mempool.place bundle = (.existingSlot, { mempool with slots := slots }) := by
  simp only [place, h]

theorem place_of_leftover {removed : SlotBundle}
    (h : offer bundle.channelContractId mempool.slots bundle = (slots, some removed)) :
    mempool.place bundle =
      if removed.weight ≤ mempool.capacity then
        (.newSlot, { mempool with slots :=
          slots ++ [(Slot.new mempool.capacity bundle.channelContractId).push removed] })
      else (.slotFull, { mempool with slots := slots }) := by
  by_cases hw : removed.weight ≤ mempool.capacity
  · simp only [place, h, Slot.add_new, if_pos hw]
  · simp only [place, h, Slot.add_new, if_neg hw]

theorem place_forall {P : Slot → Prop} (h : PlaceKeeps P mempool bundle)
    (hslots : ∀ slot ∈ mempool.slots, P slot) :
    ∀ slot ∈ (mempool.place bundle).2.slots, P slot := by
  have hoffer := offer_forall hslots h.offers
  rcases ho : offer bundle.channelContractId mempool.slots bundle with ⟨slots, _ | removed⟩
  · rw [ho] at hoffer
    rw [place_of_taken ho]
    exact hoffer
  · rw [ho] at hoffer
    rw [place_of_leftover ho]
    split
    · rename_i hw
      refine List.forall_mem_append.mpr ⟨hoffer, List.forall_mem_singleton.mpr ?_⟩
      exact h.opens removed (by rw [ho]) hw
    · exact hoffer

theorem place_capacity (mempool : Mempool) (bundle : SlotBundle) :
    (mempool.place bundle).2.capacity = mempool.capacity := by
  rcases ho : offer bundle.channelContractId mempool.slots bundle with ⟨slots, _ | removed⟩
  · rw [place_of_taken ho]
  · rw [place_of_leftover ho]
    split <;> rfl

end Place

theorem sweep_forall {P : Slot → Prop} (hrem : ∀ slot id, P slot → P (slot.removeBundle id).1)
    (p : SlotBundle → Bool) {slots : List Slot} (h : ∀ slot ∈ slots, P slot) :
    ∀ slot ∈ (sweep p slots).2, P slot := by
  induction slots with
  | nil => simp [sweep]
  | cons slot slots ih =>
    obtain ⟨hslot, hslots⟩ := List.forall_mem_cons.mp h
    simp only [sweep]
    split
    · exact ih hslots
    · exact List.forall_mem_cons.mpr ⟨Slot.removeWhere_keeps hrem p hslot, ih hslots⟩

end Mempool

/-- The offers an operation makes. -/
def Op.offers (s : State) : Op → List (Slot × SlotBundle)
  | .place bundle => Mempool.offers bundle.channelContractId s.memory.mempool.slots bundle
  | _ => []

/-- Every offer an operation of the step makes satisfies `Q`. -/
def OffersMeet (Q : Slot → SlotBundle → Prop) (c : ProviderPool) (ch : ProviderChoice) : Prop :=
  ∀ p ∈ ch.ops host c, ∀ offer ∈ Op.offers p.1 p.2, Q offer.1 offer.2

instance (Q : Slot → SlotBundle → Prop) [∀ slot b, Decidable (Q slot b)] (c : ProviderPool)
    (ch : ProviderChoice) : Decidable (OffersMeet Q c ch) :=
  inferInstanceAs (Decidable (∀ p ∈ ch.ops host c, ∀ offer ∈ Op.offers p.1 p.2, Q offer.1 offer.2))

/-- **Slot invariants.** A property of slots that removals keep survives every
operation whose additions keep it. -/
theorem runOp_slots {P : Slot → Prop} (hrem : ∀ slot id, P slot → P (slot.removeBundle id).1)
    {s : State} {o : Op}
    (hplace : ∀ bundle, o = .place bundle → Mempool.PlaceKeeps P s.memory.mempool bundle)
    (h : ∀ slot ∈ s.memory.mempool.slots, P slot) :
    ∀ slot ∈ (runOp o s).2.memory.mempool.slots, P slot := by
  cases o with
  | place bundle => exact Mempool.place_forall (hplace bundle rfl) h
  | takeExpired => exact Mempool.sweep_forall hrem _ h
  | purgeBundles ids =>
    simp only [runOp, State.withMempool_mempool, Mempool.purgeBundles]
    split
    · exact h
    · exact Mempool.sweep_forall hrem _ h
  | removeFirstSlot =>
    simp only [runOp, State.withMempool_mempool, Mempool.removeFirstSlot]
    split
    · exact h
    · rename_i hslots
      rw [hslots] at h
      exact (List.forall_mem_cons.mp h).2
  | _ => exact h

theorem runOp_capacity (o : Op) (s : State) :
    (runOp o s).2.memory.mempool.capacity = s.memory.mempool.capacity := by
  cases o with
  | place bundle => exact Mempool.place_capacity _ _
  | purgeBundles ids =>
    simp only [runOp, State.withMempool_mempool, Mempool.purgeBundles]
    split <;> rfl
  | removeFirstSlot =>
    simp only [runOp, State.withMempool_mempool, Mempool.removeFirstSlot]
    split <;> rfl
  | _ => rfl

end ProviderPlatform
