import ProviderPlatform.Mempool.Cascade
import Mathlib.Data.List.Perm.Subperm

/-! # What the mempool holds

Which bundles are queued after each operation on the slots, as a list up to
order: placing adds the bundle or leaves one out, everything else only takes
away. -/
namespace ProviderPlatform
open Async

namespace Slot
variable {slot : Slot} {bundle : SlotBundle}

/-- An addition keeps every bundle: in the slot, or left over. -/
theorem add_perm (slot : Slot) (bundle : SlotBundle) :
    ((slot.add bundle).1.bundles ++ (slot.add bundle).2.toList).Perm (bundle :: slot.bundles) := by
  unfold add
  split
  · rw [Option.toList_none, List.append_nil]
    exact slot.push_bundles_perm bundle
  · split
    · rename_i lowest hlow
      have hpush := (slot.drop lowest).push_bundles_perm bundle
      have herase : slot.bundles.Perm (lowest :: slot.bundles.erase lowest) :=
        List.perm_cons_erase (replaceable_mem hlow)
      refine (hpush.append_right _).trans (List.Perm.cons bundle ?_)
      exact (List.perm_append_singleton lowest _).trans herase.symm
    · exact List.perm_append_singleton bundle _

theorem removeWhere_sublist (p : SlotBundle → Bool) (slot : Slot) :
    (slot.removeWhere p).bundles.Sublist slot.bundles :=
  removeWhere_keeps (P := fun s => s.bundles.Sublist slot.bundles)
    (fun s id hs => (s.removeBundle_sublist id).trans hs) p (List.Sublist.refl _)

/-- A condition that bundles of the slot with one id satisfy alike. -/
def ById (p : SlotBundle → Bool) (slot : Slot) : Prop :=
  ∀ x ∈ slot.bundles, ∀ y ∈ slot.bundles, x.bundleId = y.bundleId → p x = p y

theorem byId_of_nodup (hnodup : (slot.bundles.map (·.bundleId)).Nodup) (p : SlotBundle → Bool) :
    slot.ById p := fun _ hx _ hy he => congrArg p (List.inj_on_of_nodup_map hnodup hx hy he)

/-- The slot without the bundles that satisfy a condition. -/
def without (p : SlotBundle → Bool) (slot : Slot) : Slot :=
  { slot with
    bundles := slot.bundles.filter fun b => !p b
    currentWeight := slot.currentWeight - ((slot.bundles.filter p).map (·.weight)).sum }

/-- The first bundle that satisfies the condition is the first with its id. -/
theorem removeBundle_split {p : SlotBundle → Bool} (h : slot.ById p) {front back : List SlotBundle}
    {b : SlotBundle} (hsplit : slot.bundles = front ++ b :: back) (hfront : ∀ x ∈ front, ¬p x)
    (hb : p b) : (slot.removeBundle b.bundleId).1 =
      { slot with bundles := front ++ back, currentWeight := slot.currentWeight - b.weight } := by
  have hmem : b ∈ slot.bundles := by simp [hsplit]
  have hother : ∀ x ∈ front, ¬(x.bundleId == b.bundleId) = true := fun x hx he => by
    have hin : x ∈ slot.bundles := by simp [hsplit, hx]
    exact hfront x hx ((h x hin b hmem (eq_of_beq he)).trans hb)
  have hnone : front.find? (·.bundleId == b.bundleId) = none := List.find?_eq_none.mpr hother
  have hfind : slot.bundles.find? (·.bundleId == b.bundleId) = some b := by
    simp [hsplit, List.find?_append, hnone]
  have herase : slot.bundles.eraseP (·.bundleId == b.bundleId) = front ++ back := by
    rw [hsplit, List.eraseP_append_right _ hother, List.eraseP_cons_of_pos (by simp)]
  rw [removeBundle, hfind]
  simp only [herase]

/-- One after the other, bundles are taken out by their ids. -/
theorem foldl_removeBundle {p : SlotBundle → Bool} : ∀ {removed : List SlotBundle} {slot : Slot},
    slot.ById p → slot.bundles.filter p = removed →
    removed.foldl (fun s b => (s.removeBundle b.bundleId).1) slot = slot.without p
  | [], slot, _, hremoved => by
    have hall : slot.bundles.filter (fun b => !p b) = slot.bundles := by
      refine List.filter_eq_self.mpr fun b hb => ?_
      simpa using List.filter_eq_nil_iff.mp hremoved b hb
    simp only [List.foldl_nil, without, hall, hremoved, List.map_nil, List.sum_nil, Nat.sub_zero]
  | b :: removed, slot, h, hremoved => by
    obtain ⟨front, back, hsplit, hfront, hb, hback⟩ := List.filter_eq_cons_iff.mp hremoved
    have hnone : front.filter p = [] := List.filter_eq_nil_iff.mpr hfront
    let rest : Slot :=
      { slot with bundles := front ++ back, currentWeight := slot.currentWeight - b.weight }
    have hsub : rest.bundles.Sublist slot.bundles := by
      rw [hsplit]
      exact (List.sublist_cons_self b back).append_left front
    have hrest : rest.ById p := fun x hx y hy => h x (hsub.subset hx) y (hsub.subset hy)
    have hkeep : rest.bundles.filter p = removed := by
      rw [List.filter_append, hnone, hback, List.nil_append]
    have hleft : slot.bundles.filter (fun b => !p b) = rest.bundles.filter fun b => !p b := by
      simp [hsplit, rest, hb]
    rw [List.foldl_cons, removeBundle_split h hsplit hfront hb, foldl_removeBundle hrest hkeep]
    unfold without
    rw [hleft, hkeep, hremoved, List.map_cons, List.sum_cons, ← Nat.sub_sub]

theorem removeWhere_eq {p : SlotBundle → Bool} (h : slot.ById p) :
    slot.removeWhere p = slot.without p := foldl_removeBundle h rfl

/-- What a conditional removal leaves, where the ids are distinct. -/
theorem removeWhere_bundles (hnodup : (slot.bundles.map (·.bundleId)).Nodup)
    (p : SlotBundle → Bool) : (slot.removeWhere p).bundles = slot.bundles.filter fun b => !p b := by
  rw [removeWhere_eq (byId_of_nodup hnodup p)]
  rfl

end Slot

namespace Mempool
variable {mempool : Mempool} {bundle : SlotBundle}

/-- The cascade keeps every bundle: in a slot, or left over. -/
theorem offer_perm (channel : ContractId) : ∀ (slots : List Slot) (bundle : SlotBundle),
    ((offer channel slots bundle).1.flatMap (·.bundles) ++
      (offer channel slots bundle).2.toList).Perm (bundle :: slots.flatMap (·.bundles))
  | [], bundle => .refl _
  | slot :: slots, bundle => by
    by_cases hch : slot.channelContractId = channel
    · have hadd := slot.add_perm bundle
      cases hleft : (slot.add bundle).2 with
      | none =>
        rw [hleft, Option.toList_none, List.append_nil] at hadd
        rw [offer_cons_of_fit hch hleft]
        simpa using hadd.append_right (slots.flatMap (·.bundles))
      | some removed =>
        have ih := offer_perm channel slots removed
        rw [hleft, Option.toList_some] at hadd
        rw [offer_cons_of_leftover hch hleft]
        simp only [List.flatMap_cons, List.append_assoc]
        refine (ih.append_left _).trans ?_
        simpa using hadd.append_right (slots.flatMap (·.bundles))
    · have ih := offer_perm channel slots bundle
      rw [offer_cons_of_ne hch]
      simp only [List.flatMap_cons, List.append_assoc]
      exact (ih.append_left _).trans List.perm_middle

/-- A bundle that is placed joins the queue. -/
theorem place_perm (h : (mempool.place bundle).1 ≠ .slotFull) :
    (mempool.place bundle).2.queued.Perm (bundle :: mempool.queued) := by
  have hperm := offer_perm bundle.channelContractId mempool.slots bundle
  rcases ho : offer bundle.channelContractId mempool.slots bundle with ⟨slots, _ | removed⟩
  · rw [ho] at hperm
    rw [place_of_taken ho]
    simpa [queued] using hperm
  · rw [ho] at hperm
    rw [place_of_leftover ho] at h ⊢
    split at h
    · rename_i hw
      rw [if_pos hw]
      simpa [queued, Slot.push, Slot.new, sortByPriority] using hperm
    · exact absurd rfl h

/-- At most the bundle that is placed joins the queue. -/
theorem place_subperm (mempool : Mempool) (bundle : SlotBundle) :
    (mempool.place bundle).2.queued.Subperm (bundle :: mempool.queued) := by
  by_cases h : (mempool.place bundle).1 = .slotFull
  · have hperm := offer_perm bundle.channelContractId mempool.slots bundle
    rcases ho : offer bundle.channelContractId mempool.slots bundle with ⟨slots, _ | removed⟩
    · rw [place_of_taken ho] at h
      cases h
    · rw [ho] at hperm
      rw [place_of_leftover ho] at h ⊢
      split at h
      · cases h
      · rename_i hw
        rw [if_neg hw]
        exact (List.sublist_append_left _ _).subperm.trans hperm.subperm
  · exact (place_perm h).subperm

theorem sweep_sublist (p : SlotBundle → Bool) : ∀ slots : List Slot,
    ((sweep p slots).2.flatMap (·.bundles)).Sublist (slots.flatMap (·.bundles))
  | [] => List.Sublist.refl _
  | slot :: slots => by
    have ih := sweep_sublist p slots
    have hslot := slot.removeWhere_sublist p
    simp only [sweep, List.flatMap_cons]
    split
    · exact ih.trans (List.sublist_append_right _ _)
    · rw [List.flatMap_cons]
      exact hslot.append ih

theorem sweep_fst (p : SlotBundle → Bool) : ∀ slots : List Slot,
    (sweep p slots).1 = slots.reverse.flatMap fun slot => slot.bundles.filter p
  | [] => rfl
  | slot :: slots => by
    simp [sweep, sweep_fst p slots, Slot.getBundles]

/-- A sweep leaves the slots that still hold a bundle then. -/
theorem sweep_slots {p : SlotBundle → Bool} : ∀ {slots : List Slot},
    (∀ slot ∈ slots, slot.ById p) →
    (sweep p slots).2 = (slots.map (·.without p)).filter fun slot => !slot.isEmpty
  | [], _ => rfl
  | slot :: slots, h => by
    obtain ⟨hslot, hslots⟩ := List.forall_mem_cons.mp h
    simp only [sweep, sweep_slots hslots, Slot.removeWhere_eq hslot, List.map_cons, List.filter_cons]
    cases (slot.without p).isEmpty <;> rfl

theorem flatMap_held (slots : List Slot) :
    (slots.filter fun slot => !slot.isEmpty).flatMap (·.bundles) = slots.flatMap (·.bundles) := by
  induction slots with
  | nil => rfl
  | cons slot slots ih =>
    rw [List.filter_cons, List.flatMap_cons, ← ih]
    split
    · rfl
    · rename_i hempty
      have hnil : slot.bundles = [] := by simpa [Slot.isEmpty] using hempty
      rw [hnil, List.nil_append]

/-- What a sweep leaves in the queue. -/
theorem sweep_snd {p : SlotBundle → Bool} {slots : List Slot} (h : ∀ slot ∈ slots, slot.ById p) :
    (sweep p slots).2.flatMap (·.bundles) = (slots.flatMap (·.bundles)).filter fun b => !p b := by
  rw [sweep_slots h, flatMap_held, List.flatMap_map, List.filter_flatMap]
  rfl

/-- No id is queued twice. -/
theorem byId_of_nodup (h : mempool.queuedIds.Nodup) (p : SlotBundle → Bool) {slot : Slot}
    (hslot : slot ∈ mempool.slots) : slot.ById p := by
  rw [queuedIds, queued, List.map_flatMap, List.nodup_flatMap] at h
  exact Slot.byId_of_nodup (h.1 slot hslot) p

/-- The bundles of the slot that is pulled leave the queue. -/
theorem queued_of_removeFirstSlot {slot : Slot} (h : mempool.removeFirstSlot.1 = some slot) :
    mempool.queued = slot.bundles ++ mempool.removeFirstSlot.2.queued := by
  unfold removeFirstSlot at h ⊢
  split at h
  · cases h
  · rename_i hslots
    cases h
    simp [queued, hslots]

end Mempool

/-- Every operation but a placement leaves the queue or takes from it. -/
theorem runOp_queued {o : Op} (ho : ∀ bundle, o ≠ .place bundle) (s : State) :
    (runOp o s).2.memory.mempool.queued.Sublist s.memory.mempool.queued := by
  cases o with
  | place bundle => exact absurd rfl (ho bundle)
  | takeExpired => exact Mempool.sweep_sublist _ _
  | purgeBundles ids =>
    simp only [runOp, State.withMempool_mempool, Mempool.purgeBundles]
    split
    · exact List.Sublist.refl _
    · exact Mempool.sweep_sublist _ _
  | removeFirstSlot =>
    simp only [runOp, State.withMempool_mempool]
    cases hpull : s.memory.mempool.removeFirstSlot.1 with
    | none =>
      unfold Mempool.removeFirstSlot at hpull ⊢
      split at hpull
      · exact List.Sublist.refl _
      · cases hpull
    | some slot =>
      rw [Mempool.queued_of_removeFirstSlot hpull]
      exact List.sublist_append_right _ _
  | _ => exact List.Sublist.refl _

end ProviderPlatform
