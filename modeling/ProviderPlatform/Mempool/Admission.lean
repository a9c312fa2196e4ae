import ProviderPlatform.Async.Trace
import ProviderPlatform.Mempool.Capacity
import ProviderPlatform.Mempool.Priority

/-! # One call of addBundle

What a call does from its first step to its last, with no other task in
between: an expired bundle is marked, a bundle that finds no place is refused,
and a bundle that is placed is announced and activated. From that: an addition
loses nothing, and when exactly a refusal says that the bundle is too heavy. -/
namespace ProviderPlatform
open Async

section Steps
variable {g : Step platform State → Prop} {P A : State → Prop}

theorem emitInScope_guided (hemit : ∀ s scope payload, P s → P (runOp (.emit scope payload) s).2)
    (hpass : ∀ n s, P s → P (host.pass n s)) (payload : EventPayload) (pp : PublicKey) :
    Task.Guided host g P (emitInScope payload pp) (fun _ => P) P := by
  refine Task.Guided.bind (B := fun _ => P) ?_ fun scope => ?_
  · exact Task.Guided.call hpass (fun _ hs _ => hs) (fun _ _ hs _ => hs) fun _ hs _ => hs
  · cases scope with
    | none => exact .pure fun _ hs => hs
    | some scope => exact Task.Guided.op fun s hs _ => hemit s scope payload hs

/-- An emission only adds to the events. -/
theorem emitForPp_guided (hemit : ∀ s scope payload, P s → P (runOp (.emit scope payload) s).2)
    (hpass : ∀ n s, P s → P (host.pass n s)) (pp : PublicKey) (payload : EventPayload) :
    Task.Guided host g P (emitForPp pp payload) (fun _ => P) P := by
  unfold emitForPp
  split
  · exact .pure fun _ hs => hs
  · exact Task.Guided.recover (emitInScope_guided hemit hpass payload pp)
      (fun _ => .pure fun _ hs => hs) fun _ hs => hs

/-- Where there is no stop it comes to its end. -/
theorem emitForPp_lives (hemit : ∀ s scope payload, P s → P (runOp (.emit scope payload) s).2)
    (hpass : ∀ n s, P s → P (host.pass n s)) (hlives : ∀ s q, ¬ g (.stopped s q))
    (pp : PublicKey) (payload : EventPayload) :
    Task.Guided host g P (emitForPp pp payload) (fun _ => P) A := by
  unfold emitForPp
  split
  · exact .pure fun _ hs => hs
  · exact Task.Guided.recover_lives hlives (emitInScope_guided hemit hpass payload pp)
      fun _ => .pure fun _ hs => hs

end Steps

namespace Mempool
variable {cfg : Config} {bundle : SlotBundle} {s : State} {g : Step platform State → Prop}
  {A : State → Prop} {B : Unit → State → Prop}

/-- A call for a bundle within its TTL, by what `place` says. -/
theorem addBundle_guided (hlive : isBundleExpired s.clock bundle = false)
    (hfull : (s.memory.mempool.place bundle).1 = .slotFull →
      A (s.withMempool (s.memory.mempool.place bundle).2))
    (hplaced : (s.memory.mempool.place bundle).1 ≠ .slotFull → ∀ newSlot,
      Task.Guided host g (· = s.withMempool (s.memory.mempool.place bundle).2)
        (do
          emitForPp bundle.ppPublicKey (bundleAddedPayload bundle newSlot)
          activate bundle) B A) :
    Task.Guided host g (· = s) (addBundle cfg bundle) B A := by
  unfold addBundle
  refine Task.Guided.bind (B := fun now s' => s' = s ∧ now = s.clock) ?_ fun now => ?_
  · exact Task.Guided.op fun s' hs _ => ⟨hs, by rw [← hs]; rfl⟩
  refine Task.Guided.of_state fun s' hs => ?_
  obtain ⟨rfl, rfl⟩ := hs
  rw [if_neg (by simp [hlive])]
  refine Task.Guided.bind (B := fun placement t =>
    placement = (s'.memory.mempool.place bundle).1 ∧
      t = s'.withMempool (s'.memory.mempool.place bundle).2) ?_ fun placement => ?_
  · exact Task.Guided.op fun t ht _ => by rw [ht]; exact ⟨rfl, rfl⟩
  refine Task.Guided.of_state fun t ht => ?_
  obtain ⟨hplacement, rfl⟩ := ht
  cases placement with
  | slotFull => exact Task.Guided.fail fun t ht => ht ▸ hfull hplacement.symm
  | existingSlot => exact hplaced (by rw [← hplacement]; nofun) false
  | newSlot => exact hplaced (by rw [← hplacement]; nofun) true

/-- A bundle that is refused is refused before the first await. -/
theorem addBundle_full (hlive : isBundleExpired s.clock bundle = false)
    (hfull : (s.memory.mempool.place bundle).1 = .slotFull) (bs : List (Beat Err)) :
    (addBundle cfg bundle).eval host bs s =
      (some (.error (.slotFull bundle.weight cfg.slotCapacity)), bs,
        s.withMempool (s.memory.mempool.place bundle).2) := by
  have hnow : (run .now).eval host bs s = (some (.ok s.clock), bs, s) := rfl
  have hplace : (run (.place bundle)).eval host bs s =
      (some (.ok (s.memory.mempool.place bundle).1), bs,
        s.withMempool (s.memory.mempool.place bundle).2) := rfl
  rw [addBundle, Task.eval_bind_ok host hnow, if_neg (by simp [hlive]),
    Task.eval_bind_ok host hplace, hfull]
  rfl

end Mempool

/-! ## An addition loses nothing -/

/-- What a status update that the step serves reports. -/
def reported : Step platform State → Option Bool
  | .served s (.command (.updateStatusIfActive id newStatus activeStatuses)) =>
    ((Command.updateStatusIfActive id newStatus activeStatuses).run s.clock s.db).1.toOption
  | _ => none

/-- If the step serves a status update, the update finds the row active. -/
def ReportsActive (st : Step platform State) : Prop := reported st ≠ some false

instance (st : Step platform State) : Decidable (ReportsActive st) :=
  inferInstanceAs (Decidable (_ ≠ _))

namespace Mempool
variable {cfg : Config} {bundle : SlotBundle} {s : State}

/-- An activation that finds the row active leaves the queue as it is. -/
theorem activate_reportsActive (mempool : Mempool) :
    Task.Guided host ReportsActive (fun s => s.memory.mempool = mempool) (activate bundle)
      (fun _ s => s.memory.mempool = mempool) fun _ => True := by
  unfold activate
  refine Task.Guided.recover (E := fun _ => True) ?_ (fun _ => ?_) fun _ _ => trivial
  · refine Task.Guided.bind
      (B := fun updated s => updated = true ∧ s.memory.mempool = mempool) ?_ fun updated => ?_
    · refine Task.Guided.call (fun _ _ hs => hs) (fun s hs hg => ?_) (fun _ _ _ _ => trivial)
        fun _ _ _ => trivial
      have hans : some (!(s.db.setBundles s.clock
          (fun r => r.id == bundle.bundleId && r.isIn BundleStatus.active)
          { status := some .processing }).1.isEmpty) ≠ some false := hg
      exact ⟨by simpa using hans, hs⟩
    · refine Task.Guided.of_state fun s hs => ?_
      rw [if_pos hs.1]
      exact .pure fun _ ht => ht ▸ hs.2
  · refine Task.Guided.bind (B := fun _ _ => True) ?_ fun _ => .fail fun _ _ => trivial
    exact Task.Guided.op fun _ _ _ => trivial

end Mempool

namespace Mempool
variable {cfg : Config} {mempool : Mempool} {bundle : SlotBundle} {s : State}

/-- The slots of the other channels, in their order. -/
def others (mempool : Mempool) (channel : ContractId) : List Slot :=
  mempool.slots.filter fun slot => slot.channelContractId ≠ channel

/-- The cascade passes the slots of other channels by. -/
theorem offer_others (channel : ContractId) : ∀ (slots : List Slot) (bundle : SlotBundle),
    (offer channel slots bundle).1.filter (fun slot => slot.channelContractId ≠ channel) =
      slots.filter fun slot => slot.channelContractId ≠ channel
  | [], bundle => rfl
  | slot :: slots, bundle => by
    by_cases hch : slot.channelContractId = channel
    · have hadd : (slot.add bundle).1.channelContractId = channel := by
        rw [Slot.add_channel, hch]
      cases hleft : (slot.add bundle).2 with
      | none =>
        rw [offer_cons_of_fit hch hleft]
        simp [hch, hadd]
      | some removed =>
        have ih := offer_others channel slots removed
        rw [offer_cons_of_leftover hch hleft]
        simpa [hch, hadd] using ih
    · have ih := offer_others channel slots bundle
      rw [offer_cons_of_ne hch]
      simpa [hch] using ih

theorem place_others (mempool : Mempool) (bundle : SlotBundle) :
    (mempool.place bundle).2.others bundle.channelContractId =
      mempool.others bundle.channelContractId := by
  have hoffer := offer_others bundle.channelContractId mempool.slots bundle
  rcases ho : offer bundle.channelContractId mempool.slots bundle with ⟨slots, _ | removed⟩
  · rw [ho] at hoffer
    rw [place_of_taken ho]
    exact hoffer
  · rw [ho] at hoffer
    rw [place_of_leftover ho]
    split
    · simpa [others, Slot.push, Slot.new] using hoffer
    · exact hoffer

/-- A bundle that is placed is in a slot of its channel. -/
theorem place_holds (h : (mempool.place bundle).1 ≠ .slotFull) :
    ∃ slot ∈ (mempool.place bundle).2.slots,
      slot.channelContractId = bundle.channelContractId ∧ bundle ∈ slot.bundles := by
  have hsplit (m : Mempool) : ((m.slots.filter fun slot =>
      slot.channelContractId = bundle.channelContractId).flatMap (·.bundles) ++
        (m.others bundle.channelContractId).flatMap (·.bundles)).Perm m.queued := by
    have hperm := List.filter_append_perm
      (fun slot : Slot => decide (slot.channelContractId = bundle.channelContractId)) m.slots
    have hflat := hperm.flatMap_right (·.bundles)
    simpa [others, queued, List.flatMap_append] using hflat
  have hall := (hsplit (mempool.place bundle).2).trans (place_perm h)
  rw [place_others] at hall
  have hown := hall.trans ((hsplit mempool).symm.cons bundle)
  rw [← List.cons_append, List.perm_append_right_iff] at hown
  obtain ⟨slot, hslot, hmem⟩ := List.mem_flatMap.mp (hown.mem_iff.mpr List.mem_cons_self)
  obtain ⟨hslot, hchannel⟩ := List.mem_filter.mp hslot
  exact ⟨slot, hslot, by simpa using hchannel, hmem⟩

end Mempool

/-- **An addition loses and duplicates nothing.** From every state and under
every schedule: if the call for a bundle within its TTL returns, and its status
update reports the row active, then the queue holds what it held and the new
bundle, each unchanged, and the slots of other channels are as they were. -/
theorem addBundle_loses_nothing (cfg : Config) (bundle : SlotBundle) (bs : List (Beat Err))
    (s : State) (hlive : isBundleExpired s.clock bundle = false)
    (hactive : ∀ st ∈ (Mempool.addBundle cfg bundle).trace host bs s, ReportsActive st)
    (hret : ((Mempool.addBundle cfg bundle).eval host bs s).1 = some (.ok ())) :
    let s' := ((Mempool.addBundle cfg bundle).eval host bs s).2.2
    s'.memory.mempool.queued.Perm (bundle :: s.memory.mempool.queued) ∧
    s'.memory.mempool.others bundle.channelContractId =
      s.memory.mempool.others bundle.channelContractId := by
  have hguided : Task.Guided host ReportsActive (· = s) (Mempool.addBundle cfg bundle)
      (fun _ s' => (s.memory.mempool.place bundle).1 ≠ .slotFull ∧
        s'.memory.mempool = (s.memory.mempool.place bundle).2) fun _ => True := by
    refine Mempool.addBundle_guided hlive (fun _ => trivial) fun hplaced newSlot => ?_
    have hemit := emitForPp_guided (g := ReportsActive)
      (P := fun t => t.memory.mempool = (s.memory.mempool.place bundle).2)
      (fun _ _ _ ht => ht) (fun _ _ ht => ht) bundle.ppPublicKey
      (Mempool.bundleAddedPayload bundle newSlot)
    refine Task.Guided.bind (hemit.mono (fun t ht => ?_) (fun _ _ ht => ht) fun _ _ => trivial)
      fun _ => (Mempool.activate_reportsActive _).mono (fun _ ht => ht)
        (fun _ _ ht => ⟨hplaced, ht⟩) fun _ _ => trivial
    rw [ht, State.withMempool_mempool]
  obtain ⟨hplaced, hmempool⟩ := (hguided bs s hactive rfl).of_ok hret
  intro s'
  rw [show s'.memory.mempool = _ from hmempool]
  exact ⟨Mempool.place_perm hplaced, Mempool.place_others _ _⟩

namespace Small

/-- The row of a bundle as it is admitted. -/
def pendingRow (bundle : SlotBundle) : OperationsBundle :=
  NewOperationsBundle.row 0 ⟨bundle.bundleId, .pending, bundle.channelContractId, bundle.ttl,
    bundle.operationsMLXDR, bundle.fee, bundle.ppPublicKey, "GSUB", bundle.createdAt⟩

/-- Some bundles are queued, and some have a PENDING row. -/
def holding (queued stored : List SlotBundle) : State :=
  let mempool := queued.foldl (fun mempool bundle => (mempool.place bundle).2) (.new 10)
  let rows := stored.foldl (fun rows bundle => rows.upsert (pendingRow bundle)) .empty
  { state.withMempool mempool with db := { database with operationsBundles := rows } }

end Small

/-- The second bundle takes the place of the first, which moves to a new slot. -/
theorem addBundle_loses_nothing_small :
    let s := Small.holding [Small.slotBundle "slow" 10 1 "GPP"] Small.swapping
    let urgent := Small.slotBundle "urgent" 9 2 "GPP"
    let s' := ((Mempool.addBundle Small.config urgent).eval host [] s).2.2
    s'.memory.mempool.queued.Perm (urgent :: s.memory.mempool.queued) ∧
    s'.memory.mempool.others "channel" = s.memory.mempool.others "channel" :=
  addBundle_loses_nothing Small.config (Small.slotBundle "urgent" 9 2 "GPP") []
    (Small.holding [Small.slotBundle "slow" 10 1 "GPP"] Small.swapping) (by decide +kernel)
    (by decide +kernel) (by decide +kernel)

/-! ## When a bundle is refused -/

/-- The slot has the capacity it was given, and no bundle heavier than that. -/
structure Slot.Light (cap : Nat) (slot : Slot) : Prop where
  capacity : slot.capacity = cap
  light : ∀ b ∈ slot.bundles, b.weight ≤ cap

namespace Slot
variable {cap : Nat} {slot : Slot} {bundle removed : SlotBundle}

theorem Light.removeBundle (h : slot.Light cap) (id : BundleId) :
    (slot.removeBundle id).1.Light cap where
  capacity := (removeBundle_capacity slot id).trans h.capacity
  light b hb := h.light b ((slot.removeBundle_sublist id).subset hb)

theorem Light.add (h : slot.Light cap) (hb : bundle.weight ≤ cap) :
    (slot.add bundle).1.Light cap where
  capacity := (add_capacity slot bundle).trans h.capacity
  light b hmem := by
    have hin := (slot.add_perm bundle).subset (List.mem_append_left _ hmem)
    obtain rfl | hin := List.mem_cons.mp hin
    · exact hb
    · exact h.light b hin

/-- A bundle that is too heavy for any slot only comes in for another one. -/
theorem Light.heavy (h : slot.Light cap) (hb : cap < bundle.weight) : slot.canFit bundle = false := by
  have hcap := h.capacity
  simp only [canFit, decide_eq_false_iff_not]
  omega

end Slot

namespace Mempool
variable {cap : Nat} {mempool : Mempool} {bundle removed : SlotBundle} {channel : ContractId}
  {slots : List Slot}

/-- No queued bundle of the channel is of lower priority. -/
def NoneBelow (mempool : Mempool) (bundle : SlotBundle) : Prop :=
  ∀ slot ∈ mempool.slots, slot.channelContractId = bundle.channelContractId →
    ∀ b ∈ slot.bundles, bundle.priorityScore ≤ b.priorityScore

instance (mempool : Mempool) (bundle : SlotBundle) : Decidable (mempool.NoneBelow bundle) :=
  inferInstanceAs (Decidable (∀ slot ∈ mempool.slots, _ → ∀ b ∈ slot.bundles, _))

/-- Every slot is light. -/
structure Light (cap : Nat) (mempool : Mempool) : Prop where
  capacity : mempool.capacity = cap
  slots : ∀ slot ∈ mempool.slots, slot.Light cap

/-- A heavy bundle that no queued one is below is passed on to the end. -/
theorem offer_of_noneBelow (hslots : ∀ slot ∈ slots, slot.Light cap) (hheavy : cap < bundle.weight)
    (hbelow : ∀ slot ∈ slots, slot.channelContractId = channel →
      ∀ b ∈ slot.bundles, bundle.priorityScore ≤ b.priorityScore) :
    offer channel slots bundle = (slots, some bundle) := by
  induction slots with
  | nil => rfl
  | cons slot slots ih =>
    obtain ⟨hslot, hslots⟩ := List.forall_mem_cons.mp hslots
    obtain ⟨hhead, hbelow⟩ := List.forall_mem_cons.mp hbelow
    have ih := ih hslots hbelow
    by_cases hch : slot.channelContractId = channel
    · have hnone : slot.replaceable bundle = none := by
        cases hlow : slot.replaceable bundle with
        | none => rfl
        | some lowest =>
          have hlt := of_decide_eq_true (Option.filter_eq_some_iff.mp hlow).2
          exact absurd hlt (not_lt.mpr (hhead hch lowest (Slot.replaceable_mem hlow)))
      have hadd : slot.add bundle = (slot, some bundle) := by
        simp [Slot.add, hslot.heavy hheavy, hnone]
      rw [offer_cons_of_leftover hch (by rw [hadd]), hadd, ih]
    · rw [offer_cons_of_ne hch, ih]

/-- What a heavy bundle leaves over, where a queued one is below it, is below it. -/
theorem offer_lt (hslots : ∀ slot ∈ slots, slot.Light cap) (hheavy : cap < bundle.weight)
    (hbelow : ∃ slot ∈ slots, slot.channelContractId = channel ∧
      ∃ b ∈ slot.bundles, b.priorityScore < bundle.priorityScore)
    (hleft : (offer channel slots bundle).2 = some removed) :
    removed.priorityScore < bundle.priorityScore := by
  induction slots with
  | nil => simp at hbelow
  | cons slot slots ih =>
    obtain ⟨hslot, hslots⟩ := List.forall_mem_cons.mp hslots
    by_cases hch : slot.channelContractId = channel
    · cases hadd : (slot.add bundle).2 with
      | none =>
        rw [offer_cons_of_fit hch hadd] at hleft
        cases hleft
      | some carried =>
        rw [offer_cons_of_leftover hch hadd] at hleft
        obtain ⟨hlow, ⟨-, -, hlt, -⟩ | ⟨rfl, -⟩⟩ := Slot.add_returns hadd
        · exact (offer_returns channel slots carried hleft).1.trans_lt hlt
        · obtain ⟨slot', hmem, hch', b, hb, hlt⟩ := hbelow
          obtain rfl | hmem := List.mem_cons.mp hmem
          · exact absurd hlt (not_lt.mpr (hlow b hb))
          · exact ih hslots ⟨slot', hmem, hch', b, hb, hlt⟩ hleft
    · rw [offer_cons_of_ne hch] at hleft
      obtain ⟨slot', hmem, hch', hb⟩ := hbelow
      obtain rfl | hmem := List.mem_cons.mp hmem
      · exact absurd hch' hch
      · exact ih hslots ⟨slot', hmem, hch', hb⟩ hleft

/-- A bundle is refused exactly when it is too heavy, and a refusal leaves the
queue as it was. -/
structure Precise (cap : Nat) (mempool : Mempool) (bundle : SlotBundle) : Prop where
  refused : (mempool.place bundle).1 = .slotFull ↔ cap < bundle.weight
  kept : (mempool.place bundle).1 = .slotFull → (mempool.place bundle).2.queued.Perm mempool.queued

/-- What a light bundle leaves over in a light queue fits a slot. -/
theorem Light.placed (h : mempool.Light cap) (hb : bundle.weight ≤ cap) :
    (mempool.place bundle).1 ≠ .slotFull := by
  rcases ho : offer bundle.channelContractId mempool.slots bundle with ⟨slots, _ | removed⟩
  · rw [place_of_taken ho]
    nofun
  · have hw : removed.weight ≤ cap := offer_leftover (Q := fun b => b.weight ≤ cap) hb
      (fun slot hs _ => (h.slots slot hs).light) (by rw [ho])
    rw [place_of_leftover ho, if_pos (h.capacity ▸ hw)]
    nofun

theorem Light.refused (h : mempool.Light cap) (hheavy : cap < bundle.weight)
    (hbelow : mempool.NoneBelow bundle) : mempool.place bundle = (.slotFull, mempool) := by
  rw [place_of_leftover (offer_of_noneBelow h.slots hheavy hbelow), if_neg]
  rw [h.capacity]
  omega

/-- A light queue is precise about a bundle exactly when that is light, or
nothing in its channel is below it. -/
theorem Light.precise_iff (h : mempool.Light cap) (bundle : SlotBundle) :
    mempool.Precise cap bundle ↔ bundle.weight ≤ cap ∨ mempool.NoneBelow bundle := by
  constructor
  · intro hprecise
    by_contra hnot
    obtain ⟨hheavy, hbelow⟩ := not_or.mp hnot
    have hfull := hprecise.refused.mpr (not_le.mp hheavy)
    have hexists : ∃ slot ∈ mempool.slots, slot.channelContractId = bundle.channelContractId ∧
        ∃ b ∈ slot.bundles, b.priorityScore < bundle.priorityScore := by
      simpa [NoneBelow] using hbelow
    rcases ho : offer bundle.channelContractId mempool.slots bundle with ⟨slots, _ | removed⟩
    · rw [place_of_taken ho] at hfull
      cases hfull
    · have hleft : (offer bundle.channelContractId mempool.slots bundle).2 = some removed := by
        rw [ho]
      have hlt := offer_lt h.slots (not_le.mp hheavy) hexists hleft
      have hown : removed.weight ≤ cap ∨ removed = bundle :=
        offer_leftover (Q := fun b => b.weight ≤ cap ∨ b = bundle) (.inr rfl)
          (fun slot hs _ b hb => .inl ((h.slots slot hs).light b hb)) hleft
      obtain hw | rfl := hown
      · rw [place_of_leftover ho, if_pos (h.capacity ▸ hw)] at hfull
        cases hfull
      · exact absurd hlt (lt_irrefl _)
  · intro hmeets
    by_cases hw : bundle.weight ≤ cap
    · exact ⟨⟨fun hfull => absurd hfull (h.placed hw), fun hlt => absurd hw (not_le.mpr hlt)⟩,
        fun hfull => absurd hfull (h.placed hw)⟩
    · have hplace := h.refused (not_le.mp hw) (hmeets.resolve_left hw)
      exact ⟨⟨fun _ => not_le.mp hw, fun _ => by rw [hplace]⟩, fun _ => by rw [hplace]⟩

theorem Light.place (h : mempool.Light cap)
    (hmeets : bundle.weight ≤ cap ∨ mempool.NoneBelow bundle) :
    (mempool.place bundle).2.Light cap := by
  by_cases hw : bundle.weight ≤ cap
  · refine ⟨(place_capacity mempool bundle).trans h.capacity, place_forall ⟨?_, ?_⟩ h.slots⟩
    · intro p hp hslot
      obtain ⟨-, -, hcarried⟩ := offers_forall (Q := fun b => b.weight ≤ cap) hw
        (fun slot hs _ => (h.slots slot hs).light) p hp
      exact hslot.add hcarried
    · intro removed _ hfits
      refine ⟨h.capacity, fun b hb => ?_⟩
      rw [Slot.push_new_bundles, List.mem_singleton] at hb
      exact hb ▸ h.capacity ▸ hfits
  · rw [h.refused (not_le.mp hw) (hmeets.resolve_left hw)]
    exact h

theorem Light.sweep (h : mempool.Light cap) (p : SlotBundle → Bool) :
    ∀ slot ∈ (sweep p mempool.slots).2, slot.Light cap :=
  sweep_forall (fun _ id hs => hs.removeBundle id) p h.slots

/-- SLOT_FULL says that the bundle is too heavy, and nothing else has changed. -/
structure SlotFullExact (cfg : Config) (bundle : SlotBundle) (bs : List (Beat Err)) (s : State) :
    Prop where
  thrown : ((addBundle cfg bundle).eval host bs s).1 =
    some (.error (.slotFull bundle.weight cfg.slotCapacity)) ↔ cfg.slotCapacity < bundle.weight
  kept : ((addBundle cfg bundle).eval host bs s).1 =
    some (.error (.slotFull bundle.weight cfg.slotCapacity)) →
    ((addBundle cfg bundle).eval host bs s).2.2.memory.mempool.queued.Perm s.memory.mempool.queued

/-- An activation that is served returns. -/
theorem activate_answered (P : State → Prop) (bundle : SlotBundle) :
    Task.Guided host Step.Answered P (activate bundle) (fun _ _ => True) fun _ => False := by
  unfold activate
  refine Task.Guided.recover (E := fun _ => False) ?_ (fun _ _ _ _ hs => hs.elim) fun _ hs => hs
  refine Task.Guided.bind (B := fun _ _ => True) ?_ fun updated => ?_
  · have hcall : Task.Guided host Step.Answered (fun _ => True) (command
        (.updateStatusIfActive bundle.bundleId .processing BundleStatus.active))
        (fun _ _ => True) fun _ => False :=
      .answered (fun _ _ hs => hs) fun _ _ => ⟨_, rfl, trivial⟩
    exact hcall.mono (fun _ _ => trivial) (fun _ _ hs => hs) fun _ hs => hs
  · split
    · exact .pure fun _ _ => trivial
    · exact Task.Guided.bind (B := fun _ _ => True) (.op fun _ _ _ => trivial)
        fun _ => .pure fun _ _ => trivial

/-- A call whose requests are all served throws exactly when `place` refuses. -/
theorem addBundle_throws_iff (cfg : Config) {s : State} {bs : List (Beat Err)}
    (hlive : isBundleExpired s.clock bundle = false) (hserves : ∀ b ∈ bs, Beat.Serves b) :
    ((addBundle cfg bundle).eval host bs s).1 =
      some (.error (.slotFull bundle.weight cfg.slotCapacity)) ↔
    (s.memory.mempool.place bundle).1 = .slotFull := by
  constructor
  · intro hthrown
    by_contra hplaced
    have hguided : Task.Guided host Step.Answered (· = s) (addBundle cfg bundle)
        (fun _ _ => True) fun _ => False := by
      refine addBundle_guided hlive (fun hfull => hplaced hfull) fun _ newSlot => ?_
      have hemit := emitForPp_lives (g := Step.Answered) (P := fun _ => True) (A := fun _ => False)
        (fun _ _ _ _ => trivial) (fun _ _ _ => trivial) (fun _ _ hg => hg) bundle.ppPublicKey
        (bundleAddedPayload bundle newSlot)
      exact Task.Guided.bind (hemit.mono (fun _ _ => trivial) (fun _ _ hs => hs) fun _ hs => hs)
        fun _ => activate_answered _ bundle
    refine (hguided bs s (fun st hst => ?_) rfl).of_error hthrown
    obtain ⟨s', o, rfl⟩ | ⟨s', q, rfl⟩ := Task.trace_serves host _ bs s hserves st hst
    · trivial
    · trivial
  · intro hfull
    rw [addBundle_full hlive hfull]

theorem slotFullExact_iff {cfg : Config} {s : State} {bs : List (Beat Err)}
    (hlive : isBundleExpired s.clock bundle = false) (hserves : ∀ b ∈ bs, Beat.Serves b) :
    SlotFullExact cfg bundle bs s ↔ s.memory.mempool.Precise cfg.slotCapacity bundle := by
  have hthrows := addBundle_throws_iff cfg hlive hserves
  constructor
  · rintro ⟨hthrown, hkept⟩
    refine ⟨hthrows.symm.trans hthrown, fun hfull => ?_⟩
    have hperm := hkept (hthrows.mpr hfull)
    rwa [addBundle_full hlive hfull] at hperm
  · rintro ⟨hrefused, hkept⟩
    refine ⟨hthrows.trans hrefused, fun hthrown => ?_⟩
    have hfull := hthrows.mp hthrown
    rw [addBundle_full hlive hfull]
    exact hkept hfull

end Mempool

/-! ## Runs -/

/-- The bundle an operation places. -/
def Op.placed : Op → Option SlotBundle
  | .place bundle => some bundle
  | _ => none

/-- Every placement of the step satisfies `Q`. -/
def PlacesMeet (Q : State → SlotBundle → Prop) (c : ProviderPool) (ch : ProviderChoice) : Prop :=
  ∀ p ∈ ch.ops host c, ∀ bundle ∈ p.2.placed, Q p.1 bundle

instance (Q : State → SlotBundle → Prop) [∀ s bundle, Decidable (Q s bundle)] (c : ProviderPool)
    (ch : ProviderChoice) : Decidable (PlacesMeet Q c ch) :=
  inferInstanceAs (Decidable (∀ p ∈ ch.ops host c, ∀ bundle ∈ p.2.placed, Q p.1 bundle))

/-- The bundle fits a slot, or no queued one of its channel is below it. -/
def Placeable (cfg : Config) (s : State) (bundle : SlotBundle) : Prop :=
  bundle.weight ≤ cfg.slotCapacity ∨ s.memory.mempool.NoneBelow bundle

instance (cfg : Config) (s : State) (bundle : SlotBundle) : Decidable (Placeable cfg s bundle) :=
  inferInstanceAs (Decidable (_ ∨ _))

theorem Mempool.Light.runOp {cfg : Config} {s : State} {o : Op}
    (h : s.memory.mempool.Light cfg.slotCapacity)
    (hmeets : ∀ bundle ∈ o.placed, Placeable cfg s bundle) :
    (runOp o s).2.memory.mempool.Light cfg.slotCapacity := by
  refine ⟨(runOp_capacity o s).trans h.capacity, ?_⟩
  cases o with
  | place bundle => exact (h.place (hmeets bundle rfl)).slots
  | takeExpired => exact h.sweep _
  | purgeBundles ids =>
    simp only [ProviderPlatform.runOp, State.withMempool_mempool, Mempool.purgeBundles]
    split
    · exact h.slots
    · exact h.sweep _
  | removeFirstSlot =>
    have hslots := h.slots
    simp only [ProviderPlatform.runOp, State.withMempool_mempool, Mempool.removeFirstSlot]
    split
    · exact hslots
    · rename_i heq
      rw [heq] at hslots
      exact (List.forall_mem_cons.mp hslots).2
  | _ => exact h.slots

theorem Mempool.Light.run {cfg : Config} {fuel : Nat} {allowed : State → Call → Bool}
    {c c' : ProviderPool}
    (h : (process cfg fuel allowed).Run (PlacesMeet (Placeable cfg)) c c')
    (h0 : c.state.memory.mempool.Light cfg.slotCapacity) :
    c'.state.memory.mempool.Light cfg.slotCapacity := by
  refine h.state_invariant (P := fun s => s.memory.mempool.Light cfg.slotCapacity)
    (g := fun s (o : Op) => ∀ bundle ∈ o.placed, Placeable cfg s bundle) (fun c ch hg => hg)
    (fun s o hs hmeets => hs.runOp hmeets) (fun s q hs => ?_) (fun s d hs => ?_) (fun s _ => ?_) h0
  · cases q <;> exact hs
  · show (drift d s).memory.mempool.Light cfg.slotCapacity
    rw [drift_mempool]
    exact hs
  · exact ⟨rfl, fun _ hslot => nomatch hslot⟩

/-- **SLOT_FULL is precise and atomic** in every run that places no bundle
heavier than a slot above a queued one of its channel: in every state of it,
for every bundle within its TTL, exactly when that bundle is no such one. -/
theorem slot_full_exact_iff (cfg : Config) (fuel : Nat) (allowed : State → Call → Bool) (s : State)
    (c : ProviderPool) (hs : s.memory.mempool = .new cfg.slotCapacity)
    (h : (process cfg fuel allowed).Run (PlacesMeet (Placeable cfg)) ⟨s, []⟩ c)
    (bundle : SlotBundle) (bs : List (Beat Err))
    (hlive : isBundleExpired c.state.clock bundle = false) (hserves : ∀ b ∈ bs, Beat.Serves b) :
    Mempool.SlotFullExact cfg bundle bs c.state ↔ Placeable cfg c.state bundle := by
  have hlight : c.state.memory.mempool.Light cfg.slotCapacity := by
    refine Mempool.Light.run h ?_
    rw [hs]
    exact ⟨rfl, fun _ hslot => nomatch hslot⟩
  exact (Mempool.slotFullExact_iff hlive hserves).trans (hlight.precise_iff bundle)

namespace Small

/-- A light bundle, then one that is heavier than a slot and of higher priority. -/
def oversizing : List SlotBundle := [slotBundle "light" 1 1 "GPP", slotBundle "huge" 11 3 "GPP"]

/-- Both are added, and the light one leaves the queue again. -/
def oversized : List ProviderChoice :=
  adds oversizing ++ [.start (.purgeBundles ["light"]), .resume 2]

end Small

/-- Nothing is below the bundle that is too heavy when it comes second. -/
theorem slot_full_exact_iff_small :
    ∃ c : ProviderPool, c.state.memory.mempool.queuedIds = ["urgent"] ∧
      (Mempool.SlotFullExact Small.config (Small.slotBundle "huge" 11 1 "GPP") [] c.state ↔
        Placeable Small.config c.state (Small.slotBundle "huge" 11 1 "GPP")) := by
  obtain ⟨c, hr, hp⟩ := Machine.exists_run_of_replay (M := process Small.config 1 fun _ _ => true)
    (G := PlacesMeet (Placeable Small.config)) (c := ⟨Small.state, []⟩)
    (Small.adds [Small.slotBundle "urgent" 1 2 "GPP"])
    (fun s => s.memory.mempool.queuedIds == ["urgent"] && decide (s.clock = 0)) (by decide +kernel)
  obtain ⟨hids, hclock⟩ := by simpa using hp
  refine ⟨c, hids, slot_full_exact_iff Small.config 1 (fun _ _ => true) Small.state c rfl hr
    (Small.slotBundle "huge" 11 1 "GPP") [] ?_ nofun⟩
  rw [hclock]
  decide +kernel

/-- The bundle of weight 11 takes the place of the light one and is not refused.
Later a light one takes its place, and is refused although it is queued: the
one of weight 11 is gone. -/
theorem slot_full_not_exact :
    (¬ ∀ (cfg : Config) (fuel : Nat) (allowed : State → Call → Bool) (s : State) (c : ProviderPool)
        (bundle : SlotBundle), s.memory.mempool = .new cfg.slotCapacity →
      (process cfg fuel allowed).Run Machine.Free ⟨s, []⟩ c →
      isBundleExpired c.state.clock bundle = false → cfg.slotCapacity < bundle.weight →
      ((Mempool.addBundle cfg bundle).eval host [] c.state).1 =
        some (.error (.slotFull bundle.weight cfg.slotCapacity))) ∧
    ¬ ∀ (cfg : Config) (fuel : Nat) (allowed : State → Call → Bool) (s : State) (c : ProviderPool)
        (bundle : SlotBundle), s.memory.mempool = .new cfg.slotCapacity →
      (process cfg fuel allowed).Run Machine.Free ⟨s, []⟩ c →
      isBundleExpired c.state.clock bundle = false →
      ((Mempool.addBundle cfg bundle).eval host [] c.state).1 =
        some (.error (.slotFull bundle.weight cfg.slotCapacity)) →
      ((Mempool.addBundle cfg bundle).eval host [] c.state).2.2.memory.mempool.queued.Perm
        c.state.memory.mempool.queued := by
  constructor
  · intro h
    obtain ⟨c, hr, hp⟩ := Machine.exists_run_of_replay (M := process Small.config 1 fun _ _ => true)
      (G := Machine.Free) (c := ⟨Small.holding [] Small.oversizing, []⟩)
      (Small.adds [Small.slotBundle "light" 1 1 "GPP"])
      (fun s => !isBundleExpired s.clock (Small.slotBundle "huge" 11 3 "GPP") &&
        decide (((Mempool.addBundle Small.config (Small.slotBundle "huge" 11 3 "GPP")).eval host []
          s).1 = some (.ok ()))) (by decide +kernel)
    obtain ⟨hlive, hret⟩ := by simpa using hp
    have hthrown := h Small.config 1 _ _ c (Small.slotBundle "huge" 11 3 "GPP") rfl hr hlive
      (by decide)
    rw [hret] at hthrown
    cases hthrown
  · intro h
    obtain ⟨c, hr, hp⟩ := Machine.exists_run_of_replay (M := process Small.config 1 fun _ _ => true)
      (G := Machine.Free) (c := ⟨Small.state, []⟩) Small.oversized
      (fun s =>
        let late := (Mempool.addBundle Small.config (Small.slotBundle "late" 1 4 "GPP")).eval host [] s
        !isBundleExpired s.clock (Small.slotBundle "late" 1 4 "GPP") &&
        decide (late.1 = some (.error (.slotFull 1 10))) &&
        s.memory.mempool.queuedIds == ["huge"] && late.2.2.memory.mempool.queuedIds == ["late"])
      (by decide +kernel)
    simp only [Bool.and_eq_true, Bool.not_eq_true', decide_eq_true_eq, beq_iff_eq] at hp
    obtain ⟨⟨⟨hlive, hthrown⟩, hbefore⟩, hafter⟩ := hp
    have hperm := h Small.config 1 _ _ c (Small.slotBundle "late" 1 4 "GPP") rfl hr hlive hthrown
    have hids : ["late"].Perm ["huge"] := by
      rw [← hbefore, ← hafter]
      exact hperm.map _
    exact absurd hids (by decide)

end ProviderPlatform
