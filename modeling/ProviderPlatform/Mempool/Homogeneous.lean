import ProviderPlatform.Async.Ownership
import ProviderPlatform.Mempool.Cascade
import Mathlib.Algebra.Order.PUnit

/-! # One channel and one PP in a slot

`addBundle` offers a bundle to the slots of its channel, whatever PP their
bundles belong to; the executor signs and pays for a whole slot as the PP of
its first bundle. Every slot holds one channel always, and one PP as long as
a bundle is only ever taken in beside bundles of its own PP. -/
namespace ProviderPlatform
open Async

namespace Slot

/-- Every bundle is of the channel of the slot. -/
def OneChannel (slot : Slot) : Prop :=
  ∀ b ∈ slot.bundles, b.channelContractId = slot.channelContractId

/-- All bundles belong to the same PP. -/
def OnePp (slot : Slot) : Prop :=
  ∀ b ∈ slot.bundles, ∀ b' ∈ slot.bundles, b.ppPublicKey = b'.ppPublicKey

/-- One channel and one PP. -/
structure Homogeneous (slot : Slot) : Prop where
  oneChannel : slot.OneChannel
  onePp : slot.OnePp

/-- If the slot takes the bundle in, what stays beside it is of the same PP. -/
def TakesKin (slot : Slot) (bundle : SlotBundle) : Prop :=
  ∀ stay ∈ slot.companions bundle, ∀ b ∈ stay, b.ppPublicKey = bundle.ppPublicKey

instance (slot : Slot) (bundle : SlotBundle) : Decidable (slot.TakesKin bundle) :=
  inferInstanceAs (Decidable (∀ stay ∈ slot.companions bundle, ∀ b ∈ stay, _))

section Add
variable {slot : Slot} {bundle : SlotBundle}

theorem OneChannel.add (h : slot.OneChannel)
    (hb : bundle.channelContractId = slot.channelContractId) : (slot.add bundle).1.OneChannel := by
  intro b hmem
  rw [add_channel]
  cases hstay : slot.companions bundle with
  | none =>
    rw [add_of_companions_none hstay] at hmem
    exact h b hmem
  | some stay =>
    rcases List.mem_cons.mp ((add_bundles_perm hstay).mem_iff.mp hmem) with rfl | hmem
    · exact hb
    · exact h b (companions_subset hstay hmem)

theorem OnePp.add (h : slot.OnePp) (hkin : slot.TakesKin bundle) :
    (slot.add bundle).1.OnePp := by
  cases hstay : slot.companions bundle with
  | none => rwa [add_of_companions_none hstay]
  | some stay =>
    have hown : ∀ b ∈ (slot.add bundle).1.bundles, b.ppPublicKey = bundle.ppPublicKey := by
      intro b hmem
      rcases List.mem_cons.mp ((add_bundles_perm hstay).mem_iff.mp hmem) with rfl | hmem
      · rfl
      · exact hkin stay hstay b hmem
    exact fun b hb b' hb' => (hown b hb).trans (hown b' hb').symm

end Add

theorem removeBundle_channel (slot : Slot) (id : BundleId) :
    (slot.removeBundle id).1.channelContractId = slot.channelContractId := by
  unfold removeBundle
  split <;> rfl

theorem OneChannel.removeBundle {slot : Slot} (id : BundleId) (h : slot.OneChannel) :
    (slot.removeBundle id).1.OneChannel := fun b hb => by
  rw [removeBundle_channel]
  exact h b ((slot.removeBundle_sublist id).subset hb)

theorem Homogeneous.removeBundle {slot : Slot} (id : BundleId) (h : slot.Homogeneous) :
    (slot.removeBundle id).1.Homogeneous where
  oneChannel := h.oneChannel.removeBundle id
  onePp b hb b' hb' :=
    h.onePp b ((slot.removeBundle_sublist id).subset hb) b' ((slot.removeBundle_sublist id).subset hb')

theorem push_new_bundles (capacity : Nat) (channel : ContractId) (bundle : SlotBundle) :
    ((new capacity channel).push bundle).bundles = [bundle] := rfl

end Slot

/-! ## Placing -/

namespace Mempool
variable {mempool : Mempool} {bundle : SlotBundle}

/-- Whatever is carried is of the channel it is offered to. -/
theorem offers_channel {slots : List Slot} (h : ∀ slot ∈ slots, slot.OneChannel) :
    ∀ offer ∈ offers bundle.channelContractId slots bundle,
      offer.2.channelContractId = offer.1.channelContractId := by
  intro offer hoffer
  obtain ⟨-, hch, hown⟩ := offers_forall
    (Q := fun b => b.channelContractId = bundle.channelContractId) rfl
    (fun slot hs hch b hb => (h slot hs b hb).trans hch) offer hoffer
  exact hown.trans hch.symm

theorem placeKeeps_oneChannel (h : ∀ slot ∈ mempool.slots, slot.OneChannel) :
    PlaceKeeps Slot.OneChannel mempool bundle where
  offers offer hoffer hs := hs.add (offers_channel h offer hoffer)
  opens removed hleft _ b hb := by
    rw [Slot.push_new_bundles, List.mem_singleton] at hb
    subst hb
    exact offer_leftover (Q := fun b => b.channelContractId = bundle.channelContractId) rfl
      (fun slot hs hch b hb => (h slot hs b hb).trans hch) hleft

theorem placeKeeps_homogeneous (h : ∀ slot ∈ mempool.slots, slot.Homogeneous)
    (hkin : ∀ offer ∈ Mempool.offers bundle.channelContractId mempool.slots bundle,
      offer.1.TakesKin offer.2) :
    PlaceKeeps Slot.Homogeneous mempool bundle := by
  have hone : PlaceKeeps Slot.OneChannel mempool bundle :=
    placeKeeps_oneChannel fun slot hs => (h slot hs).oneChannel
  refine ⟨fun offer hoffer hs => ⟨hone.offers offer hoffer hs.oneChannel, ?_⟩,
    fun removed hleft hw => ⟨hone.opens removed hleft hw, ?_⟩⟩
  · exact hs.onePp.add (hkin offer hoffer)
  · intro b hb b' hb'
    rw [Slot.push_new_bundles, List.mem_singleton] at hb hb'
    rw [hb, hb']

theorem removeFirstSlot_mem {slot : Slot} (h : mempool.removeFirstSlot.1 = some slot) :
    slot ∈ mempool.slots := by
  unfold removeFirstSlot at h
  split at h
  · cases h
  · rename_i hslots
    cases h
    rw [hslots]
    exact List.mem_cons_self

end Mempool

/-! ## The state -/

/-- Every bundle is of the channel and of the PP. -/
def Uniform (channel : ContractId) (pp : PublicKey) (bundles : List SlotBundle) : Prop :=
  ∀ b ∈ bundles, b.channelContractId = channel ∧ b.ppPublicKey = pp

namespace State

def OneChannel (s : State) : Prop := ∀ slot ∈ s.memory.mempool.slots, slot.OneChannel

/-- Every slot is homogeneous, and so was every submitted transaction, in the
channel and the PP it was submitted for. -/
structure Homogeneous (s : State) : Prop where
  slots : ∀ slot ∈ s.memory.mempool.slots, slot.Homogeneous
  handed : ∀ channel pp bundles, .handed channel pp bundles ∈ s.history →
    Uniform channel pp bundles

variable {s : State}

theorem OneChannel.runOp (h : s.OneChannel) (o : Op) : (runOp o s).2.OneChannel :=
  runOp_slots (fun _ id hs => hs.removeBundle id)
    (fun _ _ => Mempool.placeKeeps_oneChannel h) h

theorem Homogeneous.runOp {o : Op} (h : s.Homogeneous)
    (hkin : ∀ offer ∈ o.offers s, offer.1.TakesKin offer.2)
    (hnote : ∀ channel pp bundles, o = .note (.handed channel pp bundles) →
      Uniform channel pp bundles) : (runOp o s).2.Homogeneous := by
  refine ⟨runOp_slots (fun _ id hs => hs.removeBundle id) (fun bundle ho => ?_) h.slots, ?_⟩
  · subst ho
    exact Mempool.placeKeeps_homogeneous h.slots hkin
  · intro channel pp bundles hmem
    cases o with
    | note submission =>
      rcases List.mem_append.mp hmem with hmem | hmem
      · exact h.handed _ _ _ hmem
      · rw [← List.mem_singleton.mp hmem] at hnote
        exact hnote _ _ _ rfl
    | _ => exact h.handed _ _ _ hmem

theorem not_handed_mem_notes (w : Command) (db : Database) (channel : ContractId) (pp : PublicKey)
    (bundles : List SlotBundle) : .handed channel pp bundles ∉ w.notes db := by
  unfold Command.notes
  split
  · split <;> simp
  · simp

theorem Homogeneous.serve (h : s.Homogeneous) (q : Req) : (serve q s).2.Homogeneous := by
  cases q with
  | command w =>
    refine ⟨h.slots, fun channel pp bundles hmem => ?_⟩
    rcases List.mem_append.mp hmem with hmem | hmem
    · exact h.handed _ _ _ hmem
    · exact absurd hmem (not_handed_mem_notes w s.db channel pp bundles)
  | _ => exact ⟨h.slots, h.handed⟩

theorem Homogeneous.drift (h : s.Homogeneous) (d : Drift) : (drift d s).Homogeneous := by
  refine ⟨?_, ?_⟩
  · rw [drift_mempool]
    exact h.slots
  · rw [drift_history]
    exact h.handed

theorem Homogeneous.reboot (h : s.Homogeneous) (cfg : Config) : (reboot cfg s).Homogeneous :=
  ⟨fun _ => nofun, h.handed⟩

end State

/-! ## The tasks -/

/-- Slots stay homogeneous if every offer finds kin. Nothing is owned. -/
def partition : Discipline platform State Unit where
  inv s _ := s.Homogeneous
  mayRun s (o : Op) := ∀ offer ∈ o.offers s, offer.1.TakesKin offer.2
  mayServe _ _ := True
  mayReject _ _ := True

/-- Hands no bundles over. -/
def NotHanded (o : Op) : Prop := ∀ channel pp bundles, o ≠ .note (.handed channel pp bundles)

section Triples
variable {α : Type} {cfg : Config} {slot : Slot}

theorem partition_uses {t : Promise α} (ht : Keeps NotHanded (fun _ => True) t) :
    Task.Triple host partition () t fun _ _ => True := by
  refine (Task.Triple.of_uses (fun o ho s _ hs hkin => ?_) (fun q _ s _ hs _ => ?_) ht ()).mono
    fun _ _ _ => trivial
  · exact State.Homogeneous.runOp hs hkin fun channel pp bundles he => absurd he (ho _ _ _)
  · exact State.Homogeneous.serve hs q

theorem mayExecute_notHanded : MayExecute NotHanded fun _ => True where
  query _ := trivial
  rpc _ := trivial
  now _ _ _ := nofun
  emit _ _ _ _ _ := nofun
  isDisabled _ _ _ _ := nofun
  place _ _ _ _ := nofun
  purge _ _ _ _ := nofun
  expire _ := trivial
  activate _ := trivial
  isProcessing _ _ _ := nofun
  setProcessing _ _ _ _ := nofun
  removeFirstSlot _ _ _ := nofun
  returned _ _ _ _ _ := nofun
  evict _ := trivial
  failure _ _ _ := trivial
  insufficient _ _ _ := trivial
  createTransaction _ _ := trivial
  createLink _ := trivial

theorem expireSlotBundlesPastTtl_triple (hslot : slot.Homogeneous) :
    Task.Triple host partition () (expireSlotBundlesPastTtl slot)
      fun r _ => ∀ slot', r = .ok slot' → slot'.Homogeneous := by
  have h := mayExecute_notHanded
  refine (partition_uses (keeps_run h.now)).bind (fun now _ _ => ?_) fun _ _ _ => nofun
  refine Task.Triple.bind (partition_uses (Task.Uses.forEach fun b _ => ?_)) (fun _ _ _ => ?_)
    fun _ _ _ => nofun
  · exact ((keeps_command (h.evict b.bundleId)).bind fun _ =>
      emitForPp_keeps h.toAnnounces _ rfl).recover fun _ => keeps_pure _
  · refine Task.Triple.done fun slot' he => ?_
    cases he
    exact Slot.removeWhere_keeps (fun _ id hs => hs.removeBundle id) _ hslot

/-- The bundles handed over are those of the slot, for the channel and the PP
of its first. -/
theorem executeSlot_triple (hslot : slot.Homogeneous) :
    Task.Triple host partition () (executeSlot cfg slot) fun _ _ => True := by
  have h := mayExecute_notHanded
  unfold executeSlot
  split
  · exact .done trivial
  rename_i first hfirst
  have hmem : first ∈ slot.bundles := List.mem_of_head? hfirst
  split
  · exact .done trivial
  split
  · exact .done trivial
  refine (partition_uses (prepareSlot_keeps h.rpc cfg slot first)).bind (fun prepared _ _ => ?_)
    fun _ _ _ => trivial
  have hnote : Task.Triple host partition () (run (.note (.handed first.channelContractId
      first.ppPublicKey slot.getBundles))) fun _ _ => True :=
    Task.Triple.op fun s _ hs hkin => by
      refine ⟨(), trivial, State.Homogeneous.runOp hs hkin fun channel pp bundles he => ?_⟩
      cases he
      exact fun b hb => ⟨(hslot.oneChannel b hb).trans (hslot.oneChannel first hmem).symm,
        hslot.onePp b hb first hmem⟩
  refine hnote.bind (fun _ _ _ => partition_uses ?_) fun _ _ _ => trivial
  · refine (submitTransactionToNetwork_keeps h.rpc cfg _ _ _ _).bind fun hash => ?_
    refine (keeps_run (h.returned _ _)).bind fun _ => ?_
    refine Task.Uses.bind (createTransactionRecord_keeps h.toReads h.createTransaction
      h.createLink cfg _ _) fun _ => ?_
    exact emitForBundles_keeps h.toPermits _ _

theorem processSlot_triple (hslot : slot.Homogeneous) :
    Task.Triple host partition () (processSlot cfg slot) fun _ _ => True := by
  refine (expireSlotBundlesPastTtl_triple hslot).bind (fun slot _ hslot => ?_) fun _ _ _ => trivial
  split
  · exact .done trivial
  · exact (executeSlot_triple (hslot slot rfl)).recover (fun _ _ _ => trivial)
      fun e _ _ => partition_uses
        (handleSlotFailure_keeps mayExecute_notHanded.toMayProcess cfg slot e)

theorem executeNext_triple : Task.Triple host partition () (executeNext cfg) fun _ _ => True := by
  have h := mayExecute_notHanded
  refine (partition_uses (keeps_run h.isProcessing)).bind (fun isProcessing _ _ => ?_)
    fun _ _ _ => trivial
  split
  · exact .done trivial
  refine (partition_uses (keeps_run (h.setProcessing _))).bind (fun _ _ _ => ?_) fun _ _ _ => trivial
  have hpull : Task.Triple host partition () (run .removeFirstSlot)
      fun r _ => ∀ slot, r = .ok (some slot) → slot.Homogeneous :=
    Task.Triple.op fun s _ hs hkin => by
      refine ⟨(), fun slot he => ?_, State.Homogeneous.runOp hs hkin fun _ _ _ => nofun⟩
      exact hs.slots slot (Mempool.removeFirstSlot_mem (Except.ok.inj he))
  refine Task.Triple.ensure (hpull.bind (fun slot _ hslot => ?_) fun _ _ _ => trivial) ?_
  · cases slot with
    | none => exact .done trivial
    | some slot =>
      dsimp only
      split
      · exact .done trivial
      · exact processSlot_triple (hslot slot rfl)
  · exact fun s _ hs hkin => State.Homogeneous.runOp hs hkin fun _ _ _ => nofun

theorem Call.program_triple (fuel : Nat) (l : Call) :
    Task.Triple host partition () (l.program cfg fuel) fun _ _ => True := by
  by_cases hl : l = .executeNext
  · subst hl
    exact executeNext_triple
  · refine partition_uses ((Call.program_keeps cfg fuel l).mono (fun o ho channel pp bundles he => ?_)
      fun _ _ => trivial)
    subst he
    exact hl ho

end Triples

/-! ## Runs -/

section Runs
variable {cfg : Config} {fuel : Nat} {allowed : State → Call → Bool}

theorem State.OneChannel.run {c c' : ProviderPool}
    (h : (process cfg fuel allowed).Run Machine.Free c c') (h0 : c.state.OneChannel) :
    c'.state.OneChannel := by
  refine h.state_invariant (P := State.OneChannel) (g := fun _ _ => True) (fun _ _ _ _ _ => trivial)
    (fun s o hs _ => State.OneChannel.runOp hs o) (fun s q hs => ?_) (fun s d hs => ?_)
    (fun s _ => ?_) h0
  · cases q <;> exact hs
  · show State.OneChannel (drift d s)
    rw [State.OneChannel, drift_mempool]
    exact hs
  · exact fun slot hslot => nomatch hslot

theorem State.Homogeneous.run {s : State} {c : ProviderPool}
    (h : (process cfg fuel allowed).Run (OffersMeet Slot.TakesKin) ⟨s, []⟩ c)
    (h0 : s.Homogeneous) : c.state.Homogeneous := by
  have howned : (process cfg fuel allowed).Owned (fun _ => partition) (fun s _ => s.Homogeneous) c :=
    h.owned (fun _ => rfl) (Call.program_triple fuel .launch)
      (fun _ l _ => Call.program_triple fuel l)
      ⟨fun c i l t hg ht => ?_, fun _ _ _ _ _ _ _ => trivial, fun _ _ _ _ _ _ _ _ => trivial⟩
      (fun _ d _ _ hs => State.Homogeneous.drift hs d)
      (fun _ _ _ hs => State.Homogeneous.reboot hs cfg) (Machine.owned_nil h0)
  · obtain ⟨-, hc⟩ := howned.holds
    exact hc
  · simp only [OffersMeet, Choice.ops, ht] at hg
    exact hg

/-- **One channel and one PP in a slot.** Every slot of a mempool that starts
empty holds bundles of its own channel only. In a run in which a bundle is only
taken in beside bundles of its PP, every slot also belongs to one PP, and every
transaction is submitted for the channel and the PP of all of its bundles. -/
theorem slots_homogeneous (s : State) (hs : s.memory.mempool = .new cfg.slotCapacity)
    (hhist : s.history = []) :
    (∀ c, (process cfg fuel allowed).Run Machine.Free ⟨s, []⟩ c →
      ∀ slot ∈ c.state.memory.mempool.slots, slot.OneChannel) ∧
    ∀ c, (process cfg fuel allowed).Run (OffersMeet Slot.TakesKin) ⟨s, []⟩ c →
      (∀ slot ∈ c.state.memory.mempool.slots, slot.OnePp) ∧
      ∀ channel pp bundles, .handed channel pp bundles ∈ c.state.history →
        Uniform channel pp bundles := by
  have hslots : s.memory.mempool.slots = [] := by rw [hs]; rfl
  refine ⟨fun c h => State.OneChannel.run h ?_, fun c h => ?_⟩
  · rw [State.OneChannel, hslots]
    exact fun _ => nofun
  · have hc : c.state.Homogeneous := by
      refine State.Homogeneous.run h ⟨?_, ?_⟩
      · rw [hslots]
        exact fun _ => nofun
      · rw [hhist]
        exact fun _ _ _ => nofun
    exact ⟨fun slot hslot => (hc.slots slot hslot).onePp, hc.handed⟩

end Runs

namespace Small

/-- A bundle of one PP and one of another, of the same channel. -/
def strangers : List SlotBundle := [slotBundle "ours" 1 2 "GPP", slotBundle "theirs" 1 1 "GPP2"]

/-- A tick pulls the slot they share and hands it to the network. -/
def mixes : List ProviderChoice :=
  adds strangers ++ [.start .executeNext] ++ serves 2 6 ++ [.resume 2]

/-- The same with two bundles of one PP. -/
def joins : List ProviderChoice :=
  adds [slotBundle "ours" 1 2 "GPP", slotBundle "more" 1 1 "GPP"] ++ [.start .executeNext] ++
    serves 2 6 ++ [.resume 2]

end Small

/-- Two bundles of different PPs share a slot, and are submitted as one of them. -/
theorem slots_not_homogeneous :
    (¬ ∀ (cfg : Config) (fuel : Nat) (allowed : State → Call → Bool) (s : State) (c : ProviderPool),
      s.memory.mempool = .new cfg.slotCapacity → s.history = [] →
      (process cfg fuel allowed).Run Machine.Free ⟨s, []⟩ c →
      ∀ slot ∈ c.state.memory.mempool.slots, slot.Homogeneous) ∧
    ¬ ∀ (cfg : Config) (fuel : Nat) (allowed : State → Call → Bool) (s : State) (c : ProviderPool),
      s.memory.mempool = .new cfg.slotCapacity → s.history = [] →
      (process cfg fuel allowed).Run Machine.Free ⟨s, []⟩ c →
      ∀ channel pp bundles, .handed channel pp bundles ∈ c.state.history →
        Uniform channel pp bundles := by
  constructor
  · intro h
    obtain ⟨c, hr, hp⟩ := Machine.exists_run_of_replay
      (M := process Small.config 1 fun _ _ => true) (G := Machine.Free) (c := ⟨Small.state, []⟩)
      (Small.adds Small.strangers) (fun s => s.memory.mempool.slots.any fun slot =>
        slot.bundles.any fun b => slot.bundles.any fun b' => b.ppPublicKey ≠ b'.ppPublicKey)
      (by decide +kernel)
    obtain ⟨slot, hslot, hp⟩ := List.any_eq_true.mp hp
    obtain ⟨b, hb, hp⟩ := List.any_eq_true.mp hp
    obtain ⟨b', hb', hne⟩ := List.any_eq_true.mp hp
    exact (of_decide_eq_true hne) ((h _ _ _ _ c rfl rfl hr slot hslot).onePp b hb b' hb')
  · intro h
    obtain ⟨c, hr, hp⟩ := Machine.exists_run_of_replay
      (M := process Small.config 1 fun _ _ => true) (G := Machine.Free) (c := ⟨Small.state, []⟩)
      Small.mixes (fun s => s.history == [.handed "channel" "GPP" Small.strangers])
      (by decide +kernel)
    have hmem : .handed "channel" "GPP" Small.strangers ∈ c.state.history := by
      rw [eq_of_beq hp]
      exact List.mem_singleton_self _
    have huni := h _ _ _ _ c rfl rfl hr _ _ _ hmem
    exact absurd (huni (Small.slotBundle "theirs" 1 1 "GPP2") (by simp [Small.strangers])).2
      (by decide)

/-- The run with two bundles of one PP. -/
theorem slots_homogeneous_small :
    ∃ c : ProviderPool, c.state.history.length = 1 ∧
      (process Small.config 1 fun _ _ => true).Run (OffersMeet Slot.TakesKin) ⟨Small.state, []⟩ c ∧
      ∀ channel pp bundles, .handed channel pp bundles ∈ c.state.history →
        Uniform channel pp bundles := by
  obtain ⟨c, hr, hp⟩ := Machine.exists_run_of_replay
    (M := process Small.config 1 fun _ _ => true) (G := OffersMeet Slot.TakesKin)
    (c := ⟨Small.state, []⟩) Small.joins (fun s => s.history.length == 1) (by decide +kernel)
  exact ⟨c, by simpa using hp, hr, ((slots_homogeneous Small.state rfl rfl).2 c hr).2⟩

end ProviderPlatform
