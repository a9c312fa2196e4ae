import ProviderPlatform.Lifecycle.Outstanding
import Mathlib.Algebra.Order.Group.Multiset
import Mathlib.Data.Multiset.Bind

/-! # Custody of bundles

At any time a bundle that may still be submitted is in one place: in the
queue, or with one task that took it out, inserted its row or loaded it at the
boot. A task owns a token for each bundle it has; the queue and the tokens
never name a bundle twice, and whatever they name as submittable is of no
outstanding transaction. -/
namespace ProviderPlatform
open Async Store

/-! ## Tokens -/

/-- What a task owns: the boot before and after it read the rows, a row it has
yet to judge, a bundle it may queue or submit, the hash of a transaction it
submitted, and a transaction it records, with the links still to be made. -/
inductive Token
  | boot
  | booting
  | judging (id : BundleId)
  | holds (id : BundleId)
  | sends (hash : TxHash)
  | records (hash : TxHash) (ids rest : List BundleId)

abbrev Tokens := Multiset Token

/-- The bundles a token names. -/
def Token.ids : Token → List BundleId
  | .judging id | .holds id => [id]
  | .records _ ids _ => ids
  | _ => []

/-- The hash a token names. -/
def Token.hashes : Token → List TxHash
  | .sends hash | .records hash _ _ => [hash]
  | _ => []

def claimed (r : Tokens) : Multiset BundleId := r.bind fun t => t.ids
def pending (r : Tokens) : Multiset TxHash := r.bind fun t => t.hashes

/-- Bundles that may be queued or submitted. -/
def holdsAll (ids : List BundleId) : Tokens := (ids.map fun id => ({.holds id} : Tokens)).sum

@[simp] theorem claimed_zero : claimed 0 = 0 := rfl
@[simp] theorem pending_zero : pending 0 = 0 := rfl
@[simp] theorem claimed_add (a b : Tokens) : claimed (a + b) = claimed a + claimed b :=
  Multiset.add_bind ..
@[simp] theorem pending_add (a b : Tokens) : pending (a + b) = pending a + pending b :=
  Multiset.add_bind ..
@[simp] theorem claimed_singleton (t : Token) : claimed {t} = t.ids := Multiset.singleton_bind ..
@[simp] theorem pending_singleton (t : Token) : pending {t} = t.hashes := Multiset.singleton_bind ..
@[simp] theorem claimed_cons (t : Token) (r : Tokens) : claimed (t ::ₘ r) = t.ids + claimed r :=
  Multiset.cons_bind ..
@[simp] theorem pending_cons (t : Token) (r : Tokens) : pending (t ::ₘ r) = t.hashes + pending r :=
  Multiset.cons_bind ..

theorem holdsAll_cons (id : BundleId) (ids : List BundleId) :
    holdsAll (id :: ids) = {.holds id} + holdsAll ids := by
  simp [holdsAll]

@[simp] theorem claimed_holdsAll (ids : List BundleId) : claimed (holdsAll ids) = ids := by
  induction ids with
  | nil => rfl
  | cons id ids ih => simp [holdsAll_cons, ih, Token.ids]

@[simp] theorem pending_holdsAll (ids : List BundleId) : pending (holdsAll ids) = 0 := by
  induction ids with
  | nil => rfl
  | cons id ids ih => simp [holdsAll_cons, ih, Token.hashes]

theorem mem_holdsAll {t : Token} {ids : List BundleId} :
    t ∈ holdsAll ids ↔ ∃ id ∈ ids, t = .holds id := by
  induction ids with
  | nil => simp [holdsAll]
  | cons id ids ih => simp [holdsAll_cons, ih]

theorem holdsAll_le {ids ids' : List BundleId} (h : ids.Sublist ids') :
    holdsAll ids ≤ holdsAll ids' := by
  induction h with
  | slnil => exact le_refl _
  | cons id _ ih =>
    rw [holdsAll_cons]
    exact ih.trans (Multiset.le_add_left _ _)
  | cons_cons id _ ih =>
    rw [holdsAll_cons, holdsAll_cons]
    exact add_le_add_right ih _

theorem claimed_le {a b : Tokens} (h : a ≤ b) : claimed a ≤ claimed b := by
  obtain ⟨c, rfl⟩ := Multiset.le_iff_exists_add.mp h
  rw [claimed_add]
  exact Multiset.le_add_right _ _

theorem pending_le {a b : Tokens} (h : a ≤ b) : pending a ≤ pending b := by
  obtain ⟨c, rfl⟩ := Multiset.le_iff_exists_add.mp h
  rw [pending_add]
  exact Multiset.le_add_right _ _

theorem mem_claimed {id : BundleId} {t : Token} {r : Tokens} (ht : t ∈ r) (hid : id ∈ t.ids) :
    id ∈ claimed r :=
  Multiset.mem_bind.mpr ⟨t, ht, hid⟩

theorem mem_pending {hash : TxHash} {t : Token} {r : Tokens} (ht : t ∈ r) (h : hash ∈ t.hashes) :
    hash ∈ pending r :=
  Multiset.mem_bind.mpr ⟨t, ht, h⟩

/-! ## The invariant -/

/-- What a token says of the state. -/
def Token.Holds (s : State) : Token → Prop
  | .boot => s.memory.mempool.queued = [] ∧ s.memory.started = false
  | .booting => True
  | .judging id => s.Clear id ∨ s.Linked id
  | .holds id => s.Clear id
  | .sends hash => hash ∈ s.network.accepted ∧
      ∀ id, s.db.bundlesTransactions.find (id, hash) = none
  | .records hash ids rest => hash ∈ s.network.accepted ∧
      (∀ id ∈ ids, ∀ p ∈ outstanding s.history, id ∈ p.2 → p = (hash, ids)) ∧
      rest.Nodup ∧ ∀ id ∈ rest, id ∈ ids ∧ s.db.bundlesTransactions.find (id, hash) = none

/-- The bundles that are queued or with a task. -/
def occupied (s : State) (r : Tokens) : Multiset BundleId :=
  (s.memory.mempool.queuedIds : Multiset BundleId) + claimed r

/-- The tokens `r` together with the queue account for every bundle that may
still be submitted. -/
structure Custody (s : State) (r : Tokens) : Prop where
  once : (occupied s r).Nodup
  rows : ∀ id ∈ occupied s r, s.HasRow id
  sent : ∀ p ∈ outstanding s.history, ∀ id ∈ p.2, s.HasRow id
  clear : ∀ id ∈ s.memory.mempool.queuedIds, s.Clear id
  tokens : ∀ t ∈ r, t.Holds s
  hashes : (pending r).Nodup
  links : ∀ key row, s.db.bundlesTransactions.find key = some row → key.2 ∈ s.network.accepted
  alone : .boot ∈ r → r = {.boot}
  trace : NoDoubleSubmission s.history

section Custody
variable {s s' : State} {r a b f : Tokens} {id : BundleId} {hash : TxHash}

/-- A token other than the first says that the boot is over the first. -/
theorem Custody.not_boot (h : Custody s r) {t : Token} (ht : t ∈ r) (hne : t ≠ .boot) :
    .boot ∉ r := by
  intro hboot
  rw [h.alone hboot] at ht
  exact hne (Multiset.mem_singleton.mp ht)

theorem Custody.not_boot_of_started (h : Custody s r) (hs : s.memory.started = true) :
    .boot ∉ r := by
  intro hboot
  have hnot : s.memory.started = false := (h.tokens _ hboot).2
  rw [hs] at hnot
  cases hnot

/-- Tokens can be dropped. -/
theorem Custody.drop (h : Custody s r) (hle : a ≤ r) : Custody s a where
  once := Multiset.nodup_of_le (add_le_add_right (claimed_le hle) _) h.once
  rows id hid := h.rows id (Multiset.mem_of_le (add_le_add_right (claimed_le hle) _) hid)
  sent := h.sent
  clear := h.clear
  tokens t ht := h.tokens t (Multiset.mem_of_le hle ht)
  hashes := Multiset.nodup_of_le (pending_le hle) h.hashes
  links := h.links
  alone hboot := by
    have hr : r = {.boot} := h.alone (Multiset.mem_of_le hle hboot)
    rw [hr] at hle
    exact le_antisymm hle (Multiset.singleton_le.mpr hboot)
  trace := h.trace

/-- Tokens can be exchanged for others that name no more and hold as well. -/
theorem Custody.exchange (h : Custody s (a + f)) (hf : .boot ∉ f) (hids : claimed b ≤ claimed a)
    (hhash : pending b ≤ pending a) (hholds : ∀ t ∈ b, t.Holds s) (hb : .boot ∉ b) :
    Custody s (b + f) where
  once := by
    refine Multiset.nodup_of_le (add_le_add_right ?_ _) h.once
    rw [claimed_add, claimed_add]
    exact add_le_add_left hids _
  rows id hid := by
    refine h.rows id (Multiset.mem_of_le (add_le_add_right ?_ _) hid)
    rw [claimed_add, claimed_add]
    exact add_le_add_left hids _
  sent := h.sent
  clear := h.clear
  tokens t ht := by
    rcases Multiset.mem_add.mp ht with ht | ht
    · exact hholds t ht
    · exact h.tokens t (Multiset.mem_add.mpr (.inr ht))
  hashes := by
    refine Multiset.nodup_of_le ?_ h.hashes
    rw [pending_add, pending_add]
    exact add_le_add_left hhash _
  links := h.links
  alone hboot := by
    rcases Multiset.mem_add.mp hboot with hmem | hmem
    · exact absurd hmem hb
    · exact absurd hmem hf
  trace := h.trace

/-- A bundle that nobody has and that is of no outstanding transaction. -/
theorem Custody.gain (h : Custody s f) (hf : .boot ∉ f) (hnew : id ∉ occupied s f)
    (hrow : s.HasRow id) (hclear : s.Clear id) : Custody s ({.holds id} + f) where
  once := by
    have hcomm : occupied s ({.holds id} + f) = {id} + occupied s f := by
      simp only [occupied, claimed_add, claimed_singleton, Token.ids, Multiset.coe_singleton]
      exact add_left_comm _ _ _
    rw [hcomm]
    exact Multiset.nodup_cons.mpr ⟨hnew, h.once⟩
  rows id' hid' := by
    simp only [occupied, claimed_add, claimed_singleton, Token.ids, Multiset.coe_singleton,
      Multiset.mem_add, Multiset.mem_singleton] at hid'
    rcases hid' with hid' | rfl | hid'
    · exact h.rows id' (Multiset.mem_add.mpr (.inl hid'))
    · exact hrow
    · exact h.rows id' (Multiset.mem_add.mpr (.inr hid'))
  sent := h.sent
  clear := h.clear
  tokens t ht := by
    rcases Multiset.mem_add.mp ht with ht | ht
    · rw [Multiset.mem_singleton.mp ht]
      exact hclear
    · exact h.tokens t ht
  hashes := by simpa [Token.hashes] using h.hashes
  links := h.links
  alone hboot := by simp [hf] at hboot
  trace := h.trace

/-- Quiet changes keep what a token says. -/
theorem Token.Holds.quiet {t : Token} (h : t.Holds s) (hq : Quiet s s') : t.Holds s' := by
  cases t with
  | boot =>
    obtain ⟨hqueue, hstarted⟩ := h
    have hsub := hq.queued
    rw [hqueue] at hsub
    exact ⟨List.subperm_nil.mp hsub, hq.started.trans hstarted⟩
  | booting => trivial
  | judging id => exact h.imp hq.clear hq.linked
  | holds id => exact hq.clear h
  | sends hash => exact ⟨hq.accepted _ h.1, fun id => (hq.links _).trans (h.2 id)⟩
  | records hash ids rest =>
    obtain ⟨hacc, hown, hnodup, hrest⟩ := h
    refine ⟨hq.accepted _ hacc, fun id hid p hp => hown id hid p (hq.outstanding hp), hnodup, ?_⟩
    exact fun id hid => ⟨(hrest id hid).1, (hq.links _).trans (hrest id hid).2⟩

theorem Quiet.queuedIds (hq : Quiet s s') :
    (s'.memory.mempool.queuedIds : Multiset BundleId) ≤ s.memory.mempool.queuedIds :=
  Multiset.map_le_map (Multiset.coe_le.mpr hq.queued)

theorem Quiet.occupied (hq : Quiet s s') (r : Tokens) :
    ProviderPlatform.occupied s' r ≤ ProviderPlatform.occupied s r :=
  add_le_add_left hq.queuedIds _

/-- **Quiet changes keep custody.** The accepted hashes may grow, the links
do not. -/
theorem Custody.quiet (h : Custody s r) (hq : Quiet s s') : Custody s' r where
  once := Multiset.nodup_of_le (hq.occupied r) h.once
  rows id hid := hq.rows id (h.rows id (Multiset.mem_of_le (hq.occupied r) hid))
  sent p hp id hid := hq.rows id (h.sent p (hq.outstanding hp) id hid)
  clear id hid := hq.clear (h.clear id (Multiset.mem_of_le hq.queuedIds hid))
  tokens t ht := (h.tokens t ht).quiet hq
  hashes := h.hashes
  links key row hrow := hq.accepted _ (h.links key row ((hq.links key).symm.trans hrow))
  alone := h.alone
  trace := hq.trace h.trace

/-! ## Moves -/

/-- A token speaks of the database, the network and what is outstanding; only
the first also of the memory. -/
theorem Token.Holds.congr {t : Token} (h : t.Holds s) (ht : t ≠ .boot) (hdb : s'.db = s.db)
    (hnet : s'.network = s.network) (hout : outstanding s'.history = outstanding s.history) :
    t.Holds s' := by
  cases t with
  | boot => exact absurd rfl ht
  | booting => trivial
  | judging id | holds id | sends hash | records hash ids rest =>
    simpa only [Token.Holds, State.Clear, State.Linked, hdb, hnet, hout] using h

/-- The bundle joins the queue, or is lost with whatever it displaced. -/
theorem Custody.place {bundle : SlotBundle} (h : Custody s ({.holds bundle.bundleId} + f)) :
    Custody (runOp (.place bundle) s).2 f := by
  have hnot : .boot ∉ {.holds bundle.bundleId} + f := h.not_boot (t := .holds bundle.bundleId) (by simp) nofun
  have hle : ((runOp (.place bundle) s).2.memory.mempool.queuedIds : Multiset BundleId) ≤
      bundle.bundleId ::ₘ s.memory.mempool.queuedIds :=
    Multiset.map_le_map (Multiset.coe_le.mpr (Mempool.place_subperm s.memory.mempool bundle))
  have hocc : occupied (runOp (.place bundle) s).2 f ≤ occupied s ({.holds bundle.bundleId} + f) := by
    refine (add_le_add_left hle _).trans (le_of_eq ?_)
    rw [occupied, claimed_add, claimed_singleton, Token.ids, Multiset.coe_singleton,
      Multiset.cons_add, Multiset.singleton_add, Multiset.add_cons]
  refine ⟨Multiset.nodup_of_le hocc h.once, fun id hid => h.rows id (Multiset.mem_of_le hocc hid),
    h.sent, fun id hid => ?_, fun t ht => ?_, ?_, h.links, fun hboot => ?_, h.trace⟩
  · rcases Multiset.mem_cons.mp (Multiset.mem_of_le hle hid) with rfl | hid
    · exact h.tokens (.holds bundle.bundleId) (by simp)
    · exact h.clear id hid
  · have hmem : t ∈ {.holds bundle.bundleId} + f := Multiset.mem_add.mpr (.inr ht)
    exact (h.tokens t hmem).congr (fun he => hnot (he ▸ hmem)) rfl rfl rfl
  · simpa [Token.hashes] using h.hashes
  · exact absurd (Multiset.mem_add.mpr (.inr hboot)) hnot

/-- The bundles of the slot that is pulled go to the task that pulls it. -/
theorem Custody.pull {slot : Slot} (h : Custody s f)
    (hpull : s.memory.mempool.removeFirstSlot.1 = some slot) :
    Custody (runOp .removeFirstSlot s).2 (holdsAll (slot.bundles.map (·.bundleId)) + f) := by
  by_cases hf : .boot ∈ f
  · have hempty : s.memory.mempool.queued = [] := (h.tokens _ hf).1
    rw [Mempool.queued_of_removeFirstSlot hpull] at hempty
    rw [(List.append_eq_nil_iff.mp hempty).1]
    have hquiet : Op.removeFirstSlot.Quiet := trivial
    simpa [holdsAll] using h.quiet (runOp_quiet hquiet s)
  have hqueued : s.memory.mempool.queuedIds = slot.bundles.map (·.bundleId) ++
      (runOp .removeFirstSlot s).2.memory.mempool.queuedIds := by
    rw [Mempool.queuedIds, Mempool.queued_of_removeFirstSlot hpull, List.map_append]
    rfl
  have hocc : occupied (runOp .removeFirstSlot s).2 (holdsAll (slot.bundles.map (·.bundleId)) + f) =
      occupied s f := by
    rw [occupied, occupied, hqueued, claimed_add, claimed_holdsAll, ← Multiset.coe_add]
    rw [add_left_comm, add_assoc]
  have hmem {id : BundleId} (hid : id ∈ slot.bundles.map (·.bundleId)) :
      id ∈ s.memory.mempool.queuedIds := by
    rw [hqueued]
    exact List.mem_append_left _ hid
  refine ⟨hocc ▸ h.once, fun id hid => h.rows id (hocc ▸ hid), h.sent, fun id hid => ?_,
    fun t ht => ?_, by simpa using h.hashes, h.links, fun hboot => ?_, h.trace⟩
  · refine h.clear id ?_
    rw [hqueued]
    exact List.mem_append_right _ hid
  · rcases Multiset.mem_add.mp ht with ht | ht
    · obtain ⟨id, hid, rfl⟩ := mem_holdsAll.mp ht
      exact h.clear id (hmem hid)
    · exact (h.tokens t ht).congr (fun he => hf (he ▸ ht)) rfl rfl rfl
  · rcases Multiset.mem_add.mp hboot with hboot | hboot
    · obtain ⟨id, -, he⟩ := mem_holdsAll.mp hboot
      cases he
    · exact absurd hboot hf

/-- Bundles that may be submitted are handed to the network. -/
theorem Custody.handed {channel : ContractId} {pp : PublicKey} {bundles : List SlotBundle}
    (h : Custody s r) (hclear : ∀ b ∈ bundles, s.Clear b.bundleId) :
    Custody (runOp (.note (.handed channel pp bundles)) s).2 r := by
  have hout : outstanding (s.history ++ [.handed channel pp bundles]) = outstanding s.history :=
    outstanding_concat _ _
  refine ⟨h.once, h.rows, ?_, ?_, fun t ht => ?_, h.hashes, h.links, h.alone, ?_⟩
  · exact fun p hp id hid => h.sent p (hout ▸ hp) id hid
  · exact fun id hid p hp => h.clear id hid p (hout ▸ hp)
  · by_cases hboot : t = .boot
    · subst hboot
      exact h.tokens _ ht
    · exact (h.tokens t ht).congr hboot rfl rfl hout
  · refine h.trace.concat fun channel' pp' bundles' he => ?_
    cases he
    exact fun b hb => hclear b hb

/-- The submission returned the hash: the transaction is outstanding now, and
its bundles are with the task that records it. -/
theorem Custody.returned {ids : List BundleId}
    (h : Custody s (holdsAll ids + {.sends hash} + f)) :
    Custody (runOp (.note (.returned hash ids)) s).2 ({.records hash ids ids} + f) := by
  have hsends : Token.sends hash ∈ holdsAll ids + {.sends hash} + f := by simp
  have hnot : .boot ∉ holdsAll ids + {.sends hash} + f := h.not_boot hsends nofun
  have hout : outstanding (s.history ++ [.returned hash ids]) = (hash, ids) :: outstanding s.history :=
    outstanding_concat _ _
  have hids {id : BundleId} (hid : id ∈ ids) :
      .holds id ∈ holdsAll ids + {.sends hash} + f := by
    have hmem : .holds id ∈ holdsAll ids := mem_holdsAll.mpr ⟨id, hid, rfl⟩
    simp [hmem]
  have hocc : occupied s (holdsAll ids + {.sends hash} + f) =
      (ids : Multiset BundleId) + occupied s f := by
    simp only [occupied, claimed_add, claimed_holdsAll, claimed_singleton, Token.ids,
      Multiset.coe_nil, add_zero]
    exact add_left_comm _ _ _
  have hocc' : occupied s ({.records hash ids ids} + f) =
      occupied s (holdsAll ids + {.sends hash} + f) := by
    simp only [occupied, claimed_add, claimed_holdsAll, claimed_singleton, Token.ids,
      Multiset.coe_nil, add_zero]
  have hapart : ∀ id ∈ occupied s f, id ∉ ids := by
    have honce := h.once
    rw [hocc] at honce
    intro id hid hmem
    exact Multiset.disjoint_left.mp (Multiset.nodup_add.mp honce).2.2 hmem hid
  refine ⟨hocc' ▸ h.once, fun id hid => h.rows id (hocc' ▸ hid), ?_, ?_, fun t ht => ?_, ?_,
    h.links, fun hboot => ?_, h.trace.concat fun _ _ _ => nofun⟩
  · simp only [runOp, hout, List.forall_mem_cons]
    refine ⟨fun id hid => h.rows id ?_, h.sent⟩
    rw [hocc]
    exact Multiset.mem_add.mpr (.inl hid)
  · intro id hid
    simp only [runOp, State.Clear, hout, List.forall_mem_cons]
    exact ⟨hapart id (Multiset.mem_add.mpr (.inl hid)), h.clear id hid⟩
  · rcases Multiset.mem_add.mp ht with ht | ht
    · rw [Multiset.mem_singleton.mp ht]
      have hnodup : ids.Nodup := by
        have honce := h.once
        rw [hocc] at honce
        exact Multiset.coe_nodup.mp (Multiset.nodup_add.mp honce).1
      obtain ⟨hacc, hfresh⟩ := h.tokens _ hsends
      refine ⟨hacc, ?_, hnodup, fun id hid => ⟨hid, hfresh id⟩⟩
      simp only [runOp, hout, List.forall_mem_cons]
      exact fun id hid => ⟨fun _ => trivial, fun p hp hmem => absurd hmem (h.tokens _ (hids hid) p hp)⟩
    · have hmem : t ∈ holdsAll ids + {.sends hash} + f := Multiset.mem_add.mpr (.inr ht)
      have hclaim := h.tokens t hmem
      have hof {id : BundleId} (hid : id ∈ t.ids) : id ∉ ids :=
        hapart id (Multiset.mem_add.mpr (.inr (mem_claimed ht hid)))
      have hclear {id : BundleId} (hid : id ∈ t.ids) (hc : s.Clear id) :
          (runOp (.note (.returned hash ids)) s).2.Clear id := by
        simp only [runOp, State.Clear, hout, List.forall_mem_cons]
        exact ⟨hof hid, hc⟩
      cases t with
      | boot => exact absurd hmem hnot
      | booting => trivial
      | judging id => exact hclaim.imp_left (hclear (by simp [Token.ids]))
      | holds id => exact hclear (by simp [Token.ids]) hclaim
      | sends other => exact hclaim
      | records other others rest =>
        obtain ⟨hacc, hown, hrest⟩ := hclaim
        refine ⟨hacc, ?_, hrest⟩
        simp only [runOp, hout, List.forall_mem_cons]
        exact fun id hid => ⟨fun hmem => absurd hmem (hof hid), hown id hid⟩
  · simpa [Token.hashes] using h.hashes
  · rcases Multiset.mem_add.mp hboot with hboot | hboot
    · simp at hboot
    · exact absurd (Multiset.mem_add.mpr (.inr hboot)) hnot

/-- The mempool system has started: the boot is over. -/
theorem Custody.setStarted (h : Custody s ({.booting} + f)) : Custody (runOp .setStarted s).2 f := by
  have hnot : .boot ∉ {.booting} + f := h.not_boot (t := .booting) (by simp) nofun
  have hdrop : Custody s f := h.drop (Multiset.le_add_left _ _)
  refine ⟨hdrop.once, hdrop.rows, hdrop.sent, hdrop.clear, fun t ht => ?_, hdrop.hashes,
    hdrop.links, hdrop.alone, hdrop.trace⟩
  have hne : t ≠ .boot := fun he => hnot (he ▸ Multiset.mem_add.mpr (.inr ht))
  exact (hdrop.tokens t ht).congr hne rfl rfl rfl

/-- The network accepts a transaction under a new hash. -/
theorem Custody.accept (h : Custody s f) (hf : .boot ∉ f) (hnew : hash ∉ s.network.accepted)
    (hq : Quiet s s') (hacc : hash ∈ s'.network.accepted) : Custody s' ({.sends hash} + f) := by
  have h' := h.quiet hq
  have hunused : hash ∉ pending f := by
    intro hmem
    obtain ⟨t, ht, hmem⟩ := Multiset.mem_bind.mp hmem
    have hclaim := h.tokens t ht
    cases t with
    | sends other =>
      rw [List.mem_singleton.mp hmem] at hnew
      exact hnew hclaim.1
    | records other ids rest =>
      rw [List.mem_singleton.mp hmem] at hnew
      exact hnew hclaim.1
    | _ => simp [Token.hashes] at hmem
  have hsame : occupied s' ({.sends hash} + f) = occupied s' f := by simp [occupied, Token.ids]
  refine ⟨hsame ▸ h'.once, fun id hid => h'.rows id (hsame ▸ hid), h'.sent, h'.clear,
    fun t ht => ?_, ?_, h'.links, fun hboot => ?_, h'.trace⟩
  · rcases Multiset.mem_add.mp ht with ht | ht
    · rw [Multiset.mem_singleton.mp ht]
      refine ⟨hacc, fun id => ?_⟩
      rw [hq.links]
      by_contra hsome
      obtain ⟨row, hrow⟩ := Option.ne_none_iff_exists'.mp hsome
      exact hnew (h.links _ row hrow)
    · exact h'.tokens t ht
  · simpa [Token.hashes, hunused] using h'.hashes
  · simp [hf] at hboot

/-- The task that records a transaction links one of its bundles. -/
theorem Custody.link {ids rest : List BundleId} {row : BundleTransaction}
    (h : Custody s ({.records hash ids (id :: rest)} + f))
    (hkey : row.key = (id, hash)) (hdb : s'.db = { s.db with
      bundlesTransactions := s'.db.bundlesTransactions })
    (hfind : ∀ key, s'.db.bundlesTransactions.find key =
      if row.key = key then some row else s.db.bundlesTransactions.find key)
    (hnet : s'.network = s.network) (hhist : s'.history = s.history)
    (hmem : s'.memory = s.memory) : Custody s' ({.records hash ids rest} + f) := by
  have hown : Token.records hash ids (id :: rest) ∈ {.records hash ids (id :: rest)} + f := by simp
  have hnot : .boot ∉ {.records hash ids (id :: rest)} + f := h.not_boot hown nofun
  obtain ⟨hacc, hsole, hnodup, hrest⟩ := h.tokens _ hown
  have hrows (i : BundleId) : s'.HasRow i ↔ s.HasRow i := by
    unfold State.HasRow
    rw [hdb]
  have hclear (i : BundleId) : s'.Clear i ↔ s.Clear i := by
    unfold State.Clear
    rw [hhist]
  have hkeep {key : BundleId × TxHash} (hne : key ≠ (id, hash)) :
      s'.db.bundlesTransactions.find key = s.db.bundlesTransactions.find key := by
    rw [hfind, if_neg (fun he => hne (he.symm.trans hkey))]
  have hlinked {i : BundleId} (hl : s.Linked i) : s'.Linked i := by
    obtain ⟨key, old, hold, hlive⟩ := State.linked_iff.mp hl
    refine State.linked_iff.mpr ⟨key, old, ?_, hlive⟩
    rw [hkeep, hold]
    rintro rfl
    rw [(hrest id (by simp)).2] at hold
    cases hold
  have hsame : occupied s' ({.records hash ids rest} + f) =
      occupied s ({.records hash ids (id :: rest)} + f) := by
    simp [occupied, Token.ids, hmem]
  have hothers : hash ∉ pending f := by
    have hhashes := h.hashes
    rw [pending_add, pending_singleton, Token.hashes, Multiset.coe_singleton,
      Multiset.singleton_add] at hhashes
    exact (Multiset.nodup_cons.mp hhashes).1
  refine ⟨hsame ▸ h.once, fun i hi => (hrows i).mpr (h.rows i (hsame ▸ hi)), fun p hp i hi => ?_,
    fun i hi => (hclear i).mpr (h.clear i (hmem ▸ hi)), fun t ht => ?_, ?_, fun key old hold => ?_,
    fun hboot => ?_, hhist ▸ h.trace⟩
  · exact (hrows i).mpr (h.sent p (hhist ▸ hp) i hi)
  · rcases Multiset.mem_add.mp ht with ht | ht
    · rw [Multiset.mem_singleton.mp ht]
      obtain ⟨hid, hnodup⟩ := List.nodup_cons.mp hnodup
      refine ⟨hnet ▸ hacc, fun i hi p hp => hsole i hi p (hhist ▸ hp), hnodup, fun i hi => ?_⟩
      obtain ⟨hmemids, hnone⟩ := hrest i (List.mem_cons_of_mem _ hi)
      refine ⟨hmemids, (hkeep fun he => ?_).trans hnone⟩
      cases he
      exact hid hi
    · have hmemt : t ∈ {.records hash ids (id :: rest)} + f := Multiset.mem_add.mpr (.inr ht)
      have hclaim := h.tokens t hmemt
      have hother {other : TxHash} (ho : other ∈ t.hashes) (i : BundleId) : (i, other) ≠ (id, hash) := by
        intro he
        cases he
        exact hothers (mem_pending ht ho)
      cases t with
      | boot => exact absurd hmemt hnot
      | booting => trivial
      | judging i => exact hclaim.imp (hclear i).mpr hlinked
      | holds i => exact (hclear i).mpr hclaim
      | sends other =>
        exact ⟨hnet ▸ hclaim.1, fun i => (hkeep (hother (by simp [Token.hashes]) i)).trans (hclaim.2 i)⟩
      | records other others left =>
        obtain ⟨hacc', hsole', hnodup', hrest'⟩ := hclaim
        refine ⟨hnet ▸ hacc', fun i hi p hp => hsole' i hi p (hhist ▸ hp), hnodup', fun i hi => ?_⟩
        exact ⟨(hrest' i hi).1, (hkeep (hother (by simp [Token.hashes]) i)).trans (hrest' i hi).2⟩
  · simpa [Token.hashes] using h.hashes
  · rw [hnet]
    by_cases hk : key = (id, hash)
    · rw [hk]
      exact hacc
    · rw [hkeep hk] at hold
      exact h.links key old hold
  · rcases Multiset.mem_add.mp hboot with hboot | hboot
    · simp at hboot
    · exact absurd (Multiset.mem_add.mpr (.inr hboot)) hnot

/-- If every outstanding transaction is recorded, one that still lacks a link
is not outstanding, and its bundles may be submitted again. -/
theorem Custody.giveBack {ids rest : List BundleId}
    (h : Custody s ({.records hash ids (id :: rest)} + f)) (hrec : s.Recorded) :
    Custody s (holdsAll ids + f) := by
  have hown : Token.records hash ids (id :: rest) ∈ {.records hash ids (id :: rest)} + f := by simp
  have hnot : .boot ∉ {.records hash ids (id :: rest)} + f := h.not_boot hown nofun
  obtain ⟨-, hsole, -, hrest⟩ := h.tokens _ hown
  obtain ⟨hid, hnone⟩ := hrest id (by simp)
  have hclear : ∀ i ∈ ids, s.Clear i := by
    intro i hi p hp hmem
    have hp' : p = (hash, ids) := hsole i hi p hp hmem
    subst hp'
    have hlink := hrec _ hp id hid
    rw [hnone] at hlink
    cases hlink
  refine h.exchange (fun hmem => hnot (Multiset.mem_add.mpr (.inr hmem))) (by simp [Token.ids])
    (by rw [pending_holdsAll]; exact Multiset.zero_le _) (fun t ht => ?_) fun hboot => ?_
  · obtain ⟨i, hi, rfl⟩ := mem_holdsAll.mp ht
    exact hclear i hi
  · obtain ⟨i, -, he⟩ := mem_holdsAll.mp hboot
    cases he

/-! ## The boot -/

/-- What the boot owns for a row it read. -/
def rowToken (row : OperationsBundle) : Token :=
  if row.status = .processing then .judging row.id else .holds row.id

theorem rowToken_ids (row : OperationsBundle) : (rowToken row).ids = [row.id] := by
  unfold rowToken
  split <;> rfl

theorem rowToken_hashes (row : OperationsBundle) : (rowToken row).hashes = [] := by
  unfold rowToken
  split <;> rfl

theorem claimed_rowTokens (rows : List OperationsBundle) :
    claimed (rows.map fun row => ({rowToken row} : Tokens)).sum = (rows.map (·.id) : List BundleId) := by
  induction rows with
  | nil => rfl
  | cons row rows ih =>
    rw [List.map_cons, List.sum_cons, claimed_add, claimed_singleton, rowToken_ids, ih]
    rfl

theorem pending_rowTokens (rows : List OperationsBundle) :
    pending (rows.map fun row => ({rowToken row} : Tokens)).sum = 0 := by
  induction rows with
  | nil => rfl
  | cons row rows ih =>
    rw [List.map_cons, List.sum_cons, pending_add, pending_singleton, rowToken_hashes, ih]
    rfl

theorem mem_rowTokens {t : Token} {rows : List OperationsBundle} :
    t ∈ (rows.map fun row => ({rowToken row} : Tokens)).sum ↔ ∃ row ∈ rows, t = rowToken row := by
  induction rows with
  | nil => simp
  | cons row rows ih => simp [ih]

/-- The boot reads the rows while nobody has any bundle. -/
theorem Custody.hydrate (h : Custody s ({.boot} + f)) (hs : s.Hydratable) :
    Custody s ({.booting} +
      ((Query.findPendingOrProcessing.run s.db).map fun row => ({rowToken row} : Tokens)).sum + f) := by
  have hboot : .boot ∈ {.boot} + f := by simp
  have hf : f = 0 := by
    have halone := h.alone hboot
    rwa [add_eq_left] at halone
  subst hf
  obtain ⟨hempty, -⟩ := h.tokens _ hboot
  have hnone : s.memory.mempool.queuedIds = [] := by rw [Mempool.queuedIds, hempty, List.map_nil]
  have hocc : occupied s ({.booting} +
      ((Query.findPendingOrProcessing.run s.db).map fun row => ({rowToken row} : Tokens)).sum + 0) =
      ((Query.findPendingOrProcessing.run s.db).map (·.id) : List BundleId) := by
    rw [occupied, hnone, add_zero, claimed_add, claimed_rowTokens]
    rfl
  refine ⟨?_, fun id hid => ?_, h.sent, h.clear, fun t ht => ?_, ?_, h.links, fun hmem => ?_, h.trace⟩
  · rw [hocc]
    exact Multiset.coe_nodup.mpr (Table.select_nodup _ _)
  · rw [hocc] at hid
    obtain ⟨row, hrow, rfl⟩ := List.mem_map.mp (Multiset.mem_coe.mp hid)
    exact Option.isSome_of_eq_some (Table.find_of_mem (Table.mem_select.mp hrow).1)
  · rw [add_zero, Multiset.mem_add, Multiset.mem_singleton, mem_rowTokens] at ht
    rcases ht with rfl | ⟨row, hrow, rfl⟩
    · trivial
    · unfold rowToken
      rcases hs row hrow with hclear | ⟨hproc, hlinked⟩
      · split
        · exact .inl hclear
        · exact hclear
      · rw [if_pos hproc]
        exact .inr hlinked
  · rw [add_zero, pending_add, pending_rowTokens, pending_singleton]
    exact Multiset.nodup_zero
  · rw [add_zero, Multiset.mem_add, Multiset.mem_singleton, mem_rowTokens] at hmem
    rcases hmem with he | ⟨row, -, he⟩
    · cases he
    · unfold rowToken at he
      split at he <;> cases he

/-- A process starts on whatever a crash left. -/
theorem Custody.reboot (h : Custody s r) (cfg : Config) :
    Custody (ProviderPlatform.reboot cfg s) {.boot} where
  once := Multiset.nodup_zero
  rows id hid := by simp [occupied, ProviderPlatform.reboot, Memory.boot, Mempool.queuedIds,
    Mempool.queued, Mempool.new, Token.ids] at hid
  sent := h.sent
  clear id hid := by simp [ProviderPlatform.reboot, Memory.boot, Mempool.queuedIds, Mempool.queued,
    Mempool.new] at hid
  tokens t ht := by
    rw [Multiset.mem_singleton.mp ht]
    exact ⟨rfl, rfl⟩
  hashes := Multiset.nodup_zero
  links := h.links
  alone _ := rfl
  trace := h.trace

theorem Fresh.custody {cfg : Config} (h : Fresh cfg s) : Custody s {.boot} := by
  have hqueue : s.memory.mempool.queuedIds = [] := by rw [h.memory]; rfl
  have hout : outstanding s.history = [] := by rw [h.history]; rfl
  have hocc : occupied s {.boot} = 0 := by rw [occupied, hqueue]; rfl
  refine ⟨by rw [hocc]; exact Multiset.nodup_zero, fun id hid => ?_, fun p hp => ?_, fun id hid => ?_,
    fun t ht => ?_, Multiset.nodup_zero, fun key row hrow => ?_, fun _ => rfl, ?_⟩
  · simp [hocc] at hid
  · simp [hout] at hp
  · simp [hqueue] at hid
  · rw [Multiset.mem_singleton.mp ht]
    refine ⟨?_, ?_⟩ <;> rw [h.memory] <;> rfl
  · have hmem := Table.find_mem hrow
    simp [h.links] at hmem
  · intro before after channel pp bundles hsplit
    simp [h.history] at hsplit

end Custody

end ProviderPlatform
