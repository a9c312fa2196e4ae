import ProviderPlatform.Async.Observer
import ProviderPlatform.Lifecycle.Outstanding
import Mathlib.Algebra.Order.Group.Multiset
import Mathlib.Data.Multiset.Bind

/-! # Who holds a bundle

A bundle enters the queue of a process through the task that inserted its row
or through the boot, and comes back to it through the tick that pulled it. So a
task owns every bundle that it may queue, and the queue and the tasks never
have a bundle twice. One tick runs at a time, and it puts back only what it
pulled: what a tick leaves out stays out. -/
namespace ProviderPlatform
open Async Store

/-! ## What is kept of a run -/

/-- What the ticks of a process did to the bundles. -/
structure Ticks where
  /-- The bundles of the slot in flight: those that the running tick pulled and
  has not placed again. -/
  out : List BundleId
  /-- The bundles that a tick had still out when it ended. -/
  dropped : List BundleId
  /-- One entry for each tick that pulled the bundle, since its last admission. -/
  attempts : List BundleId
  /-- The bundles whose transaction the verifier failed. -/
  verifierFailed : List BundleId

/-- The ids of the bundles in the first slot. -/
def State.firstIds (s : State) : List BundleId :=
  (s.memory.mempool.removeFirstSlot.1.map fun slot => slot.bundles.map (·.bundleId)).getD []

namespace Ticks

def onOp (l : Call) (s : State) (o : Op) (m : Ticks) : Ticks :=
  match o with
  | .removeFirstSlot =>
    { m with out := s.firstIds ++ m.out, attempts := s.firstIds ++ m.attempts }
  | .place bundle =>
    if l = .executeNext then { m with out := m.out.erase bundle.bundleId } else m
  | .setProcessing false => { m with out := [], dropped := m.out ++ m.dropped }
  | _ => m

def onServe (l : Call) (q : Req) (m : Ticks) : Ticks :=
  match q with
  | .command (.updateBundle id data) =>
    match l, data.status with
    | .addOperationsBundle _, some .pending => { m with attempts := m.attempts.filter (· != id) }
    | .verifyTransactions, some .failed => { m with verifierFailed := id :: m.verifierFailed }
    | _, _ => m
  | _ => m

/-- A process starts with nothing pulled. -/
def restart (m : Ticks) : Ticks := { m with out := [], dropped := [], attempts := [] }

/-- What ticks have pulled and not placed again. -/
def pulled (m : Ticks) : List BundleId := m.out ++ m.dropped

end Ticks

def ticks : Observer platform State Call Ticks where
  onOp := Ticks.onOp
  onServe l _ q m := Ticks.onServe l q m
  onCrash := Ticks.restart

/-! ## What a task owns -/

/-- The boot before and after it read the rows; the running tick, with what it
has out; an admission that inserted its row; a bundle that an admission or the
boot may queue; and a bundle that a tick pulled, with the retry count that was
read for it, ready to be queued again, or with nothing left to do. -/
inductive Hold
  | boot
  | booting
  | running (out : List BundleId)
  | accepted (id : BundleId)
  | fresh (id : BundleId)
  | taken (id : BundleId)
  | reads (id : BundleId) (retryCount : Nat)
  | ready (id : BundleId)
  | spent (id : BundleId)

abbrev Holds := Multiset Hold

/-- The bundle that a task has. -/
def Hold.ids : Hold → List BundleId
  | .fresh id | .taken id | .reads id _ | .ready id | .spent id => [id]
  | _ => []

/-- The bundle, if a tick pulled it. -/
def Hold.pulledIds : Hold → List BundleId
  | .taken id | .reads id _ | .ready id | .spent id => [id]
  | _ => []

def Hold.acceptedIds : Hold → List BundleId
  | .accepted id => [id]
  | _ => []

def Hold.runningIds : Hold → List (List BundleId)
  | .running out => [out]
  | _ => []

def held (r : Holds) : Multiset BundleId := r.bind fun t => t.ids
def pulled (r : Holds) : Multiset BundleId := r.bind fun t => t.pulledIds
def accepted (r : Holds) : Multiset BundleId := r.bind fun t => t.acceptedIds
def running (r : Holds) : Multiset (List BundleId) := r.bind fun t => t.runningIds

section Ids
variable {t : Hold} {a b r : Holds} {id : BundleId}

@[simp] theorem held_zero : held 0 = 0 := rfl
@[simp] theorem pulled_zero : pulled 0 = 0 := rfl
@[simp] theorem accepted_zero : accepted 0 = 0 := rfl
@[simp] theorem running_zero : running 0 = 0 := rfl
@[simp] theorem held_add (a b : Holds) : held (a + b) = held a + held b := Multiset.add_bind ..
@[simp] theorem pulled_add (a b : Holds) : pulled (a + b) = pulled a + pulled b :=
  Multiset.add_bind ..
@[simp] theorem accepted_add (a b : Holds) : accepted (a + b) = accepted a + accepted b :=
  Multiset.add_bind ..
@[simp] theorem running_add (a b : Holds) : running (a + b) = running a + running b :=
  Multiset.add_bind ..
@[simp] theorem held_singleton (t : Hold) : held {t} = t.ids := Multiset.singleton_bind ..
@[simp] theorem pulled_singleton (t : Hold) : pulled {t} = t.pulledIds :=
  Multiset.singleton_bind ..
@[simp] theorem accepted_singleton (t : Hold) : accepted {t} = t.acceptedIds :=
  Multiset.singleton_bind ..
@[simp] theorem running_singleton (t : Hold) : running {t} = t.runningIds :=
  Multiset.singleton_bind ..

@[simp] theorem held_cons (t : Hold) (r : Holds) : held (t ::ₘ r) = t.ids + held r :=
  Multiset.cons_bind ..
@[simp] theorem pulled_cons (t : Hold) (r : Holds) : pulled (t ::ₘ r) = t.pulledIds + pulled r :=
  Multiset.cons_bind ..
@[simp] theorem accepted_cons (t : Hold) (r : Holds) :
    accepted (t ::ₘ r) = t.acceptedIds + accepted r := Multiset.cons_bind ..
@[simp] theorem running_cons (t : Hold) (r : Holds) :
    running (t ::ₘ r) = t.runningIds + running r := Multiset.cons_bind ..

theorem mem_held (ht : t ∈ r) (hid : id ∈ t.ids) : id ∈ held r := Multiset.mem_bind.mpr ⟨t, ht, hid⟩

/-- One token for each of some bundles. -/
def each (f : BundleId → Hold) (ids : List BundleId) : Holds := (ids.map f : List Hold)

@[simp] theorem each_nil (f : BundleId → Hold) : each f [] = 0 := rfl
@[simp] theorem each_cons (f : BundleId → Hold) (id : BundleId) (ids : List BundleId) :
    each f (id :: ids) = {f id} + each f ids := rfl

@[simp] theorem mem_each {f : BundleId → Hold} {ids : List BundleId} :
    t ∈ each f ids ↔ ∃ id ∈ ids, f id = t := by
  simp [each]

theorem each_le {f : BundleId → Hold} {ids ids' : List BundleId} (h : ids.Subperm ids') :
    each f ids ≤ each f ids' :=
  Multiset.map_le_map (Multiset.coe_le.mpr h)

theorem sum_each {β : Type} (f : BundleId → Hold) (g : β → BundleId) (xs : List β) :
    (xs.map fun x => ({f (g x)} : Holds)).sum = each f (xs.map g) := by
  induction xs with
  | nil => rfl
  | cons x xs ih => rw [List.map_cons, List.sum_cons, ih, List.map_cons, each_cons]

theorem bind_each {g : Hold → List BundleId} {f : BundleId → Hold} (hg : ∀ id, g (f id) = [id])
    (ids : List BundleId) : ((each f ids).bind fun t => (g t : Multiset BundleId)) = ids := by
  induction ids with
  | nil => rfl
  | cons id ids ih =>
    rw [each_cons, Multiset.add_bind, ih, Multiset.singleton_bind, hg]
    rfl

theorem bind_each_nil {g : Hold → List BundleId} {f : BundleId → Hold} (hg : ∀ id, g (f id) = [])
    (ids : List BundleId) : ((each f ids).bind fun t => (g t : Multiset BundleId)) = 0 := by
  induction ids with
  | nil => rfl
  | cons id ids ih =>
    rw [each_cons, Multiset.add_bind, ih, Multiset.singleton_bind, hg]
    rfl

theorem running_each {f : BundleId → Hold} (hf : ∀ id, (f id).runningIds = [])
    (ids : List BundleId) : running (each f ids) = 0 := by
  induction ids with
  | nil => rfl
  | cons id ids ih => rw [each_cons, running_add, running_singleton, hf, ih]; rfl

theorem acceptedIds_of_ids (h : t.ids = [id]) : t.acceptedIds = [] := by
  cases t with
  | accepted id => cases h
  | _ => rfl

theorem runningIds_of_ids (h : t.ids = [id]) : t.runningIds = [] := by
  cases t with
  | running out => cases h
  | _ => rfl

theorem ne_boot_of_ids (h : t.ids = [id]) : t ≠ .boot := by
  rintro rfl
  cases h

theorem pulled_le_held (r : Holds) : pulled r ≤ held r := by
  induction r using Multiset.induction_on with
  | empty => exact le_refl _
  | cons t r ih =>
    rw [← Multiset.singleton_add, pulled_add, held_add, pulled_singleton, held_singleton]
    apply add_le_add ?_ ih
    cases t <;> first | exact le_refl _ | exact Multiset.zero_le _

end Ids

/-! ## The invariant -/

/-- The bundles that are queued or with a task. -/
def State.occupied (s : State) (r : Holds) : Multiset BundleId :=
  (s.memory.mempool.queuedIds : Multiset BundleId) + held r

/-- The queue and the tokens `r` have no bundle twice, every bundle that was
pulled and not placed again is with the task of a tick, and the running tick
knows which are out. -/
structure Holding (s : State) (m : Ticks) (r : Holds) : Prop where
  once : (s.occupied r).Nodup
  rows : ∀ id ∈ s.occupied r, s.HasRow id
  out : (m.pulled : Multiset BundleId) ≤ pulled r
  tick : running r = if s.memory.isProcessing then {m.out} else 0
  acceptedOnce : (accepted r).Nodup
  acceptedRows : ∀ id ∈ accepted r, s.HasRow id
  attempted : ∀ id ∈ m.attempts, s.HasRow id
  boot : .boot ∈ r → r = {.boot} ∧ s.memory.mempool.queued = [] ∧
    s.memory.started = false ∧ m.attempts = []

/-- Nothing joins the queue, no row is lost, the system has started as before,
and a tick runs if one ran. -/
structure Still (s s' : State) : Prop where
  queued : s'.memory.mempool.queued.Subperm s.memory.mempool.queued
  rows : ∀ id, s.HasRow id → s'.HasRow id
  started : s'.memory.started = s.memory.started
  processing : s'.memory.isProcessing = s.memory.isProcessing

/-- Operations that put nothing into the queue, and neither start nor end a tick. -/
def Op.Still : Op → Prop
  | .place _ | .setStarted | .setProcessing _ => False
  | _ => True

theorem runOp_still {o : Op} (ho : o.Still) (s : State) : Still s (runOp o s).2 where
  queued := (runOp_queued (fun bundle he => by rw [he] at ho; exact ho) s).subperm
  rows id h := by rwa [State.HasRow, runOp_db]
  started := by cases o <;> first | rfl | exact ho.elim
  processing := by cases o <;> first | rfl | exact ho.elim

theorem serve_still (q : Req) (s : State) : Still s (serve q s).2 where
  queued := by cases q <;> exact .refl _
  rows id h := by
    cases q with
    | command w => exact w.run_keeps_bundle s.clock h
    | _ => exact h
  started := by cases q <;> rfl
  processing := by cases q <;> rfl

theorem drift_still (d : Drift) (s : State) : Still s (drift d s) where
  queued := by rw [drift_mempool]
  rows id h := by rwa [State.HasRow, (drift_agrees d s).bundles]
  started := drift_started d s
  processing := by cases d <;> rfl

section Moves
variable {s s' : State} {m m' : Ticks} {r a b f : Holds} {id : BundleId}

theorem Still.queuedIds (h : Still s s') :
    (s'.memory.mempool.queuedIds : Multiset BundleId) ≤ s.memory.mempool.queuedIds :=
  Multiset.map_le_map (Multiset.coe_le.mpr h.queued)

theorem Still.occupied (h : Still s s') (r : Holds) : s'.occupied r ≤ s.occupied r :=
  add_le_add_left h.queuedIds _

/-- A token other than the first says that the boot is over the first. -/
theorem Holding.not_boot (h : Holding s m r) {t : Hold} (ht : t ∈ r) (hne : t ≠ .boot) :
    .boot ∉ r := by
  intro hboot
  rw [(h.boot hboot).1] at ht
  exact hne (Multiset.mem_singleton.mp ht)

theorem Holding.not_boot_of_started (h : Holding s m r) (hs : s.memory.started = true) :
    .boot ∉ r := by
  intro hboot
  have hnot := (h.boot hboot).2.2.1
  rw [hs] at hnot
  cases hnot

/-- The running tick is the only one. -/
theorem Holding.runs {out : List BundleId} (h : Holding s m ({.running out} + f)) :
    s.memory.isProcessing = true ∧ m.out = out ∧ running f = 0 := by
  have hrunning := h.tick
  rw [running_add, running_singleton, Hold.runningIds, Multiset.coe_singleton,
    Multiset.singleton_add] at hrunning
  split at hrunning
  · rename_i hprocessing
    rw [← Multiset.cons_zero, Multiset.cons_eq_cons] at hrunning
    rcases hrunning with ⟨hout, hf⟩ | ⟨-, g, -, hg⟩
    · exact ⟨hprocessing, hout.symm, hf⟩
    · exact absurd hg.symm Multiset.cons_ne_zero
  · exact absurd hrunning Multiset.cons_ne_zero

theorem Holding.still (h : Holding s m r) (hs : Still s s') (hout : m'.out = m.out)
    (hdropped : m'.dropped = m.dropped) (hattempts : m'.attempts ⊆ m.attempts) :
    Holding s' m' r where
  once := Multiset.nodup_of_le (hs.occupied r) h.once
  rows id hid := hs.rows id (h.rows id (Multiset.mem_of_le (hs.occupied r) hid))
  out := by
    rw [Ticks.pulled, hout, hdropped]
    exact h.out
  tick := by
    rw [hs.processing, hout]
    exact h.tick
  acceptedOnce := h.acceptedOnce
  acceptedRows id hid := hs.rows id (h.acceptedRows id hid)
  attempted id hid := hs.rows id (h.attempted id (hattempts hid))
  boot hboot := by
    obtain ⟨hr, hqueue, hstarted, hnone⟩ := h.boot hboot
    have hsub := hs.queued
    rw [hqueue] at hsub
    rw [hnone] at hattempts
    exact ⟨hr, List.subperm_nil.mp hsub, hs.started.trans hstarted,
      List.subset_nil.mp hattempts⟩

/-- Tokens can be exchanged for others of the same bundles. -/
theorem Holding.exchange (h : Holding s m (a + f)) (hf : .boot ∉ f) (hids : held b = held a)
    (hpulled : pulled b = pulled a) (haccepted : accepted b = accepted a)
    (hrunning : running b = running a) (hb : .boot ∉ b) : Holding s m (b + f) := by
  have hocc : s.occupied (b + f) = s.occupied (a + f) := by
    simp only [State.occupied, held_add, hids]
  refine ⟨hocc ▸ h.once, fun id hid => h.rows id (hocc ▸ hid), ?_, ?_, ?_, ?_, h.attempted, ?_⟩
  · rw [pulled_add, hpulled, ← pulled_add]
    exact h.out
  · rw [running_add, hrunning, ← running_add]
    exact h.tick
  · rw [accepted_add, haccepted, ← accepted_add]
    exact h.acceptedOnce
  · rw [accepted_add, haccepted, ← accepted_add]
    exact h.acceptedRows
  · intro hboot
    simp [hb, hf] at hboot

/-- The bundle joins the queue, or is lost with whatever it displaced. -/
theorem Holding.place {bundle : SlotBundle} {t : Hold} {g : Holds} (h : Holding s m ({t} + f))
    (hids : t.ids = [bundle.bundleId]) (hheld : held g = held f)
    (haccepted : accepted g = accepted f) (hboot : .boot ∈ g → .boot ∈ f)
    (hpulled : (m'.pulled : Multiset BundleId) ≤ pulled g)
    (hrunning : running g = if s.memory.isProcessing then {m'.out} else 0)
    (hattempts : m'.attempts = m.attempts) : Holding (runOp (.place bundle) s).2 m' g := by
  have hnot : .boot ∉ {t} + f := h.not_boot (t := t) (by simp) (ne_boot_of_ids hids)
  have hle : ((runOp (.place bundle) s).2.memory.mempool.queuedIds : Multiset BundleId) ≤
      bundle.bundleId ::ₘ s.memory.mempool.queuedIds :=
    Multiset.map_le_map (Multiset.coe_le.mpr (Mempool.place_subperm s.memory.mempool bundle))
  have hocc : (runOp (.place bundle) s).2.occupied g ≤ s.occupied ({t} + f) := by
    apply (add_le_add_left hle _).trans (le_of_eq ?_)
    rw [hheld, State.occupied, held_add, held_singleton, hids, Multiset.coe_singleton,
      Multiset.cons_add, Multiset.singleton_add, Multiset.add_cons]
  have hacc : accepted ({t} + f) = accepted g := by
    rw [accepted_add, accepted_singleton, acceptedIds_of_ids hids, Multiset.coe_nil, zero_add,
      haccepted]
  refine ⟨Multiset.nodup_of_le hocc h.once, fun id hid => h.rows id (Multiset.mem_of_le hocc hid),
    hpulled, hrunning, hacc ▸ h.acceptedOnce, hacc ▸ h.acceptedRows, ?_, ?_⟩
  · rw [hattempts]
    exact h.attempted
  · exact fun hmem => absurd (Multiset.mem_add.mpr (.inr (hboot hmem))) hnot

/-- The running tick puts back a bundle that it has out. -/
theorem Holding.putBack {bundle : SlotBundle} {out : List BundleId}
    (h : Holding s m ({.running out} + {.ready bundle.bundleId} + f))
    (hmem : bundle.bundleId ∈ out) :
    Holding (runOp (.place bundle) s).2 { m with out := m.out.erase bundle.bundleId }
      ({.running (out.erase bundle.bundleId)} + f) := by
  rw [add_assoc] at h
  obtain ⟨hprocessing, rfl, hnone⟩ := h.runs
  rw [add_left_comm] at h
  apply h.place rfl
  · simp [Hold.ids]
  · simp [Hold.acceptedIds]
  · simp
  · have hle := h.out
    rw [pulled_add, pulled_singleton, pulled_add, pulled_singleton] at hle
    rw [pulled_add, pulled_singleton, Ticks.pulled, ← List.erase_append_left _ hmem,
      ← Multiset.coe_erase]
    exact Multiset.erase_le_iff_le_cons.mpr hle
  · have hf : running f = 0 := by simpa [Hold.runningIds] using hnone
    rw [hprocessing, running_add, running_singleton, hf]
    rfl
  · rfl

theorem queuedIds_pull (s : State) : s.memory.mempool.queuedIds =
    s.firstIds ++ (runOp .removeFirstSlot s).2.memory.mempool.queuedIds := by
  unfold State.firstIds
  cases hpull : s.memory.mempool.removeFirstSlot.1 with
  | none =>
    simp only [runOp, State.withMempool_mempool]
    unfold Mempool.removeFirstSlot at hpull ⊢
    split at hpull
    · rename_i hslots
      simp
    · cases hpull
  | some slot =>
    rw [Mempool.queuedIds, Mempool.queued_of_removeFirstSlot hpull, List.map_append]
    rfl

/-- A tick starts unless one is running. -/
theorem Holding.start (h : Holding s m f) (hidle : s.memory.isProcessing = false)
    (hstarted : s.memory.started = true) :
    Holding (runOp (.setProcessing true) s).2 m ({.running m.out} + f) := by
  have hnot : .boot ∉ f := h.not_boot_of_started hstarted
  have hnone : running f = 0 := by
    rw [h.tick, hidle]
    rfl
  have hocc : (runOp (.setProcessing true) s).2.occupied ({.running m.out} + f) = s.occupied f := by
    rw [State.occupied, held_add, held_singleton]
    exact congrArg _ (zero_add _)
  have hacc : accepted ({.running m.out} + f) = accepted f := by simp [Hold.acceptedIds]
  refine ⟨hocc ▸ h.once, fun id hid => h.rows id (hocc ▸ hid), ?_, ?_, hacc ▸ h.acceptedOnce,
    hacc ▸ h.acceptedRows, h.attempted, ?_⟩
  · rw [pulled_add, pulled_singleton]
    exact h.out.trans (le_of_eq (zero_add _).symm)
  · rw [running_add, hnone]
    rfl
  · intro hboot
    simp [hnot] at hboot

/-- What a tick that ends still has out is dropped. -/
theorem Holding.stop {out : List BundleId} (h : Holding s m ({.running out} + f)) :
    Holding (runOp (.setProcessing false) s).2
      { m with out := [], dropped := m.out ++ m.dropped } f := by
  obtain ⟨-, -, hnone⟩ := h.runs
  have hnot : .boot ∉ {.running out} + f := h.not_boot (t := .running out) (by simp) (by simp)
  have hocc : s.occupied ({.running out} + f) = (runOp (.setProcessing false) s).2.occupied f := by
    rw [State.occupied, held_add, held_singleton]
    exact congrArg _ (zero_add _)
  have hacc : accepted ({.running out} + f) = accepted f := by simp [Hold.acceptedIds]
  have hpulled : pulled ({.running out} + f) = pulled f := by simp [Hold.pulledIds]
  refine ⟨hocc ▸ h.once, fun id hid => h.rows id (hocc ▸ hid), hpulled ▸ h.out, hnone,
    hacc ▸ h.acceptedOnce, hacc ▸ h.acceptedRows, h.attempted, ?_⟩
  exact fun hboot => absurd (Multiset.mem_add.mpr (.inr hboot)) hnot

/-- The bundles of the slot that is pulled go to the tick that pulls it. -/
theorem Holding.pull {out : List BundleId} (h : Holding s m ({.running out} + f)) :
    Holding (runOp .removeFirstSlot s).2
      { m with out := s.firstIds ++ m.out, attempts := s.firstIds ++ m.attempts }
      ({.running (s.firstIds ++ out)} + each .taken s.firstIds + f) := by
  obtain ⟨hprocessing, rfl, hnone⟩ := h.runs
  have hnot : .boot ∉ {.running m.out} + f := h.not_boot (t := .running m.out) (by simp) (by simp)
  have hqueued := queuedIds_pull s
  have hheld : held (each .taken s.firstIds) = s.firstIds := bind_each (fun _ => rfl) _
  have hpulled : pulled (each .taken s.firstIds) = s.firstIds := bind_each (fun _ => rfl) _
  have hacc : accepted (each .taken s.firstIds) = 0 := bind_each_nil (fun _ => rfl) _
  have hrunning : running (each .taken s.firstIds) = 0 := running_each (fun _ => rfl) _
  have hocc : (runOp .removeFirstSlot s).2.occupied
      ({.running (s.firstIds ++ m.out)} + each .taken s.firstIds + f) =
      s.occupied ({.running m.out} + f) := by
    simp only [State.occupied, hqueued, held_add, held_singleton, hheld, Hold.ids,
      ← Multiset.coe_add, Multiset.coe_nil, zero_add]
    rw [add_left_comm, add_assoc]
  have hrow {id : BundleId} (hid : id ∈ s.firstIds) : s.HasRow id := by
    apply h.rows id
    rw [State.occupied, hqueued]
    simp [hid]
  have haccepted : accepted ({.running (s.firstIds ++ m.out)} + each .taken s.firstIds + f) =
      accepted ({.running m.out} + f) := by
    simp [hacc, Hold.acceptedIds]
  have hstill : Still s (runOp .removeFirstSlot s).2 := runOp_still (o := .removeFirstSlot) trivial s
  refine ⟨hocc ▸ h.once, fun id hid => hstill.rows id (h.rows id (hocc ▸ hid)), ?_, ?_,
    haccepted ▸ h.acceptedOnce, ?_, ?_, ?_⟩
  · have hle := h.out
    rw [pulled_add, pulled_singleton] at hle
    rw [pulled_add, pulled_add, pulled_singleton, hpulled, add_right_comm]
    rw [Ticks.pulled, List.append_assoc, ← Multiset.coe_add, add_comm]
    exact add_le_add_left hle _
  · rw [running_add, running_add, hrunning, hnone, hstill.processing, hprocessing]
    rfl
  · rw [haccepted]
    exact fun id hid => hstill.rows id (h.acceptedRows id hid)
  · intro id hid
    rcases List.mem_append.mp hid with hid | hid
    · exact hstill.rows id (hrow hid)
    · exact hstill.rows id (h.attempted id hid)
  · intro hboot
    have hf : .boot ∈ f := by simpa using hboot
    exact absurd (Multiset.mem_add.mpr (.inr hf)) hnot

/-- A row is inserted: its admission may queue the bundle, and is the one that
is accepted. -/
theorem Holding.admit (h : Holding s m f) (hf : .boot ∉ f) (hs : Still s s')
    (hnew : ¬ s.HasRow id) (hrow : s'.HasRow id) :
    Holding s' m ({.fresh id} + {.accepted id} + f) := by
  have h' : Holding s' m f := h.still hs rfl rfl (List.Subset.refl _)
  have hheld : held ({.fresh id} + {.accepted id} + f) = {id} + held f := by
    simp [Hold.ids]
  have hacc : accepted ({.fresh id} + {.accepted id} + f) = {id} + accepted f := by
    simp [Hold.acceptedIds]
  have hpulled : pulled ({.fresh id} + {.accepted id} + f) = pulled f := by
    simp [Hold.pulledIds]
  have hrunning : running ({.fresh id} + {.accepted id} + f) = running f := by
    simp [Hold.runningIds]
  have hocc : s'.occupied ({.fresh id} + {.accepted id} + f) = {id} + s'.occupied f := by
    rw [State.occupied, hheld, add_left_comm]
    rfl
  refine ⟨?_, ?_, hpulled ▸ h'.out, hrunning ▸ h'.tick, ?_, ?_, h'.attempted, ?_⟩
  · rw [hocc, Multiset.singleton_add]
    refine Multiset.nodup_cons.mpr ⟨fun hmem => ?_, h'.once⟩
    exact hnew (h.rows id (Multiset.mem_of_le (hs.occupied f) hmem))
  · rw [hocc]
    intro id' hid'
    rcases Multiset.mem_add.mp hid' with hid' | hid'
    · rwa [Multiset.mem_singleton.mp hid']
    · exact h'.rows id' hid'
  · rw [hacc, Multiset.singleton_add]
    exact Multiset.nodup_cons.mpr ⟨fun hmem => hnew (h.acceptedRows id hmem), h'.acceptedOnce⟩
  · rw [hacc]
    intro id' hid'
    rcases Multiset.mem_add.mp hid' with hid' | hid'
    · rwa [Multiset.mem_singleton.mp hid']
    · exact h'.acceptedRows id' hid'
  · intro hboot
    simp [hf] at hboot

/-! ## The boot -/

/-- The boot reads the rows while nobody has any bundle. -/
theorem Holding.hydrate (h : Holding s m ({.boot} + f)) :
    Holding s m ({.booting} +
      each .fresh ((Query.findPendingOrProcessing.run s.db).map (·.id)) + f) := by
  generalize hids : (Query.findPendingOrProcessing.run s.db).map (·.id) = ids
  obtain ⟨hr, hqueue, -, -⟩ := h.boot (by simp)
  have hf : f = 0 := by rwa [add_eq_left] at hr
  subst hf
  have hheld : held ({.booting} + each .fresh ids + 0) = ids := by
    have hfresh : held (each .fresh ids) = ids := bind_each (fun _ => rfl) _
    simp [hfresh, Hold.ids]
  have hpulled : pulled ({.booting} + each .fresh ids + 0) = 0 := by
    have hfresh : pulled (each .fresh ids) = 0 := bind_each_nil (fun _ => rfl) _
    simp [hfresh, Hold.pulledIds]
  have hacc : accepted ({.booting} + each .fresh ids + 0) = 0 := by
    have hfresh : accepted (each .fresh ids) = 0 := bind_each_nil (fun _ => rfl) _
    simp [hfresh, Hold.acceptedIds]
  have hrunning : running ({.booting} + each .fresh ids + 0) = running ({.boot} + 0) := by
    have hfresh : running (each .fresh ids) = 0 := running_each (fun _ => rfl) _
    simp [hfresh, Hold.runningIds]
  have hocc : s.occupied ({.booting} + each .fresh ids + 0) = ids := by
    rw [State.occupied, hheld, Mempool.queuedIds, hqueue]
    exact zero_add _
  refine ⟨?_, ?_, ?_, hrunning ▸ h.tick, ?_, ?_, h.attempted, ?_⟩
  · rw [hocc, ← hids]
    exact Multiset.coe_nodup.mpr (Table.select_nodup _ _)
  · rw [hocc, ← hids]
    intro id hid
    obtain ⟨row, hrow, rfl⟩ := List.mem_map.mp (Multiset.mem_coe.mp hid)
    exact Option.isSome_of_eq_some (Table.find_of_mem (Table.mem_select.mp hrow).1)
  · rw [hpulled]
    exact h.out
  · rw [hacc]
    exact Multiset.nodup_zero
  · rw [hacc]
    exact fun id hid => absurd hid (Multiset.notMem_zero id)
  · intro hboot
    simp at hboot

/-- The mempool system has started: the boot is over. -/
theorem Holding.setStarted (h : Holding s m ({.booting} + f)) :
    Holding (runOp .setStarted s).2 m ({.booting} + f) := by
  have hnot : .boot ∉ {.booting} + f := h.not_boot (t := .booting) (by simp) (by simp)
  exact ⟨h.once, h.rows, h.out, h.tick, h.acceptedOnce, h.acceptedRows, h.attempted,
    fun hboot => absurd hboot hnot⟩

/-- A process that has just been launched. -/
theorem holding_boot {cfg : Config} (hmemory : s.memory = .boot cfg) :
    Holding s m.restart {.boot} := by
  have hqueue : s.memory.mempool.queuedIds = [] := by rw [hmemory]; rfl
  have hocc : s.occupied {.boot} = 0 := by
    rw [State.occupied, hqueue]
    rfl
  refine ⟨by rw [hocc]; exact Multiset.nodup_zero, by simp [hocc], ?_, ?_, ?_, ?_, ?_, fun _ => ?_⟩
  · exact Multiset.zero_le _
  · rw [hmemory]
    rfl
  · exact Multiset.nodup_zero
  · exact fun id hid => absurd hid (Multiset.notMem_zero id)
  · exact fun id hid => absurd hid List.not_mem_nil
  · rw [hmemory]
    exact ⟨rfl, rfl, rfl, rfl⟩

end Moves

end ProviderPlatform
