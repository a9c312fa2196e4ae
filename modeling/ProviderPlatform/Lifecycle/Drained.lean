import ProviderPlatform.Executor.Conservation
import ProviderPlatform.Executor.Undisturbed
import ProviderPlatform.Lifecycle.OnChain
import ProviderPlatform.Lifecycle.Payable

/-! # The queue drains

A tick and a cycle, one after the other and undisturbed, take the first slot out
of the queue and settle each of its bundles. So as many of these rounds as there
are slots leave an empty queue, and none of the bundles PENDING or PROCESSING. -/
namespace ProviderPlatform
open Async Store

/-! ## A cycle that nothing disturbs -/

/-- Reads of the clock and the gate, and events. -/
def Op.Telling : Op → Prop
  | .now | .emit _ _ | .isDisabled _ => True
  | _ => False

/-- What is asked for a transaction that succeeded. -/
def Req.Completing : Req → Prop
  | .query _ | .rpc _ => True
  | .command (.updateTransaction _ _) => True
  | .command (.updateBundle _ data) => data.status = some .completed
  | .command _ => False

theorem permits_completing : Permits Op.Telling Req.Completing where
  query _ := trivial
  rpc _ := trivial
  now := trivial
  emit _ _ := trivial
  isDisabled _ := trivial

/-- Rows of bundles are left or COMPLETED. -/
structure Confirming (s s' : State) : Prop where
  clock : s.clock ≤ s'.clock
  memory : s'.memory = s.memory
  answers : s'.network.transaction = s.network.transaction
  accepted : s.network.accepted ⊆ s'.network.accepted
  known : ∀ hash, (s'.db.transactions.find hash).isSome = true →
    (s.db.transactions.find hash).isSome = true
  intact : s'.Intact
  status : ∀ id, s'.status id = s.status id ∨
    (s.status id).isSome = true ∧ s'.status id = some .completed

section Cycle
variable {cfg : Config} {s s' : State} {id : BundleId}

namespace Confirming

theorem pass (h : Confirming s s') (n : Nat) : Confirming s (host.pass n s') where
  clock := by
    have hclock := h.clock
    show s.clock ≤ s'.clock + n
    unfold Time at *
    omega
  memory := h.memory
  answers := h.answers
  accepted := h.accepted
  known := h.known
  intact := h.intact.of_db rfl
  status := h.status

theorem runOp {o : Op} (h : Confirming s s') (ho : o.Telling) :
    Confirming s (runOp o s').2 := by
  cases o with
  | now | isDisabled => exact h
  | emit => exact ⟨h.clock, h.memory, h.answers, h.accepted, h.known, h.intact.of_db rfl, h.status⟩
  | _ => cases ho

theorem rpc (h : Confirming s s') (r : Rpc) : Confirming s (serve (.rpc r) s').2 := by
  have hnet : (r.run s'.network).2.transaction = s'.network.transaction ∧
      s'.network.accepted ⊆ (r.run s'.network).2.accepted := by
    cases r with
    | invokeRaw ctx operations =>
      simp only [Rpc.run]
      split
      · exact ⟨rfl, List.Subset.refl _⟩
      · split
        · exact ⟨rfl, List.Subset.refl _⟩
        · exact ⟨rfl, List.subset_cons_self _ _⟩
    | _ => exact ⟨rfl, List.Subset.refl _⟩
  exact ⟨h.clock, h.memory, hnet.1.trans h.answers, List.Subset.trans h.accepted hnet.2, h.known,
    h.intact.of_db rfl, h.status⟩

theorem completed (h : Confirming s s') (id : BundleId) {data : OperationsBundlePatch}
    (hdata : data.status = some .completed) :
    Confirming s (serve (.command (.updateBundle id data)) s').2 where
  clock := h.clock
  memory := h.memory
  answers := h.answers
  accepted := h.accepted
  known := h.known
  intact := h.intact.serve _
  status other := by
    rw [status_updateBundle s' other id hdata]
    split
    · rcases h.status other with hsame | ⟨hsome, hdone⟩
      · rw [hsame]
        cases s.status other with
        | none => exact .inl rfl
        | some F => exact .inr ⟨rfl, rfl⟩
      · rw [hdone]
        exact .inr ⟨hsome, rfl⟩
    · exact h.status other

theorem finalized (h : Confirming s s') (txId : TxHash) (status : TransactionStatus) :
    Confirming s (serve (.command (.updateTransaction txId status)) s').2 where
  clock := h.clock
  memory := h.memory
  answers := h.answers
  accepted := h.accepted
  known hash hhash := by
    refine h.known hash ?_
    have hfind := Command.updateTransaction_find s'.db s'.clock txId status hash
    have hsome : (((Command.updateTransaction txId status).run s'.clock s'.db).2.transactions.find
        hash).isSome = true := hhash
    rwa [hfind, Option.isSome_map] at hsome
  intact := h.intact.serve _
  status := h.status

theorem serve {q : Req} (h : Confirming s s') (hq : q.Completing) :
    Confirming s (serve q s').2 := by
  cases q with
  | query q => exact h
  | rpc r => exact h.rpc r
  | command w =>
    cases w with
    | updateTransaction txId status => exact h.finalized txId status
    | updateBundle id data => exact h.completed id hq
    | _ => cases hq

end Confirming

theorem handleVerificationSuccess_smooth (txId : TxHash) (ids : List BundleId) :
    Task.Guided host Step.Answered (Confirming s) (handleVerificationSuccess cfg txId ids)
      (fun _ => Confirming s) (Confirming s) :=
  Task.Guided.of_uses (fun _ _ ho h _ => h.runOp ho) (fun _ _ hq h => h.serve hq)
    (fun n _ h => h.pass n)
    (handleVerificationSuccess_keeps permits_completing cfg trivial fun _ _ => rfl)

theorem verifyTransaction_smooth {transaction : Transaction}
    (hverified : s.network.result transaction.id = .verified) :
    Smooth (Confirming s) (verifyTransaction cfg transaction) fun _ => Confirming s := by
  refine Task.Guided.recover_lives (E := Confirming s) (fun _ _ h => h) ?_
    fun _ => .pure fun _ h => h
  have hlinks : Smooth (Confirming s) (query (.findLinksByTransactionId transaction.id))
      fun _ => Confirming s := query_clean (fun n _ h => h.pass n) fun _ h => h
  refine Task.Guided.bind (hlinks.mono (fun _ h => h) (fun _ _ h => h) fun _ h => h.elim)
    fun links => ?_
  dsimp only
  split
  · exact .pure fun _ h => h
  · have hresult := verifyTransactionOnNetwork_clean (P := Confirming s) transaction.id
      fun n _ h => h.pass n
    refine Task.Guided.bind (hresult.mono (fun _ h => h) (fun _ _ h => h) fun _ h => h.elim)
      fun result => ?_
    refine Task.Guided.of_state fun s' h => ?_
    obtain ⟨hconfirming, hsaid⟩ := h
    have hagrees : s'.network.result transaction.id = .verified := by
      rw [← hverified, Network.result, Network.result, hconfirming.answers]
    rw [hsaid, hagrees]
    refine (handleVerificationSuccess_smooth _ _).mono ?_ (fun _ _ h => h) fun _ h => h
    rintro _ rfl
    exact hconfirming

/-- The transactions that have a row all succeeded. -/
def State.AllSucceeded (s : State) : Prop :=
  ∀ hash, (s.db.transactions.find hash).isSome = true → s.network.result hash = .verified

theorem verifyTransactions_smooth (hintact : s.Intact) (hsucceeded : s.AllSucceeded) :
    Smooth (· = s) (verifyTransactions cfg) fun _ => Confirming s := by
  refine Task.Guided.recover (E := fun _ => False) ?_ (fun _ => .pure fun _ h => h.elim)
    fun _ h => h
  have hlist : Smooth (fun s' => Waited s s' ∧ s'.Intact)
      (query (.findTransactionsByStatus .unverified))
      fun transactions s' => transactions = s.db.unverified ∧ Confirming s s' := by
    refine query_clean (fun n s' h => ⟨h.1.pass n, h.2.of_db rfl⟩) fun s' h => ⟨?_, ?_⟩
    · rw [h.1.db]
      rfl
    · refine ⟨h.1.clock, h.1.memory, by rw [h.1.network],
        by rw [h.1.network]; exact List.Subset.refl _, by rw [h.1.db]; exact fun _ h => h, h.2, fun id => .inl ?_⟩
      rw [State.status, h.1.db]
      rfl
  refine Task.Guided.bind (hlist.mono ?_ (fun _ _ h => h) fun _ h => h) fun transactions => ?_
  · rintro _ rfl
    exact ⟨.refl _, hintact⟩
  · refine smooth_of fun hlisted => ?_
    subst hlisted
    have hloop (rest : List Transaction) (hrest : rest ⊆ s.db.unverified) :
        Smooth (Confirming s) (Task.forEach (verifyTransaction cfg) rest)
          fun _ => Confirming s := by
      induction rest with
      | nil => exact .pure fun _ h => h
      | cons transaction rest ih =>
        obtain ⟨hmem, hrest⟩ := List.cons_subset.mp hrest
        have hfound := Table.find_of_mem (mem_unverified.mp hmem).1
        have hverified := hsucceeded transaction.id (Option.isSome_iff_exists.mpr ⟨_, hfound⟩)
        exact (verifyTransaction_smooth hverified).bind fun _ => ih hrest
    exact hloop _ (List.Subset.refl _)

end Cycle

/-! ## Rounds -/

/-- The networks that a tick and then a cycle meet, and their schedules. -/
structure Round where
  before : Network
  tick : List (Beat Err)
  after : Network
  cycle : List (Beat Err)

namespace Round
variable (cfg : Config) (r : Round) (s : State)

/-- The state after the tick. -/
def ticked : State := ((executeNext cfg).eval host r.tick (drift (.network r.before) s)).2.2

def run : State :=
  ((verifyTransactions cfg).eval host r.cycle (drift (.network r.after) (r.ticked cfg s))).2.2

/-- No request fails, nothing stops the tick, and the network confirms what it
has accepted. -/
structure Undisturbed : Prop where
  tick : ∀ b ∈ r.tick, b.Serves
  cycle : ∀ b ∈ r.cycle, b.Serves
  obliging : (drift (.network r.before) s).network.Obliging cfg
  confirms : ∀ hash ∈ (r.ticked cfg s).network.accepted, r.after.transaction hash = some .success

end Round

/-- The bundle is COMPLETED, or its TTL is past and its row neither PENDING nor
PROCESSING. -/
def State.Concluded (s : State) (b : SlotBundle) : Prop :=
  s.status b.bundleId = some .completed ∨ b.ttl ≤ s.clock ∧ s.Inactive b.bundleId

/-- A round takes out the first slot and concludes its bundles. -/
structure Advanced (cfg : Config) (s s' : State) : Prop where
  serviceable : s'.Serviceable cfg
  slots : s'.memory.mempool.slots = s.memory.mempool.slots.tail
  pulled : ∀ b ∈ s.pulled, s'.Concluded b
  kept : ∀ b, s.Concluded b → s'.Concluded b

section Rounds
variable {cfg : Config} {s s' : State} {b : SlotBundle}

theorem smooth_ends {α : Type} {t : Promise α} {B : α → State → Prop} (h : Smooth (· = s) t B)
    {bs : List (Beat Err)} (hserves : ∀ b ∈ bs, b.Serves) : ∃ a, B a (t.eval host bs s).2.2 := by
  have hend := h bs s (fun st hst => ?_) rfl
  · obtain ⟨a, -, ha⟩ := hend.exists_ok
    exact ⟨a, ha⟩
  · rcases Task.trace_serves host t bs s hserves st hst with ⟨_, _, rfl⟩ | ⟨_, _, rfl⟩
    · trivial
    · trivial

theorem State.Concluded.expires (h : s.Concluded b) (hclock : s.clock ≤ s'.clock)
    (hexpires : Expires s s') : s'.Concluded b := by
  rcases h with hdone | ⟨httl, hinactive⟩
  · left
    rcases hexpires b.bundleId with hsame | ⟨⟨F, hF, hactive⟩, -⟩
    · exact hsame.trans hdone
    · rw [hdone] at hactive
      cases hactive
      exact absurd hF (by decide)
  · exact .inr ⟨httl.trans hclock, hexpires.inactive hinactive⟩

theorem State.Concluded.confirming (h : s.Concluded b) (hconfirming : Confirming s s') :
    s'.Concluded b := by
  rcases hconfirming.status b.bundleId with hsame | ⟨-, hdone⟩
  · rcases h with hdone | ⟨httl, F, hF, hnot⟩
    · exact .inl (hsame.trans hdone)
    · exact .inr ⟨httl.trans hconfirming.clock, F, hsame.trans hF, hnot⟩
  · exact .inl hdone

theorem removeFirstSlot_slots (mempool : Mempool) :
    mempool.removeFirstSlot.2.slots = mempool.slots.tail := by
  unfold Mempool.removeFirstSlot
  split
  · rename_i hnil
    rw [hnil]
    rfl
  · rename_i hcons
    rw [hcons]
    rfl

theorem queued_eq_pulled (s : State) : s.memory.mempool.queued =
    s.pulled ++ s.memory.mempool.removeFirstSlot.2.queued := by
  cases hpull : s.memory.mempool.removeFirstSlot.1 with
  | none =>
    have hsame : s.memory.mempool.removeFirstSlot.2 = s.memory.mempool := by
      unfold Mempool.removeFirstSlot at hpull ⊢
      split at hpull
      · rfl
      · cases hpull
    rw [State.pulled, hpull, hsame]
    rfl
  | some slot =>
    rw [State.pulled, hpull]
    exact Mempool.queued_of_removeFirstSlot hpull

/-- The network moves on between two tasks. -/
theorem State.Serviceable.drift (h : s.Serviceable cfg) (net : Network) :
    (drift (.network net) s).Serviceable cfg :=
  ⟨h.idle, h.once, h.rows, h.executable, h.intact.of_db rfl, h.accepted⟩

theorem Round.advances {r : Round} (hs : s.Serviceable cfg) (hr : r.Undisturbed cfg s) :
    Advanced cfg s (r.run cfg s) := by
  have hs₀ := hs.drift r.before
  obtain ⟨-, hticked⟩ := smooth_ends (executeNext_smooth hs₀ hr.obliging) hr.tick
  let s₀ := ProviderPlatform.drift (.network r.before) s
  let s₁ := r.ticked cfg s
  let s₁' := ProviderPlatform.drift (.network r.after) s₁
  have hticked : Ticked s₀ s₁ := hticked
  have hresult : s₁'.AllSucceeded := by
    intro hash hrow
    have hsuccess := hr.confirms hash (hticked.accepted hash hrow)
    show Network.result { r.after with accepted := s₁.network.accepted } hash = .verified
    rw [Network.result]
    simp only [hsuccess]
  have hintact : s₁'.Intact := hticked.intact.of_db rfl
  have hsmooth : Smooth (· = s₁') (verifyTransactions cfg) fun _ => Confirming s₁' :=
    verifyTransactions_smooth hintact hresult
  obtain ⟨-, hconfirming⟩ := smooth_ends hsmooth hr.cycle
  have hconfirming : Confirming s₁' (r.run cfg s) := hconfirming
  have hmemory : (r.run cfg s).memory =
      { s.memory with mempool := s.memory.mempool.removeFirstSlot.2 } :=
    hconfirming.memory.trans hticked.memory
  have hrow {id : BundleId} (h : s.HasRow id) : (r.run cfg s).HasRow id := by
    have hrow₁ : s₁'.HasRow id := Expires.hasRow (s := s₀) hticked.expires h
    have hsome : (s₁'.status id).isSome = true := by
      simpa [State.status, State.HasRow] using hrow₁
    have hkept : ((r.run cfg s).status id).isSome = true := by
      rcases hconfirming.status id with hsame | ⟨-, hdone⟩
      · rwa [hsame]
      · rw [hdone]
        rfl
    simpa [State.status, State.HasRow] using hkept
  have hqueue : s.memory.mempool.queuedIds =
      s.pulled.map (·.bundleId) ++ s.memory.mempool.removeFirstSlot.2.queuedIds := by
    rw [Mempool.queuedIds, queued_eq_pulled, List.map_append]
    rfl
  refine ⟨⟨?_, ?_, ?_, ?_, hconfirming.intact, ?_⟩, ?_, ?_, ?_⟩
  · rw [hmemory]
    exact hs.idle
  · have honce := hs.once
    rw [hqueue] at honce
    rw [hmemory]
    exact honce.of_append_right
  · intro id hid
    rw [hmemory] at hid
    refine hrow (hs.rows id ?_)
    rw [hqueue]
    exact List.mem_append_right _ hid
  · intro slot hslot
    rw [hmemory, removeFirstSlot_slots] at hslot
    exact hs.executable slot (List.mem_of_mem_tail hslot)
  · intro hash hhash
    exact hconfirming.accepted (hticked.accepted hash (hconfirming.known hash hhash))
  · rw [hmemory, removeFirstSlot_slots]
  · intro b hb
    have hlive : s₁'.Live b.bundleId := by
      refine hintact.live (Expires.hasRow (s := s₀) hticked.expires (hs.rows _ ?_))
      rw [hqueue]
      exact List.mem_append_left _ (List.mem_map_of_mem hb)
    have hagreed : s₁'.Agreed b.bundleId .completed := by
      intro transaction hmem _
      have hfound := Table.find_of_mem (mem_unverified.mp hmem).1
      have hverified := hresult transaction.id (Option.isSome_iff_exists.mpr ⟨_, hfound⟩)
      refine ⟨fun hpending => ?_, ?_⟩
      · rw [hverified] at hpending
        cases hpending
      · rw [hverified]
        rfl
    have hcycled : Cycled s₁' b.bundleId .completed (r.run cfg s) := cycled hr.cycle hlive hagreed
    rcases hticked.passed b hb with hawaited | hexpired
    · exact .inl (hcycled.settled hawaited)
    · have hconcluded : s₁'.Concluded b := .inr hexpired
      exact hconcluded.confirming hconfirming
  · intro b hb
    have hconcluded : s₁'.Concluded b :=
      State.Concluded.expires (s := s₀) hb hticked.clock hticked.expires
    exact hconcluded.confirming hconfirming

/-! ## Any number of rounds -/

variable (cfg) in
def rounds (rs : List Round) (s : State) : State := rs.foldl (fun s r => r.run cfg s) s

variable (cfg) in
/-- Each round is undisturbed where it starts. -/
def AllUndisturbed : List Round → State → Prop
  | [], _ => True
  | r :: rs, s => r.Undisturbed cfg s ∧ AllUndisturbed rs (r.run cfg s)

theorem rounds_drain (rs : List Round) (s : State) (hs : s.Serviceable cfg)
    (hrs : AllUndisturbed cfg rs s) :
    (rounds cfg rs s).memory.mempool.slots = s.memory.mempool.slots.drop rs.length ∧
      (∀ b ∈ (s.memory.mempool.slots.take rs.length).flatMap (·.bundles),
        (rounds cfg rs s).Concluded b) ∧
      ∀ b, s.Concluded b → (rounds cfg rs s).Concluded b := by
  induction rs generalizing s with
  | nil => exact ⟨rfl, by simp, fun _ h => h⟩
  | cons r rs ih =>
    have hfirst := Round.advances hs hrs.1
    obtain ⟨hslots, hpulled, hkept⟩ := ih (r.run cfg s) hfirst.serviceable hrs.2
    rw [hfirst.slots] at hslots hpulled
    refine ⟨hslots.trans (by simp), fun b hb => ?_, fun b hb => hkept b (hfirst.kept b hb)⟩
    cases hslotsOf : s.memory.mempool.slots with
    | nil => simp [hslotsOf] at hb
    | cons slot slots =>
      rw [hslotsOf] at hb hpulled
      simp only [List.length_cons, List.take_succ_cons, List.flatMap_cons, List.mem_append] at hb
      rcases hb with hfirstSlot | hrest
      · refine hkept b (hfirst.pulled b ?_)
        have hpull : s.memory.mempool.removeFirstSlot.1 = some slot := by
          rw [Mempool.removeFirstSlot, hslotsOf]
        rw [State.pulled, hpull]
        exact hfirstSlot
      · exact hpulled b hrest

/-! ## From a launch -/

/-- The builder takes the operations of any bundles of the slot beside those of
one another. -/
def Slot.Compatible (cfg : Config) (slot : Slot) : Prop :=
  ∀ bundles : List SlotBundle, bundles.Sublist slot.bundles → ∀ utxo fee, 0 < fee → ∃ operations,
    addOperations cfg [] (.create ⟨utxo, fee⟩ :: bundles.flatMap bundleOperations) = .ok operations

theorem totalFee_of_payable {bundles : List SlotBundle} (h : ∀ b ∈ bundles, b.Payable)
    (hne : bundles ≠ []) : 0 < totalFee bundles := by
  obtain ⟨first, rest, rfl⟩ := List.exists_cons_of_ne_nil hne
  have hrest : 0 ≤ (rest.map (·.fee)).sum := List.sum_nonneg fun fee hfee => by
    obtain ⟨b, hb, rfl⟩ := List.mem_map.mp hfee
    have hpositive := (h b (.tail _ hb)).fee
    omega
  have hfirst := (h first List.mem_cons_self).fee
  simp only [totalFee, List.map_cons, List.sum_cons]
  omega

theorem Slot.Compatible.executable {slot : Slot} (h : slot.Compatible cfg)
    (hpayable : ∀ b ∈ slot.bundles, b.Payable) : slot.Executable cfg where
  named b hb := ⟨(hpayable b hb).channel, (hpayable b hb).pp⟩
  builds bundles hsub hne utxo := by
    have hfee := totalFee_of_payable (fun b hb => hpayable b (hsub.subset hb)) hne
    obtain ⟨operations, hoperations⟩ := h bundles hsub utxo (totalFee bundles) hfee
    refine ⟨operations, ?_⟩
    rw [slotOperations, createFeeOperation, if_pos hfee]
    exact hoperations

/-- What a served run from a fresh database reaches can be serviced. -/
theorem State.Serviceable.of_run {fuel : Nat} {c : ProviderPool} (hfresh : Fresh cfg s)
    (h : (served cfg fuel).Run Machine.Free ((served cfg fuel).init s) c)
    (hidle : c.state.memory.isProcessing = false)
    (hcompatible : ∀ slot ∈ c.state.memory.mempool.slots, slot.Compatible cfg) :
    c.state.Serviceable cfg := by
  have hrun := operated_of_served h
  have horderly : c.state.Orderly := .of_run hfresh.memory hfresh.intact hrun
  have hsolvent : c.state.Stamped (payable cfg) := payable_reachable hfresh h
  obtain ⟨answered, hobserved⟩ := hrun.observed successes []
  obtain ⟨known, honReceipt⟩ := onReceipt_reachable hfresh hobserved
  refine ⟨hidle, horderly.once, fun id hid => ?_, fun slot hslot => ?_,
    State.Intact.run hrun hfresh.intact, fun hash hrow => ?_⟩
  · obtain ⟨row, hrow, -⟩ := live_iff.mp (horderly.live id hid)
    rw [State.HasRow, hrow]
    rfl
  · refine (hcompatible slot hslot).executable fun b hb => hsolvent.queued b ?_
    exact List.mem_flatMap.mpr ⟨slot, hslot, hb⟩
  · exact honReceipt.created hash hrow

/-- **The queue drains.** Whatever a provider has been through since it was first
launched, as many undisturbed rounds as there are slots empty its queue, and each
bundle that waited ends COMPLETED, unless its TTL has passed, and then its row is
neither PENDING nor PROCESSING. -/
theorem queue_drains {fuel : Nat} {c : ProviderPool} (hfresh : Fresh cfg s)
    (h : (served cfg fuel).Run Machine.Free ((served cfg fuel).init s) c)
    (hidle : c.state.memory.isProcessing = false)
    (hcompatible : ∀ slot ∈ c.state.memory.mempool.slots, slot.Compatible cfg) {rs : List Round}
    (hrs : AllUndisturbed cfg rs c.state)
    (hlen : c.state.memory.mempool.slots.length ≤ rs.length) :
    (rounds cfg rs c.state).memory.mempool.queued = [] ∧
      ∀ b ∈ c.state.memory.mempool.queued, (rounds cfg rs c.state).Concluded b := by
  obtain ⟨hslots, hpulled, -⟩ := rounds_drain rs c.state (.of_run hfresh h hidle hcompatible) hrs
  rw [List.drop_of_length_le hlen] at hslots
  rw [List.take_of_length_le hlen] at hpulled
  refine ⟨?_, hpulled⟩
  rw [Mempool.queued, hslots]
  rfl

end Rounds

namespace Small

/-- A tick and a cycle whose every request is answered at once. -/
def round : Round := ⟨network, [], network, []⟩

theorem obliging : network.Obliging config where
  resolves channel pp := ⟨_, rfl⟩
  hasUtxo ctx := ⟨_, rfl⟩
  covered operations pp := ⟨0, rfl, by simp [spendable, config, network]⟩
  accepts operations := ⟨"tx", rfl, List.not_mem_nil⟩

end Small

/-- The deposit that has been admitted is COMPLETED after one round. -/
theorem queue_drains_small : ∃ c : ProviderPool, c.state.memory.mempool.queuedIds = ["deposit 10"] ∧
    (rounds Small.config [Small.round] c.state).memory.mempool.queued = [] ∧
    ∀ b ∈ c.state.memory.mempool.queued,
      (rounds Small.config [Small.round] c.state).Concluded b := by
  obtain ⟨c, hr, hp⟩ := Machine.exists_run_of_replay (M := served Small.config 1)
    (G := Machine.Free) (c := (served Small.config 1).init Small.state) Small.admitted
    (fun s => !s.memory.isProcessing && s.memory.mempool.queuedIds == ["deposit 10"] &&
      s.memory.mempool.slots.length == 1 && s.network.accepted == []) (by decide +kernel)
  simp only [Bool.and_eq_true, Bool.not_eq_true', beq_iff_eq] at hp
  obtain ⟨⟨⟨hidle, hqueue⟩, hlength⟩, haccepted⟩ := hp
  have hbefore : (drift (.network Small.round.before) c.state).network = Small.network := by
    show { Small.network with accepted := c.state.network.accepted } = Small.network
    rw [haccepted]
    rfl
  have hundisturbed : Small.round.Undisturbed Small.config c.state :=
    ⟨by simp [Small.round], by simp [Small.round], hbefore ▸ Small.obliging, fun _ _ => rfl⟩
  have hcompatible : ∀ slot ∈ c.state.memory.mempool.slots, slot.Compatible Small.config :=
    fun slot _ bundles _ utxo fee _ => ⟨_, addOperations_total (fun _ _ => rfl) _ _⟩
  have hrounds : AllUndisturbed Small.config [Small.round] c.state := ⟨hundisturbed, trivial⟩
  exact ⟨c, hqueue, queue_drains Small.fresh hr hidle hcompatible hrounds
    (by rw [hlength]; exact le_refl _)⟩

end ProviderPlatform
