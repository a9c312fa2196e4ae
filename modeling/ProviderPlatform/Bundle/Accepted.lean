import ProviderPlatform.Bundle.Atomicity
import ProviderPlatform.Executor.TtlGate

/-! # Accepted requests

A request that returns created its row, and handed a slot bundle with the TTL
of that row to the mempool. The TTL is fixed when the checks read the clock,
the mempool compares it with the clock of the insertion, and an expired bundle
is marked without an error: so acceptance means that the bundle is queued
exactly where the TTL is later than the insertion. -/
namespace ProviderPlatform
open Async Store

/-- The time that an operation read. -/
def clockReading : Step platform State → Option Time
  | .ran s .now => some s.clock
  | _ => none

/-- Everything but a look at the clock. -/
def Op.Timeless : Op → Prop
  | .now => False
  | _ => True

section Sees
variable {α : Type} {cfg : Config} {input : BundleRequest} {P : List Time → State → Prop}

theorem clockReading_ran {o : Op} (ho : o.Timeless) (s : State) : clockReading (.ran s o) = none := by
  cases o <;> first | rfl | exact ho.elim

/-- A property that steps other than a look at the clock keep. -/
theorem sees_timeless {okOp : Op → Prop} {okReq : Req → Prop} (htime : ∀ o, okOp o → o.Timeless)
    (ho : ∀ o seen s, okOp o → P seen s → P seen (runOp o s).2)
    (hq : ∀ q seen s, okReq q → P seen s → P seen (serve q s).2)
    (hpass : ∀ n seen s, P seen s → P seen (host.pass n s)) {t : Promise α}
    (ht : Keeps okOp okReq t) : Task.Sees host clockReading P t fun _ => P := by
  refine .of_uses (fun o seen s hok hp => ?_) (fun q seen s hok hp => ?_) hpass ht
  · rw [clockReading_ran (htime o hok), Option.toList_none, List.append_nil]
    exact ho o seen s hok hp
  · show P (seen ++ []) _
    rw [List.append_nil]
    exact hq q seen s hok hp

/-- An emission only adds to the events. -/
theorem emitForPp_sees
    (hemit : ∀ scope payload seen s, P seen s → P seen (runOp (.emit scope payload) s).2)
    (hpass : ∀ n seen s, P seen s → P seen (host.pass n s)) (pp : PublicKey)
    (payload : EventPayload) :
    Task.Sees host clockReading P (emitForPp pp payload) fun _ => P := by
  have huses : Keeps (fun o => ∃ scope payload, o = .emit scope payload) (fun q => ∃ q', q = .query q')
      (emitForPp pp payload) :=
    emitForPp_uses (fun _ => ⟨_, rfl⟩) (fun scope => ⟨scope, payload, rfl⟩) pp
  refine sees_timeless (fun o ho => ?_) (fun o seen s ho hp => ?_) (fun q seen s hq hp => ?_) hpass
    huses
  · obtain ⟨scope, payload, rfl⟩ := ho
    trivial
  · obtain ⟨scope, payload, rfl⟩ := ho
    exact hemit scope payload seen s hp
  · obtain ⟨q, rfl⟩ := hq
    exact hp

/-! ## The checks -/

theorem serve_latestLedger (q : Req) (s : State) :
    (serve q s).2.network.latestLedger = s.network.latestLedger := by
  cases q with
  | rpc r =>
    cases r <;> simp only [serve, Rpc.run]
    repeat' split
    all_goals rfl
  | _ => rfl

/-- The clock was not read yet, and the network is at this ledger. -/
def Unread (ledger : Nat) (seen : List Time) (s : State) : Prop :=
  seen = [] ∧ s.network.latestLedger = ledger

theorem unread_sees {ledger : Nat} {t : Promise α} (ht : Keeps Op.Timeless Req.Looks t) :
    Task.Sees host clockReading (Unread ledger) t fun _ => Unread ledger := by
  refine sees_timeless (fun _ ho => ho) (fun o seen s _ hp => ⟨hp.1, ?_⟩) (fun q seen s _ hp => ⟨hp.1, ?_⟩)
    (fun _ _ _ hp => hp) ht
  · rw [runOp_network, hp.2]
  · rw [serve_latestLedger, hp.2]

/-- A bounded call sees what the call sees. -/
theorem withAdmissionTimeout_sees {t : Promise α} {B : α → List Time → State → Prop}
    (channel : ContractId) (h : Task.Sees host clockReading P t B) :
    Task.Sees host clockReading P (withAdmissionTimeout channel t) B := by
  refine h.recover fun e => ?_
  split <;> exact .fail _

/-- The TTL is that of the first look at the clock. -/
theorem calculateFeeAndTtl_sees (channel client : ContractId) (classified : ClassifiedOperations)
    (ledger : Nat) :
    Task.Sees host clockReading (Unread ledger) (calculateFeeAndTtl channel client classified)
      fun feeAndTtl seen s => seen = [s.clock] ∧
        feeAndTtl.2 = calculateBundleTtl s.clock classified ledger := by
  have hbalances : Keeps Op.Timeless Req.Looks (calculateOperationAmounts client classified) :=
    (fetchUtxoBalances_keeps (fun _ => trivial) _ _).bind fun _ => keeps_pure _
  refine (unread_sees (withAdmissionTimeout_keeps _ hbalances)).bind fun amounts => ?_
  dsimp only
  split
  · exact .fail _
  have hledger : Task.Sees host clockReading (Unread ledger)
      (withAdmissionTimeout channel (rpc .getLatestLedger))
      fun latestLedger seen s => latestLedger = ledger ∧ Unread ledger seen s := by
    refine withAdmissionTimeout_sees _ (.call (fun _ _ _ hp => hp) fun seen s a hp ha => ?_)
    have hvalue : s.network.latestLedger = a := Except.ok.inj ha
    refine ⟨by rw [← hvalue, hp.2], ?_, hp.2⟩
    rw [hp.1]
    rfl
  refine hledger.bind_of fun latestLedger heq => ?_
  subst heq
  have hnow : Task.Sees host clockReading (Unread latestLedger) (run .now)
      fun now seen s => now = s.clock ∧ seen = [s.clock] := by
    refine .op fun seen s hp => ⟨rfl, ?_⟩
    rw [hp.1]
    rfl
  refine hnow.bind fun now => .pure fun seen s hp => ⟨hp.2, ?_⟩
  rw [hp.1]

/-- So is the TTL of a request that passes the checks. -/
theorem checkRequest_sees (cfg : Config) (input : BundleRequest) (ledger : Nat) :
    Task.Sees host clockReading (Unread ledger) (checkRequest cfg input)
      fun adm seen s => seen = [s.clock] ∧
        adm.ttl = calculateBundleTtl s.clock adm.classified ledger := by
  unfold checkRequest
  split
  · exact .fail _
  split
  · exact .fail _
  have hcontext : Keeps Op.Timeless Req.Looks (withAdmissionTimeout input.channelContractId
      (rpc (.resolveChannelContext input.channelContractId input.ppPublicKey))) :=
    withAdmissionTimeout_keeps _ (Task.Uses.call trivial)
  refine (unread_sees hcontext).bind fun ctx => ?_
  refine (unread_sees (validateSubmitter_keeps (fun _ => trivial) (fun _ _ => trivial) _ _)).bind
    fun submitter => ?_
  refine (unread_sees (assertBundleIsExpired_keeps (fun _ => trivial) _)).bind
    fun isBundleExpired => ?_
  refine (unread_sees (keeps_done _)).bind fun operations => ?_
  refine (unread_sees (keeps_done _)).bind fun _ => ?_
  have hdisabled : Keeps Op.Timeless Req.Looks (run (.isDisabled input.channelContractId)) :=
    keeps_run trivial
  refine (unread_sees hdisabled).bind fun isDisabled => ?_
  split
  · exact .fail _
  exact (calculateFeeAndTtl_sees _ _ _ ledger).bind fun feeAndTtl => .pure fun _ _ hp => hp

/-! ## The row -/

/-- The clock was first read at `t₀`. -/
def ClockSince (t₀ : Time) (seen : List Time) (s : State) : Prop :=
  seen.head? = some t₀ ∧ t₀ ≤ s.clock

/-- More is seen, and no time passes. -/
theorem ClockSince.append {t₀ : Time} {seen : List Time} {s s' : State} (h : ClockSince t₀ seen s)
    (more : List Time) (hclock : s'.clock = s.clock) : ClockSince t₀ (seen ++ more) s' := by
  refine ⟨?_, hclock ▸ h.2⟩
  rw [List.head?_append, h.1]
  rfl

theorem ClockSince.pass {t₀ : Time} {seen : List Time} {s : State} (h : ClockSince t₀ seen s) (n : Nat) :
    ClockSince t₀ seen (host.pass n s) := by
  have hle : s.clock ≤ s.clock + n := by simp
  exact ⟨h.1, h.2.trans hle⟩

/-- A row as admission creates it. -/
structure StoredRow (input : BundleRequest) (adm : Admission) (row : OperationsBundle) : Prop where
  id : row.id = adm.bundleId
  status : row.status = .pending
  live : row.deletedAt = none
  channel : row.channelContractId = some input.channelContractId
  fee : row.fee = adm.fee
  ttl : row.ttl = adm.ttl

/-- The row is the bundle's. -/
def RowSince (t₀ : Time) (row : OperationsBundle) (seen : List Time) (s : State) : Prop :=
  ClockSince t₀ seen s ∧ s.db.operationsBundles.find row.id = some row

theorem persistBundle_sees (t₀ : Time) (adm : Admission) :
    Task.Sees host clockReading (ClockSince t₀) (persistBundle input adm) fun entity seen s =>
      (∀ row, entity = .row row → StoredRow input adm row) ∧
        ∀ row, entity = .row row → RowSince t₀ row seen s := by
  unfold persistBundle
  split
  · refine Task.Sees.bind (B := fun _ _ _ => True) (fun _ _ _ _ _ _ _ => trivial) fun rows => ?_
    exact .pure fun _ _ _ => ⟨(fun row he => nomatch he), fun row he => nomatch he⟩
  · have hnow : Task.Sees host clockReading (ClockSince t₀) (run .now) fun _ => ClockSince t₀ :=
      .op fun seen s hp => hp.append _ rfl
    refine hnow.bind fun now => ?_
    refine Task.Sees.bind (B := fun row seen s => StoredRow input adm row ∧ RowSince t₀ row seen s) ?_
      fun row => .pure fun seen s hp =>
        ⟨fun row' he => Written.row.inj he ▸ hp.1, fun row' he => Written.row.inj he ▸ hp.2⟩
    refine .call (fun n seen s hp => hp.pass n) fun seen s row hp hrow => ?_
    simp only [host, serve, Command.run] at hrow ⊢
    split at hrow
    · rename_i t ht
      cases hrow
      refine ⟨⟨rfl, rfl, rfl, rfl, rfl, rfl⟩, hp.append _ rfl, ?_⟩
      have hfind := Table.find_insert ht adm.bundleId
      rwa [NewOperationsBundle.row_id, if_pos rfl] at hfind
    · cases hrow

/-- The writes of the UTXOs leave the row. -/
theorem rowSince_sees {t₀ : Time} {row : OperationsBundle} {t : Promise α}
    (ht : Keeps Op.Looks Req.LeavesBundles t) :
    Task.Sees host clockReading (RowSince t₀ row) t fun _ => RowSince t₀ row := by
  refine .of_uses (fun o seen s _ hp => ⟨hp.1.append _ (runOp_clock o s), ?_⟩)
    (fun q seen s hq hp => ⟨hp.1.append _ (serve_clock q s), ?_⟩)
    (fun n seen s hp => ⟨hp.1.pass n, hp.2⟩) ht
  · show (runOp o s).2.db.operationsBundles.find row.id = some row
    rw [runOp_db]
    exact hp.2
  · show (serve q s).2.db.operationsBundles.find row.id = some row
    rw [serve_bundles hq]
    exact hp.2

/-! ## The mempool -/

/-- The clock was first read at `t₀` and last at `t₁`. -/
structure ClockRead (t₀ t₁ : Time) (seen : List Time) : Prop where
  first : seen.head? = some t₀
  last : seen.getLast? = some t₁
  le : t₀ ≤ t₁

/-- What an insertion at `t₁` made of a bundle with this row. -/
structure InsertedAt (channel : ContractId) (row : OperationsBundle) (t₁ : Time) (s : State) :
    Prop where
  written : ∃ row', s.db.operationsBundles.find row.id = some row' ∧ row'.fee = row.fee ∧
    row'.ttl = row.ttl ∧ (row'.status = .processing ↔ t₁ < row.ttl)
  queued : t₁ < row.ttl → ∃ slot ∈ s.memory.mempool.slots, slot.channelContractId = channel ∧
    ∃ bundle ∈ slot.bundles, bundle.bundleId = row.id

/-- The row is there, and the clock was last read at `t₁`. -/
def RowRead (t₀ t₁ : Time) (row : OperationsBundle) (seen : List Time) (s : State) : Prop :=
  ClockRead t₀ t₁ seen ∧ s.db.operationsBundles.find row.id = some row

theorem markExpired_sees {t₀ t₁ : Time} {row : OperationsBundle} {bundle : SlotBundle}
    (hid : bundle.bundleId = row.id) (hexpired : row.ttl ≤ t₁) :
    Task.Sees host clockReading (RowRead t₀ t₁ row) (Mempool.markExpired bundle)
      fun _ seen s => ClockRead t₀ t₁ seen ∧ InsertedAt bundle.channelContractId row t₁ s := by
  refine Task.Sees.bind (B := fun _ seen s => ClockRead t₀ t₁ seen ∧
    InsertedAt bundle.channelContractId row t₁ s) ?_ fun _ => ?_
  · refine .call (fun _ _ _ hp => hp) fun seen s rows hp _ => ?_
    refine ⟨by simpa [clockReading] using hp.1, ⟨row.set s.clock { status := some .expired }, ?_, rfl, rfl, ?_⟩, ?_⟩
    · have hfind := find_updateBundle s bundle.bundleId row.id { status := some .expired }
      rw [hp.2, Option.map_some, hid, beq_self_eq_true, if_pos rfl] at hfind
      rw [hid]
      exact hfind
    · simp [hexpired]
    · intro hlt
      exact absurd hlt (not_lt.mpr hexpired)
  · exact emitForPp_sees (fun _ _ _ _ hp => ⟨hp.1, hp.2.written, hp.2.queued⟩)
      (fun _ _ _ hp => ⟨hp.1, hp.2.written, hp.2.queued⟩) _ _

/-- The bundle is in a slot of its channel, and its row is still to be activated. -/
def PlacedRow (t₀ t₁ : Time) (row : OperationsBundle) (bundle : SlotBundle) (seen : List Time)
    (s : State) : Prop :=
  RowRead t₀ t₁ row seen s ∧ ∃ slot ∈ s.memory.mempool.slots,
    slot.channelContractId = bundle.channelContractId ∧ bundle ∈ slot.bundles

theorem activate_sees {t₀ t₁ : Time} {row : OperationsBundle} {bundle : SlotBundle}
    (hid : bundle.bundleId = row.id) (hactive : row.isIn BundleStatus.active = true)
    (hlive : t₁ < row.ttl) :
    Task.Sees host clockReading (PlacedRow t₀ t₁ row bundle) (Mempool.activate bundle)
      fun _ seen s => ClockRead t₀ t₁ seen ∧ InsertedAt bundle.channelContractId row t₁ s := by
  unfold Mempool.activate
  refine .recover ?_ fun e => ?_
  · refine Task.Sees.bind_of (Q := (· = true)) (B := fun _ seen s => ClockRead t₀ t₁ seen ∧
      InsertedAt bundle.channelContractId row t₁ s) ?_ fun updated hupdated => ?_
    · refine .call (fun _ _ _ hp => hp) fun seen s updated hp hupdated => ?_
      obtain ⟨⟨hread, hrow⟩, slot, hslot, hchannel, hmem⟩ := hp
      refine ⟨?_, by simpa [clockReading] using hread, ⟨row.set s.clock { status := some .processing }, ?_, rfl, rfl, ?_⟩,
        fun _ => ⟨slot, hslot, hchannel, bundle, hmem, hid⟩⟩
      · have hselect := select_gated hrow BundleStatus.active
        rw [hid] at hupdated
        rw [← Except.ok.inj hupdated]
        exact hselect.trans hactive
      · have hfind := updateStatusIfActive_find s bundle.bundleId row.id .processing BundleStatus.active
        rw [hrow, Option.map_some, hid, beq_self_eq_true, hactive, Bool.and_true, if_pos rfl] at hfind
        rw [hid]
        exact hfind
      · simp [hlive]
    · rw [if_pos hupdated]
      exact .pure fun _ _ hp => hp
  · refine Task.Sees.bind (B := fun _ _ _ => True) ?_ fun _ => .fail _
    exact .op fun _ _ _ => trivial

theorem addBundle_sees {t₀ : Time} {row : OperationsBundle} {bundle : SlotBundle}
    (hid : bundle.bundleId = row.id) (httl : bundle.ttl = row.ttl)
    (hactive : row.isIn BundleStatus.active = true) :
    Task.Sees host clockReading (RowSince t₀ row) (Mempool.addBundle cfg bundle)
      fun _ seen s => ∃ t₁, ClockRead t₀ t₁ seen ∧ InsertedAt bundle.channelContractId row t₁ s := by
  have hnow : Task.Sees host clockReading (RowSince t₀ row) (run .now)
      fun t₁ => RowRead t₀ t₁ row := by
    refine .op fun seen s hp => ⟨⟨(hp.1.append _ rfl).1, ?_, hp.1.2⟩, hp.2⟩
    simp [clockReading, host, runOp]
  refine hnow.bind fun t₁ => ?_
  split
  · rename_i hexpired
    rw [isBundleExpired, decide_eq_true_eq, httl] at hexpired
    exact (markExpired_sees hid hexpired).mono (fun _ _ hp => hp) fun _ _ _ hp => ⟨t₁, hp⟩
  rename_i hlive
  rw [isBundleExpired, decide_eq_true_eq, httl, not_le] at hlive
  have hadded (newSlot : Bool) : Task.Sees host clockReading (PlacedRow t₀ t₁ row bundle) (do
      emitForPp bundle.ppPublicKey (Mempool.bundleAddedPayload bundle newSlot)
      Mempool.activate bundle)
      fun _ seen s => ∃ t₁, ClockRead t₀ t₁ seen ∧ InsertedAt bundle.channelContractId row t₁ s := by
    refine (emitForPp_sees (fun _ _ _ _ hp => hp) (fun _ _ _ hp => hp) _ _).bind fun _ => ?_
    exact (activate_sees hid hactive hlive).mono (fun _ _ hp => hp) fun _ _ _ hp => ⟨t₁, hp⟩
  refine Task.Sees.bind (B := fun placement seen s =>
    placement ≠ .slotFull → PlacedRow t₀ t₁ row bundle seen s) ?_ fun placement => ?_
  · refine .op fun seen s hp hplaced => ⟨⟨?_, hp.2⟩, Mempool.place_holds hplaced⟩
    simpa [clockReading] using hp.1
  · cases placement with
    | slotFull => exact .fail _
    | existingSlot =>
      exact (hadded false).mono (fun _ _ hp => hp fun he => by cases he) fun _ _ _ hp => hp
    | newSlot =>
      exact (hadded true).mono (fun _ _ hp => hp fun he => by cases he) fun _ _ _ hp => hp

/-! ## The request -/

theorem permits_leavingBundles : Permits Op.Looks Req.LeavesBundles where
  query _ := trivial
  rpc _ := trivial
  now := trivial
  emit _ _ := trivial
  isDisabled _ := trivial

theorem enqueueBundle_sees {t₀ : Time} {adm : Admission} {row : OperationsBundle}
    (h : StoredRow input adm row) :
    Task.Sees host clockReading (RowSince t₀ row) (enqueueBundle cfg input adm (.row row))
      fun _ seen s => ∃ t₁, ClockRead t₀ t₁ seen ∧ InsertedAt input.channelContractId row t₁ s := by
  have hp := permits_leavingBundles
  refine (rowSince_sees (persistCreateOperations_keeps hp.toReads (fun _ => trivial) _ _ _)).bind
    fun _ => ?_
  refine (rowSince_sees (persistSpendOperations_keeps hp.toReads (fun _ _ => trivial) _ _ _ _ _)).bind
    fun _ => ?_
  refine (rowSince_sees (keeps_run hp.now)).bind fun now => ?_
  refine Task.Sees.bind_of (Q := fun b => b.bundleId = row.id ∧ b.ttl = row.ttl ∧
    b.channelContractId = input.channelContractId) (B := fun _ => RowSince t₀ row) ?_
    fun b hb => ?_
  · refine .done fun b hb seen s hs => ⟨?_, hs⟩
    obtain rfl := Except.ok.inj hb
    simp [h.channel]
  · obtain ⟨hid, httl, hchannel⟩ := hb
    have hactive : row.isIn BundleStatus.active = true := by
      simp [OperationsBundle.isIn, BundleStatus.active, h.status, h.live]
    rw [← hchannel]
    exact addBundle_sees hid httl hactive

/-- No slot bundle is built from the rows that an update hands back. -/
theorem enqueueBundle_array_sees (adm : Admission) (rows : List OperationsBundle) :
    Task.Sees host clockReading P (enqueueBundle cfg input adm (.array rows))
      fun _ _ _ => False := by
  refine Task.Sees.bind (B := fun _ _ _ => True) (fun _ _ _ _ _ _ _ => trivial) fun _ => ?_
  refine Task.Sees.bind (B := fun _ _ _ => True) (fun _ _ _ _ _ _ _ => trivial) fun _ => ?_
  refine Task.Sees.bind (B := fun _ _ _ => True) (fun _ _ _ _ _ _ _ => trivial) fun now => ?_
  refine Task.Sees.bind_of (Q := fun _ => False) (B := fun _ _ _ => True) ?_ fun _ hf => hf.elim
  exact .done fun _ he => nomatch he

end Sees

/-- The signatures of the spends of a request. -/
def spendSignatures (cfg : Config) (input : BundleRequest) : List UtxoSignature :=
  (classifyOperations (input.operationsMLXDR.filterMap cfg.fromMLXDR)).spend.filterMap
    (·.utxoSignature)

/-- What it means that an accepted bundle is queued; `t₁` is the time of the
insertion. -/
structure AcceptedQueued (cfg : Config) (input : BundleRequest) (t₁ : Time)
    (before after : State) : Prop where
  row : ∃ row, after.db.operationsBundles.find (generateBundleId cfg input.operationsMLXDR) =
    some row ∧ row.status = .processing ∧ 1 ≤ row.fee ∧ t₁ < row.ttl
  queued : ∃ slot ∈ after.memory.mempool.slots, slot.channelContractId = input.channelContractId ∧
    ∃ bundle ∈ slot.bundles, bundle.bundleId = generateBundleId cfg input.operationsMLXDR
  /-- No spend signature had expired. -/
  unexpired : ∀ signature ∈ spendSignatures cfg input,
    before.network.latestLedger < signature.exp

/-- The insertion at `t₁` comes within a day of the first look at the clock, at
`t₀`, and before every spend signature expires. -/
def InTime (cfg : Config) (input : BundleRequest) (ledger : Nat) (t₀ t₁ : Time) : Prop :=
  t₁ < t₀ + 24 * 60 * 60 * 1000 ∧ ∀ signature ∈ spendSignatures cfg input,
    t₁ < t₀ + 5000 * ((signature.exp : Int) - ledger)

theorem inTime_iff {cfg : Config} {input : BundleRequest} {ledger : Nat} {t₀ t₁ : Time}
    {classified : ClassifiedOperations}
    (h : classified = classifyOperations (input.operationsMLXDR.filterMap cfg.fromMLXDR)) :
    InTime cfg input ledger t₀ t₁ ↔ t₁ < calculateBundleTtl t₀ classified ledger := by
  have hleast := calculateBundleTtl_isLeast t₀ classified ledger
  constructor
  · rintro ⟨hday, hsignatures⟩
    rcases hleast.1 with he | ⟨op, hop, signature, hsig, he⟩
    · rwa [he]
    · rw [he]
      refine hsignatures signature (List.mem_filterMap.mpr ⟨op, ?_, hsig⟩)
      rwa [← h]
  · intro hlt
    refine ⟨hlt.trans_le (hleast.2 (.inl rfl)), fun signature hmem => ?_⟩
    obtain ⟨op, hop, hsig⟩ := List.mem_filterMap.mp hmem
    rw [← h] at hop
    exact hlt.trans_le (hleast.2 (.inr ⟨op, hop, signature, hsig, rfl⟩))

/-- What a request that returns has read of the clock, and what its insertion
made of its bundle. -/
theorem addOperationsBundle_sees (cfg : Config) (input : BundleRequest) (ledger : Nat) :
    Task.Sees host clockReading (Unread ledger) (addOperationsBundle cfg input)
      fun _ seen s => ∃ adm t₀ t₁ row, Checked cfg input (fun _ => True) adm ∧
        adm.ttl = calculateBundleTtl t₀ adm.classified ledger ∧ StoredRow input adm row ∧
        ClockRead t₀ t₁ seen ∧ InsertedAt input.channelContractId row t₁ s := by
  have hstable : Stable fun _ : State => True :=
    ⟨fun _ _ _ _ => trivial, fun _ _ _ _ => trivial, fun _ _ _ => trivial⟩
  have hchecks := (checkRequest_sees cfg input ledger).and_value (checkRequest_gives hstable input)
  refine hchecks.bind fun adm => ?_
  refine Task.Sees.mono (.of_exists (ι := Time) (Q := fun t₀ =>
    adm.ttl = calculateBundleTtl t₀ adm.classified ledger ∧ Checked cfg input (fun _ => True) adm)
    (P := ClockSince) fun t₀ hadm => ?_) (fun seen s hp => ?_) fun _ _ _ hp => hp
  · refine (persistBundle_sees t₀ adm).bind_of fun entity hentity => ?_
    cases entity with
    | array rows => exact (enqueueBundle_array_sees adm rows).bind fun _ => .pure fun _ _ hf => hf.elim
    | row row =>
      have hstored := hentity row rfl
      refine Task.Sees.bind (((enqueueBundle_sees hstored).mono (fun _ _ hp => hp row rfl))
        fun _ _ _ hp => hp) fun _ => .pure fun seen s hp => ?_
      obtain ⟨t₁, hread, hinserted⟩ := hp
      exact ⟨adm, t₀, t₁, row, hadm.2, hadm.1, hstored, hread, hinserted⟩
  · obtain ⟨⟨hseen, httl⟩, hchecked⟩ := hp
    exact ⟨s.clock, ⟨httl, hchecked⟩, by rw [hseen]; rfl, le_refl _⟩

/-- **Accepted requests.** Where every call is served and a request returns, its
bundle is PROCESSING with a fee, a TTL later than the insertion and a place in
a slot of its channel exactly if the insertion comes in time. -/
theorem accepted_queued_iff (cfg : Config) (input : BundleRequest) (s : State)
    (bs : List (Beat Err)) (id : Option BundleId) (hserves : ∀ b ∈ bs, Beat.Serves b)
    (hret : ((addOperationsBundle cfg input).eval host bs s).1 = some (.ok id)) :
    ∃ t₀ t₁ : Time,
      (((addOperationsBundle cfg input).trace host bs s).filterMap clockReading).head? = some t₀ ∧
      (((addOperationsBundle cfg input).trace host bs s).filterMap clockReading).getLast? = some t₁ ∧
      (AcceptedQueued cfg input t₁ s ((addOperationsBundle cfg input).eval host bs s).2.2 ↔
        InTime cfg input s.network.latestLedger t₀ t₁) := by
  obtain ⟨adm, t₀, t₁, row, hchecked, httl, hstored, hread, hinserted⟩ :=
    addOperationsBundle_sees cfg input s.network.latestLedger bs s [] id hserves ⟨rfl, rfl⟩ hret
  refine ⟨t₀, t₁, hread.first, hread.last, ?_⟩
  have hid : row.id = generateBundleId cfg input.operationsMLXDR := hstored.id.trans hchecked.bundleId
  have hrowTtl : row.ttl = calculateBundleTtl t₀ adm.classified s.network.latestLedger :=
    hstored.ttl.trans httl
  obtain ⟨row', hrow', hfee', httl', hstatus'⟩ := hinserted.written
  rw [hid] at hrow'
  rw [inTime_iff hchecked.classified, ← hrowTtl]
  constructor
  · intro h
    obtain ⟨row'', hrow'', -, -, hlt⟩ := h.row
    rw [hrow'] at hrow''
    cases hrow''
    rwa [httl'] at hlt
  · intro hlt
    refine ⟨⟨row', hrow', hstatus'.mpr hlt, ?_, httl' ▸ hlt⟩, hid ▸ hinserted.queued hlt, ?_⟩
    · rw [hfee', hstored.fee]
      exact hchecked.positive
    · intro signature hmem
      rw [hrowTtl, ← inTime_iff hchecked.classified] at hlt
      have hbefore := hlt.2 signature hmem
      have hle := hread.le
      unfold Time at *
      omega

namespace Small

/-- The row of a UTXO that was funded. -/
def fundedUtxo : Utxo where
  id := "a"
  amount := 5
  accountId := "GSUB"
  createdAtBundleId := none
  createdAt := 0
  updatedAt := 0

/-- The network is past the ledger that the signature of the spend is valid until. -/
def lapsed : State :=
  { funded with
    db := { database with utxos := ⟨[fundedUtxo], by decide⟩ }
    network := { funded.network with latestLedger := 2000 } }

/-- Spend and withdraw. -/
def withdrawal : BundleRequest := request ["spend a", "withdraw 3"]

end Small

/-- A bundle whose spend signature has expired is marked EXPIRED, and the request
returns its id. -/
theorem accepted_not_queued :
    ¬ ∀ (cfg : Config) (input : BundleRequest) (s : State) (bs : List (Beat Err))
      (id : Option BundleId), (∀ b ∈ bs, Beat.Serves b) →
      ((addOperationsBundle cfg input).eval host bs s).1 = some (.ok id) →
      ∃ t₁, (((addOperationsBundle cfg input).trace host bs s).filterMap clockReading).getLast? =
          some t₁ ∧
        AcceptedQueued cfg input t₁ s ((addOperationsBundle cfg input).eval host bs s).2.2 := by
  intro h
  have hret : ((addOperationsBundle Small.config Small.withdrawal).eval host [] Small.lapsed).1 =
      some (.ok (some "spend a,withdraw 3")) := by decide +kernel
  obtain ⟨t₁, -, haccepted⟩ := h _ _ _ [] _ (fun b hb => nomatch hb) hret
  obtain ⟨row, hrow, hstatus, -, -⟩ := haccepted.row
  have hexpired : (((addOperationsBundle Small.config Small.withdrawal).eval host []
      Small.lapsed).2.2.db.operationsBundles.find (generateBundleId Small.config
        Small.withdrawal.operationsMLXDR)).map (·.status) = some .expired := by decide +kernel
  rw [hrow, Option.map_some, hstatus] at hexpired
  cases hexpired

/-- A deposit, with a second between two calls. -/
theorem accepted_queued_iff_small :
    ∃ t₀ t₁ : Time,
      (((addOperationsBundle Small.config (Small.request ["deposit 10"])).trace host
        (List.replicate 10 ⟨1000, .serve⟩) Small.state).filterMap clockReading).head? = some t₀ ∧
      (((addOperationsBundle Small.config (Small.request ["deposit 10"])).trace host
        (List.replicate 10 ⟨1000, .serve⟩) Small.state).filterMap clockReading).getLast? = some t₁ ∧
      (AcceptedQueued Small.config (Small.request ["deposit 10"]) t₁ Small.state
          ((addOperationsBundle Small.config (Small.request ["deposit 10"])).eval host
            (List.replicate 10 ⟨1000, .serve⟩) Small.state).2.2 ↔
        InTime Small.config (Small.request ["deposit 10"]) 0 t₀ t₁) :=
  accepted_queued_iff Small.config (Small.request ["deposit 10"]) Small.state
    (List.replicate 10 ⟨1000, .serve⟩) (some "deposit 10")
    (fun b hb => List.eq_of_mem_replicate hb ▸ rfl) (by decide +kernel)

end ProviderPlatform
