import ProviderPlatform.Lifecycle.Stamped

/-! # What is queued can be executed

A bundle without a positive fee is refused at admission, because the operation
for the fee could not be built. No later write takes the fee away: the row of a
bundle that is PENDING or PROCESSING has a fee and names its channel and its PP,
and so does each bundle that the boot, a request or a tick puts into the queue. -/
namespace ProviderPlatform
open Async Store

/-! ## Bundles and rows -/

structure SlotBundle.Payable (b : SlotBundle) : Prop where
  fee : 1 ≤ b.fee
  channel : b.channelContractId ≠ ""
  pp : b.ppPublicKey ≠ ""

structure OperationsBundle.Payable (row : OperationsBundle) : Prop where
  fee : 1 ≤ row.fee
  channel : row.channelContractId.getD "" ≠ ""
  pp : row.ppPublicKey.getD "" ≠ ""

/-- A payable row stays so, and makes a payable bundle. -/
def payable (cfg : Config) : Stamp cfg where
  row := OperationsBundle.Payable
  bundle := SlotBundle.Payable
  spares r now data hdata hrow := by
    obtain ⟨hchannel, -, hfee, hpp⟩ := hdata
    refine ⟨?_, ?_, ?_⟩
    · simpa [OperationsBundle.set, hfee] using hrow.fee
    · simpa [OperationsBundle.set, hchannel] using hrow.channel
    · simpa [OperationsBundle.set, hpp] using hrow.pp
  hydrates r hrow := by
    refine (Task.yields_any _).bind fun operations _ => ?_
    refine (Task.yields_any _).bind fun now _ => ?_
    refine (Task.yields_any _).bind fun submitter _ => ?_
    exact .pure ⟨hrow.fee, hrow.channel, hrow.pp⟩
  retries b _ _ hb := ⟨hb.fee, hb.channel, hb.pp⟩

/-! ## Admission -/

section Admission
variable {cfg : Config}

/-- A fee that is not positive is refused. -/
theorem calculateFeeAndTtl_payable (channel client : ContractId)
    (classified : ClassifiedOperations) :
    (calculateFeeAndTtl channel client classified).Yields fun feeAndTtl => 1 ≤ feeAndTtl.1 := by
  refine (Task.yields_any _).bind fun amounts _ => ?_
  dsimp only
  split
  · exact Task.Yields.fail _
  · rename_i hfee
    refine (Task.yields_any _).bind fun ledger _ => ?_
    refine (Task.yields_any _).bind fun now _ => ?_
    exact .pure (Int.not_lt.mp hfee)

theorem checkRequest_payable (input : BundleRequest) :
    (checkRequest cfg input).Yields fun adm => 1 ≤ adm.fee ∧ input.ppPublicKey ≠ "" := by
  unfold checkRequest
  split
  · exact Task.Yields.fail _
  split
  · exact Task.Yields.fail _
  rename_i hpp
  refine (Task.yields_any _).bind fun ctx _ => ?_
  refine (Task.yields_any _).bind fun submitter _ => ?_
  refine (Task.yields_any _).bind fun expired _ => ?_
  refine (Task.yields_any _).bind fun operations _ => ?_
  refine (Task.yields_any _).bind fun _ _ => ?_
  refine (Task.yields_any _).bind fun disabled _ => ?_
  split
  · exact Task.Yields.fail _
  · exact (calculateFeeAndTtl_payable _ _ _).bind fun feeAndTtl hfee => .pure ⟨hfee, hpp⟩

theorem addOperationsBundle_payable {μ : Type} {O : Observer platform State Call μ}
    {ok : μ → Prop} {l : Call} {input : BundleRequest} (hchannel : input.channelContractId ≠ "") :
    Stamps (payable cfg) O ok l (addOperationsBundle cfg input) fun _ => True := by
  refine addOperationsBundle_stamps (stamps_yields (checkRequest_keeps
    permits_stamped.toAnnounces (fun _ _ => trivial) cfg input) (checkRequest_payable input)) ?_ ?_
  · rintro adm ⟨hfee, hpp⟩ row hof
    refine ⟨hof.fee ▸ hfee, ?_, ?_⟩
    · rw [hof.channelContractId]
      exact hchannel
    · rw [hof.ppPublicKey]
      exact hpp
  · rintro adm ⟨hfee, hpp⟩ row hof now entityName jurisdictions bundle hbundle
    cases hbundle
    refine ⟨hof.fee ▸ hfee, ?_, ?_⟩
    · show row.channelContractId.getD "" ≠ ""
      rw [hof.channelContractId]
      exact hchannel
    · show row.ppPublicKey.getD "" ≠ ""
      rw [hof.ppPublicKey]
      exact hpp

end Admission

/-- The request names a channel, as its schema demands. -/
def Call.isNamed : Call → Bool
  | .addOperationsBundle input => input.channelContractId != ""
  | _ => true

/-! ## Runs -/

/-- A provider whose requests have passed the schema. -/
abbrev served (cfg : Config) (fuel : Nat) : Machine platform State Call Drift :=
  process cfg fuel fun s l => s.memory.started && (l.isService || l.isPurge) && l.isNamed

section Runs
variable {cfg : Config} {fuel : Nat} {s : State} {c : ProviderPool}

theorem payable_reachable (hfresh : Fresh cfg s)
    (h : (served cfg fuel).Run Machine.Free ((served cfg fuel).init s) c) :
    c.state.Stamped (payable cfg) := by
  obtain ⟨m, hm⟩ := h.observed Observer.blind ()
  refine stamped_reachable (looksback_true _) (fun s l hl => ?_) (fun s input hl => ?_)
    (.fresh hfresh) hm trivial
  · simp only [Bool.and_eq_true] at hl
    exact hl.1.2
  · refine addOperationsBundle_payable ?_
    simp only [Bool.and_eq_true] at hl
    simpa [Call.isNamed] using hl.2

/-- A served run is one of a provider whose requests may be anything. -/
theorem operated_of_served {c c' : ProviderPool} (h : (served cfg fuel).Run Machine.Free c c') :
    (operated cfg fuel).Run Machine.Free c c' :=
  h.of_startable fun _ _ hl => (Bool.and_eq_true_iff.mp hl).1

/-- **What waits can be paid for.** In every run from a fresh database each bundle
of the queue has a positive fee and names its channel and its PP, and so does
every row that is PENDING or PROCESSING, from which a boot fills the queue again. -/
theorem waiting_payable (hfresh : Fresh cfg s)
    (h : (served cfg fuel).Run Machine.Free ((served cfg fuel).init s) c) :
    (∀ b ∈ c.state.memory.mempool.queued, b.Payable) ∧
      ∀ id row, c.state.db.operationsBundles.find id = some row →
        row.status ∈ BundleStatus.active → row.Payable := by
  have hstamped := payable_reachable hfresh h
  exact ⟨hstamped.queued, hstamped.rows⟩

end Runs

/-- The deposit that has been admitted. -/
theorem waiting_payable_small : ∃ (c : ProviderPool) (b : SlotBundle),
    c.state.memory.mempool.queued = [b] ∧ b.bundleId = "deposit 10" ∧ b.Payable := by
  obtain ⟨c, hr, hp⟩ := Machine.exists_run_of_replay (M := served Small.config 1)
    (G := Machine.Free) (c := (served Small.config 1).init Small.state) Small.admitted
    (fun s => s.memory.mempool.queuedIds == ["deposit 10"]) (by decide +kernel)
  obtain ⟨b, hqueued, hid⟩ := List.map_eq_singleton_iff.mp (eq_of_beq hp)
  refine ⟨c, b, hqueued, hid, (waiting_payable Small.fresh hr).1 b ?_⟩
  rw [hqueued]
  exact List.mem_singleton_self b

end ProviderPlatform
