import ProviderPlatform.Async.Eval
import ProviderPlatform.Frame

/-! # What the checks of a request establish

`checkRequest` reads the database, the network and the clock and writes
nothing but the record of a rejected submitter. What it returns is stated in
terms of the states it read from, under any property of the state that its
reads leave alone. -/
namespace ProviderPlatform
open Async

/-! ## Reading -/

/-- Leaves the memory alone. -/
def Op.Looks : Op → Prop
  | .now | .emit _ _ | .isDisabled _ => True
  | _ => False

/-- Leaves the tables of bundles and UTXOs alone. -/
def Req.Looks : Req → Prop
  | .query _ | .rpc _ | .command (.recordInteraction _ _) => True
  | _ => False

theorem permits_looks : Permits Op.Looks Req.Looks where
  query _ := trivial
  rpc _ := trivial
  now := trivial
  emit _ _ := trivial
  isDisabled _ := trivial

/-- A property of the state that reading keeps. -/
structure Stable (P : State → Prop) : Prop where
  runOp : ∀ o s, o.Looks → P s → P (runOp o s).2
  serve : ∀ q s, q.Looks → P s → P (serve q s).2
  pass : ∀ n s, P s → P (host.pass n s)

/-! ## Checks -/

/-- The fee of a bundle, from the balances of its spends. -/
def feeOf (balance : UtxoId → Int) (classified : ClassifiedOperations) : Int :=
  (calculateFee (operationAmounts classified (classified.spend.map fun op => balance op.utxo))).fee

/-- What the checks established, each fact about a state they read from. -/
structure Checked (cfg : Config) (input : BundleRequest) (P : State → Prop) (adm : Admission) :
    Prop where
  bundleId : adm.bundleId = generateBundleId cfg input.operationsMLXDR
  classified : adm.classified = classifyOperations (input.operationsMLXDR.filterMap cfg.fromMLXDR)
  fee : ∃ s, P s ∧ adm.fee = feeOf (s.network.balance adm.channelClient) adm.classified
  positive : 1 ≤ adm.fee
  reuse : adm.isBundleExpired = true → ∃ s, P s ∧ ∃ row,
    s.db.operationsBundles.find adm.bundleId = some row ∧
      (row.status = .expired ∨ row.status = .failed)

section Checks
variable {α : Type} {P : State → Prop} {ok : Beat Err → Prop} {cfg : Config}
variable {input : BundleRequest}

theorem Stable.gives {t : Promise α} (h : Stable P) (ht : Keeps Op.Looks Req.Looks t) :
    Task.Gives host ok P t fun _ => True :=
  .of_uses h.runOp h.serve h.pass ht

theorem Stable.query_gives {q : Query} (h : Stable P) :
    Task.Gives host ok P (query q) fun a => ∃ s, P s ∧ a = q.run s.db :=
  .call h.pass fun s hs => ⟨hs, fun _ ha => ⟨s, hs, (Except.ok.inj ha).symm⟩⟩

theorem withAdmissionTimeout_gives {t : Promise α} {Q : α → Prop} (channel : ContractId)
    (h : Task.Gives host ok P t Q) :
    Task.Gives host ok P (withAdmissionTimeout channel t) Q := by
  refine h.recover fun e => ?_
  split <;> exact .fail _

theorem fetchUtxoBalances_gives (h : Stable P) (client : ContractId) (utxos : List UtxoId) :
    Task.Gives host ok P (fetchUtxoBalances client utxos)
      fun balances => ∃ s, P s ∧ balances = utxos.map (s.network.balance client) := by
  unfold fetchUtxoBalances
  split
  · rename_i hempty
    refine .of_state fun s hs => .pure ⟨s, hs, ?_⟩
    rw [List.isEmpty_iff.mp hempty]
    rfl
  · exact .call h.pass fun s hs => ⟨hs, fun _ ha => ⟨s, hs, (Except.ok.inj ha).symm⟩⟩

theorem calculateFeeAndTtl_gives (h : Stable P) (channel client : ContractId)
    (classified : ClassifiedOperations) :
    Task.Gives host ok P (calculateFeeAndTtl channel client classified) fun feeAndTtl =>
      (∃ s, P s ∧ feeAndTtl.1 = feeOf (s.network.balance client) classified) ∧ 1 ≤ feeAndTtl.1 := by
  have hp := permits_looks
  have hamounts : Task.Gives host ok P (calculateOperationAmounts client classified) fun amounts =>
      ∃ s, P s ∧ amounts = operationAmounts classified
        (classified.spend.map fun op => s.network.balance client op.utxo) := by
    refine (fetchUtxoBalances_gives h client _).bind fun balances hbal => .pure ?_
    obtain ⟨s, hs, rfl⟩ := hbal
    exact ⟨s, hs, by rw [List.map_map]; rfl⟩
  refine (withAdmissionTimeout_gives channel hamounts).bind fun amounts hamounts => ?_
  obtain ⟨s, hs, rfl⟩ := hamounts
  dsimp only
  split
  · exact .fail _
  · rename_i hfee
    refine (h.gives (withAdmissionTimeout_keeps _ (keeps_rpc hp.toReads _))).bind fun _ _ => ?_
    refine (h.gives (keeps_run hp.now)).bind fun _ _ => .pure ⟨⟨s, hs, rfl⟩, ?_⟩
    exact Int.not_lt.mp hfee

/-- A bundle is reused only if it is EXPIRED or FAILED. -/
theorem assertBundleIsExpired_gives (h : Stable P) (id : BundleId) :
    Task.Gives host ok P (assertBundleIsExpired id) fun reuse => reuse = true → ∃ s, P s ∧ ∃ row,
      s.db.operationsBundles.find id = some row ∧
        (row.status = .expired ∨ row.status = .failed) := by
  refine h.query_gives.bind fun existing hexisting => ?_
  obtain ⟨s, hs, he⟩ := hexisting
  cases existing with
  | none => exact .pure nofun
  | some row =>
    dsimp only
    split
    · rename_i hstatus
      have hrow : s.db.operationsBundles.find id = some row :=
        (Option.filter_eq_some_iff.mp he.symm).1
      exact .pure fun _ => ⟨s, hs, row, hrow, hstatus⟩
    · exact .fail _

theorem parseOperations_ok {mlxdr : List MLXDR} {operations : List MoonlightOperation}
    (h : parseOperations cfg mlxdr = .ok operations) :
    operations = mlxdr.filterMap cfg.fromMLXDR := by
  unfold parseOperations at h
  split at h
  · cases h
  · exact (Except.ok.inj h).symm

/-- **What a request that passes the checks establishes.** -/
theorem checkRequest_gives (h : Stable P) (input : BundleRequest) :
    Task.Gives host ok P (checkRequest cfg input) (Checked cfg input P) := by
  have hp := permits_looks
  unfold checkRequest
  split
  · exact .fail _
  split
  · exact .fail _
  refine (h.gives (withAdmissionTimeout_keeps _ (keeps_rpc hp.toReads _))).bind fun ctx _ => ?_
  refine (h.gives (validateSubmitter_keeps hp.query (fun _ _ => trivial) _ _)).bind fun submitter _ => ?_
  refine (assertBundleIsExpired_gives h _).bind fun isBundleExpired hreuse => ?_
  refine (Task.Gives.done fun _ => parseOperations_ok).bind fun operations hops => ?_
  refine (h.gives (keeps_done _)).bind fun _ _ => ?_
  refine (h.gives (keeps_run (hp.isDisabled _))).bind fun isDisabled _ => ?_
  split
  · exact .fail _
  refine (calculateFeeAndTtl_gives h _ _ _).bind fun feeAndTtl hfee => .pure ?_
  exact ⟨rfl, by rw [hops], hfee.1, hfee.2, hreuse⟩

end Checks

end ProviderPlatform
