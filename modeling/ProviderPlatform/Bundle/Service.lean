import ProviderPlatform.Bundle.Types
import Mathlib.Algebra.Order.Ring.Rat
import Mathlib.Algebra.Field.Rat

/-! # The bundle service

Classification, fee, weight, TTL and priority of a bundle. -/
namespace ProviderPlatform

/-- Classifies operations by type. -/
def classifyOperations (operations : List MoonlightOperation) : ClassifiedOperations where
  create := operations.filterMap fun | .create op => some op | _ => none
  spend := operations.filterMap fun | .spend op => some op | _ => none
  deposit := operations.filterMap fun | .deposit op => some op | _ => none
  withdraw := operations.filterMap fun | .withdraw op => some op | _ => none

/-- At least one withdraw and no deposit. -/
def isWithdrawOnlyBundle (classified : ClassifiedOperations) : Bool :=
  classified.deposit.length == 0 && decide (classified.withdraw.length > 0)

/-- The totals for each operation type, from the balances read for the spends. -/
def operationAmounts (classified : ClassifiedOperations) (spendBalances : List Int) :
    OperationAmounts where
  totalDepositAmount := (classified.deposit.map (·.amount)).sum
  totalCreateAmount := (classified.create.map (·.amount)).sum
  totalWithdrawAmount := (classified.withdraw.map (·.amount)).sum
  totalSpendAmount := spendBalances.sum

/-- Calculates the bundle fee. Spends count only when there are no inflows. -/
def calculateFee (breakdown : OperationAmounts) : FeeCalculation :=
  let totalInflows := breakdown.totalDepositAmount
  let totalOutflows := breakdown.totalCreateAmount + breakdown.totalWithdrawAmount
  { fee := if totalInflows ≤ 0 then breakdown.totalSpendAmount - totalOutflows
           else totalInflows - totalOutflows
    totalInflows, totalOutflows, breakdown }

/-- Generates the bundle ID from the operations. -/
def generateBundleId (cfg : Config) (operationsMLXDR : List MLXDR) : BundleId :=
  cfg.sha256Hash operationsMLXDR

/-- Default bundle TTL window. -/
def defaultBundleTtlMs : Int := 1000 * 60 * 60 * 24

/-- Approximate Stellar ledger close time in milliseconds. -/
def stellarLedgerCloseTimeMs : Int := 5000

/-- The earliest expiration ledger of the spend signatures. -/
def minExpirationLedger (spend : List SpendOperation) : Option Nat :=
  (spend.filterMap fun op => op.utxoSignature.map (·.exp)).min?

/-- 24 hours from now, capped by the earliest spend signature expiration. -/
def calculateBundleTtl (now : Time) (classified : ClassifiedOperations)
    (latestLedgerSequence : Nat) : Time :=
  let defaultTtl := now + defaultBundleTtlMs
  match minExpirationLedger classified.spend with
  | none => defaultTtl
  | some exp =>
    let msUntilExpiration := ((exp : Int) - latestLedgerSequence) * stellarLedgerCloseTimeMs
    let signatureTtl := now + msUntilExpiration
    if signatureTtl < defaultTtl then signatureTtl else defaultTtl

/-- Expensive operations (spend, withdraw) and cheap ones (deposit, create). -/
def calculateBundleWeight (classified : ClassifiedOperations) (config : WeightConfig) : Nat :=
  let expensiveOpsCount := classified.spend.length + classified.withdraw.length
  let cheapOpsCount := classified.deposit.length + classified.create.length
  expensiveOpsCount * config.expensiveOpWeight + cheapOpsCount * config.cheapOpWeight

/-- Fee (60%), age (30%) and TTL proximity (10%); higher means first. -/
def calculatePriorityScore (now : Time) (fee : Int) (ttl createdAt : Time) : Rat :=
  let feeScore : Rat := fee / 1000000
  let ageHours : Rat := (now - createdAt : Int) / (1000 * 60 * 60)
  let ageScore : Rat := min (ageHours / 24) 1
  let timeRemainingMs : Rat := (ttl - now : Int)
  let timeRemainingHours : Rat := max 0 (timeRemainingMs / (1000 * 60 * 60))
  let ttlScore : Rat := if timeRemainingHours > 0 then 24 / (timeRemainingHours + 1) else 24
  feeScore * (6 / 10) + ageScore * (3 / 10) + ttlScore * (1 / 10)

/-- The sum of the dominant kind of operation. -/
def aggregateBundleAmount (classified : ClassifiedOperations) : Option String :=
  if classified.deposit.length > 0 then some (toString (classified.deposit.map (·.amount)).sum)
  else if classified.withdraw.length > 0 then
    some (toString (classified.withdraw.map (·.amount)).sum)
  else if classified.create.length > 0 then
    some (toString (classified.create.map (·.amount)).sum)
  else none

end ProviderPlatform
