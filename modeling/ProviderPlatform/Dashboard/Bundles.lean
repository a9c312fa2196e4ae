import ProviderPlatform.Provider

/-! # What is shown of a bundle

The DTO of the bundle endpoints, and the detail and the list of the
dashboard. Each copies the status and the failure detail of the row. -/
namespace ProviderPlatform
open Store

/-! ## The DTO -/

structure BundleDTO where
  id : BundleId
  status : BundleStatus
  ttl : Time
  operationsMLXDR : List MLXDR
  fee : String
  createdAt : Time
  updatedAt : Time
  failureDetail : Option FailureDetail
  deriving DecidableEq

def toBundleDTO (bundle : OperationsBundle) : BundleDTO where
  id := bundle.id
  status := bundle.status
  ttl := bundle.ttl
  operationsMLXDR := bundle.operationsMLXDR
  fee := toString bundle.fee
  createdAt := bundle.createdAt
  updatedAt := bundle.updatedAt
  failureDetail := bundle.failureDetail

/-! ## The dashboard -/

inductive OpKind
  | deposit
  | withdraw
  | spend
  | create
  | unknown
  deriving DecidableEq

structure OpView where
  kind : OpKind
  address : Option PublicKey := none
  amount : Option String := none
  deriving DecidableEq

def classify : MoonlightOperation → OpView
  | .deposit op => { kind := .deposit, address := some op.publicKey, amount := some (toString op.amount) }
  | .withdraw op =>
    { kind := .withdraw, address := some op.publicKey, amount := some (toString op.amount) }
  | .spend _ => { kind := .spend }
  | .create _ => { kind := .create }

/-- The view of one operation; one that does not parse is unknown. -/
def viewOperation (cfg : Config) (mlxdr : MLXDR) : OpView :=
  match cfg.fromMLXDR mlxdr with
  | some op => classify op
  | none => { kind := .unknown }

/-- The sums of the loop over the operations. -/
structure AmountSums where
  depositSum : Int := 0
  withdrawSum : Int := 0
  createSum : Int := 0
  hasDeposit : Bool := false
  hasWithdraw : Bool := false
  hasCreate : Bool := false

def AmountSums.push (sums : AmountSums) : MoonlightOperation → AmountSums
  | .deposit op => { sums with depositSum := sums.depositSum + op.amount, hasDeposit := true }
  | .withdraw op => { sums with withdrawSum := sums.withdrawSum + op.amount, hasWithdraw := true }
  | .create op => { sums with createSum := sums.createSum + op.amount, hasCreate := true }
  | .spend _ => sums

/-- The sum of the dominant kind of operation; what does not parse is ignored. -/
def aggregateAmountFromMLXDR (cfg : Config) (mlxdrs : List MLXDR) : Option String :=
  let sums := mlxdrs.foldl (fun (sums : AmountSums) mlxdr =>
    match cfg.fromMLXDR mlxdr with
    | some op => sums.push op
    | none => sums) {}
  if sums.hasDeposit then some (toString sums.depositSum)
  else if sums.hasWithdraw then some (toString sums.withdrawSum)
  else if sums.hasCreate then some (toString sums.createSum)
  else none

/-- The entity of the account that submitted a bundle. -/
def Database.submitterEntity (db : Database) (createdBy : Option AccountId) : Option Entity := do
  let submitterAccount ← db.directory.accounts.find (← createdBy)
  db.directory.entities.find submitterAccount.entityId

structure BundleDetailData where
  id : BundleId
  status : BundleStatus
  channelContractId : Option ContractId
  operations : List OpView
  entityName : Option String
  jurisdictions : List String
  amount : Option String
  failureDetail : Option FailureDetail
  deriving DecidableEq

inductive BundleDetailResponse
  | badRequest (message : String)
  | notFound (message : String)
  | ok (message : String) (data : BundleDetailData)
  deriving DecidableEq

/-- One bundle of the PP with its decoded operations. -/
def handleGetBundleDetail (cfg : Config) (db : Database) (ppPublicKey : PublicKey)
    (bundleId : BundleId) : BundleDetailResponse :=
  if bundleId = "" then .badRequest "Bundle id is required"
  else
    match Query.run db (.findBundleById bundleId) with
    | none => .notFound "Bundle not found"
    | some bundle =>
      if bundle.ppPublicKey ≠ some ppPublicKey then .notFound "Bundle not found"
      else
        let submitterEntity := db.submitterEntity (bundle.createdBy.filter (· != ""))
        .ok "Bundle detail" {
          id := bundle.id
          status := bundle.status
          channelContractId := bundle.channelContractId
          operations := bundle.operationsMLXDR.map (viewOperation cfg)
          entityName := submitterEntity.bind (·.name)
          jurisdictions := (submitterEntity.bind (·.jurisdictions)).getD []
          amount := aggregateAmountFromMLXDR cfg bundle.operationsMLXDR
          failureDetail := bundle.failureDetail }

def listDefaultLimit : Int := 25
def listMaxLimit : Int := 200
def listWindowMs : Int := 6 * 60 * 60 * 1000

structure RecentBundle where
  id : BundleId
  status : BundleStatus
  channelContractId : Option ContractId
  entityName : Option String
  jurisdictions : List String
  amount : Option String
  failureDetail : Option FailureDetail
  createdAt : Time
  updatedAt : Time
  deriving DecidableEq

/-- One row of the list, with its submitter joined. -/
def recentBundle (cfg : Config) (db : Database) (r : OperationsBundle) : RecentBundle where
  id := r.id
  status := r.status
  channelContractId := r.channelContractId
  entityName := (db.submitterEntity r.createdBy).bind (·.name)
  jurisdictions := ((db.submitterEntity r.createdBy).bind (·.jurisdictions)).getD []
  amount := aggregateAmountFromMLXDR cfg r.operationsMLXDR
  failureDetail := r.failureDetail
  createdAt := r.createdAt
  updatedAt := r.updatedAt

/-- The PP's bundles of the last six hours, the latest first. -/
def handleListRecentBundles (cfg : Config) (db : Database) (now : Time) (ppPublicKey : PublicKey)
    (limitParam : Option Int) : List RecentBundle :=
  let limit := (limitParam.map fun n => min listMaxLimit (max 1 n)).getD listDefaultLimit
  let windowStart := now - listWindowMs
  let rows := db.operationsBundles.select fun r =>
    r.deletedAt.isNone && decide (r.updatedAt ≥ windowStart) && r.ppPublicKey == some ppPublicKey
  ((rows.insertionSort fun a b => b.updatedAt ≤ a.updatedAt).take limit.toNat).map
    (recentBundle cfg db)

/-! ## What they show -/

section Shown
variable {cfg : Config} {db : Database} {ppPublicKey : PublicKey}

/-- The detail shows the status and the failure detail of one row. -/
theorem handleGetBundleDetail_shows {bundleId : BundleId} {message : String}
    {data : BundleDetailData}
    (h : handleGetBundleDetail cfg db ppPublicKey bundleId = .ok message data) :
    ∃ row, db.operationsBundles.find bundleId = some row ∧ data.status = row.status ∧
      data.failureDetail = row.failureDetail := by
  unfold handleGetBundleDetail at h
  split at h
  · simp at h
  split at h
  · simp at h
  rename_i bundle hbundle
  split at h
  · simp at h
  obtain ⟨-, rfl⟩ := BundleDetailResponse.ok.inj h
  obtain ⟨hfind, -⟩ := Option.filter_eq_some_iff.mp hbundle
  exact ⟨bundle, hfind, rfl, rfl⟩

/-- So does each entry of the list. -/
theorem handleListRecentBundles_shows {now : Time} {limitParam : Option Int} {r : RecentBundle}
    (h : r ∈ handleListRecentBundles cfg db now ppPublicKey limitParam) :
    ∃ row ∈ db.operationsBundles.rows, r.status = row.status ∧
      r.failureDetail = row.failureDetail := by
  obtain ⟨row, hrow, rfl⟩ := List.mem_map.mp h
  have hsorted := (List.perm_insertionSort _ _).mem_iff.mp (List.mem_of_mem_take hrow)
  obtain ⟨hmem, -⟩ := Table.mem_select.mp hsorted
  exact ⟨row, hmem, rfl, rfl⟩

end Shown

end ProviderPlatform
