import ProviderPlatform.Provider

/-! # The transaction detail of a PP

`buildTxDetail` shows a transaction to a PP as soon as one of its bundles is
the PP's, and then aggregates over all of its bundles. So the detail is the
PP's own only where no other PP's bundle is linked to the transaction. -/
namespace ProviderPlatform
open Store

/-! ## The detail -/

structure DepositDetail where
  depositorAddress : PublicKey
  amount : String
  deriving DecidableEq

structure WithdrawDetail where
  recipientAddress : PublicKey
  amount : String
  deriving DecidableEq

structure ParsedOps where
  deposits : List DepositDetail := []
  withdraws : List WithdrawDetail := []
  spendCount : Nat := 0
  createCount : Nat := 0
  deriving DecidableEq

/-- Count one operation in. -/
def ParsedOps.push (ops : ParsedOps) : MoonlightOperation → ParsedOps
  | .deposit op => { ops with deposits := ops.deposits ++ [⟨op.publicKey, toString op.amount⟩] }
  | .withdraw op => { ops with withdraws := ops.withdraws ++ [⟨op.publicKey, toString op.amount⟩] }
  | .spend _ => { ops with spendCount := ops.spendCount + 1 }
  | .create _ => { ops with createCount := ops.createCount + 1 }

/-- The operations of a bundle; one that does not parse is skipped. -/
def parseBundleOps (cfg : Config) (operationsMLXDR : List MLXDR) : ParsedOps :=
  operationsMLXDR.foldl (fun ops mlxdr =>
    match cfg.fromMLXDR mlxdr with
    | some op => ops.push op
    | none => ops) {}

structure BundleDetail where
  id : BundleId
  createdAt : Time
  ops : ParsedOps
  deriving DecidableEq

structure UtxoDetail where
  id : UtxoId
  amount : String
  createdAtBundleId : Option BundleId
  spent : Bool
  deriving DecidableEq

structure Timeline where
  mempoolAt : Option Time
  submittedAt : Time
  verifiedAt : Option Time
  deriving DecidableEq

structure TxDetail where
  id : TxHash
  status : TransactionStatus
  ledgerSequence : String
  channelContractId : Option ContractId
  timeline : Timeline
  senders : List PublicKey
  receivers : List PublicKey
  deposits : List DepositDetail
  withdraws : List WithdrawDetail
  bundles : List BundleDetail
  utxos : List UtxoDetail
  deriving DecidableEq

def Utxo.detail (row : Utxo) : UtxoDetail :=
  ⟨row.id, toString row.amount, row.createdAtBundleId, row.spentAtBundleId.isSome⟩

/-- What the loop over the links has gathered. -/
structure TxAggregate where
  bundles : List BundleDetail := []
  earliestBundleCreatedAt : Option Time := none
  channelContractId : Option ContractId := none
  matchesPp : Bool := false
  aggregatedDeposits : List DepositDetail := []
  aggregatedWithdraws : List WithdrawDetail := []

/-- Gather one bundle in. -/
def TxAggregate.push (cfg : Config) (ppPublicKey : PublicKey) (agg : TxAggregate)
    (bundle : OperationsBundle) : TxAggregate :=
  let ops := parseBundleOps cfg bundle.operationsMLXDR
  { bundles := agg.bundles ++ [⟨bundle.id, bundle.createdAt, ops⟩]
    earliestBundleCreatedAt :=
      match agg.earliestBundleCreatedAt with
      | none => some bundle.createdAt
      | some earliest => if bundle.createdAt < earliest then some bundle.createdAt else some earliest
    channelContractId := agg.channelContractId <|> bundle.channelContractId.filter (· != "")
    matchesPp := agg.matchesPp || bundle.ppPublicKey == some ppPublicKey
    aggregatedDeposits := agg.aggregatedDeposits ++ ops.deposits
    aggregatedWithdraws := agg.aggregatedWithdraws ++ ops.withdraws }

/-- Gather the bundle of a link in, unless it is deleted. -/
def TxAggregate.pushLink (cfg : Config) (db : Database) (ppPublicKey : PublicKey)
    (agg : TxAggregate) (link : BundleTransaction) : TxAggregate :=
  match Query.run db (.findBundleById link.bundleId) with
  | none => agg
  | some bundle => agg.push cfg ppPublicKey bundle

/-- The detail of a transaction, from what was gathered. -/
def TxDetail.of (tx : Transaction) (agg : TxAggregate) (utxos : List Utxo) : TxDetail where
  id := tx.id
  status := tx.status
  ledgerSequence := tx.ledgerSequence
  channelContractId := agg.channelContractId
  timeline := ⟨agg.earliestBundleCreatedAt, tx.createdAt,
    if tx.status = .verified then some tx.updatedAt else none⟩
  senders := agg.aggregatedDeposits.map (·.depositorAddress)
  receivers := agg.aggregatedWithdraws.map (·.recipientAddress)
  deposits := agg.aggregatedDeposits
  withdraws := agg.aggregatedWithdraws
  bundles := agg.bundles
  utxos := utxos.map Utxo.detail

namespace Database

def findTransactionById (db : Database) (id : TxHash) : Option Transaction :=
  (db.transactions.find id).filter (·.deletedAt.isNone)

def findByCreatedAtBundleId (db : Database) (bundleId : BundleId) : List Utxo :=
  db.utxos.select fun row => row.deletedAt.isNone && row.createdAtBundleId == some bundleId

end Database

/-- The detail of a transaction for a PP, or nothing if the transaction is
unknown or none of its bundles is the PP's. -/
def buildTxDetail (cfg : Config) (db : Database) (txId : TxHash) (ppPublicKey : PublicKey) :
    Option TxDetail :=
  match db.findTransactionById txId with
  | none => none
  | some tx =>
    let bundleLinks := Query.run db (.findLinksByTransactionId txId)
    let agg := bundleLinks.foldl (TxAggregate.pushLink cfg db ppPublicKey) {}
    if !agg.matchesPp then none
    else
      some (.of tx agg (bundleLinks.flatMap fun link => db.findByCreatedAtBundleId link.bundleId))

/-! ## What it aggregates -/

namespace Database

/-- The links of a transaction. -/
def linksOf (db : Database) (txId : TxHash) : List BundleTransaction :=
  Query.run db (.findLinksByTransactionId txId)

/-- The bundle of a link, unless it is deleted. -/
def bundleOf (db : Database) (link : BundleTransaction) : Option OperationsBundle :=
  Query.run db (.findBundleById link.bundleId)

/-- The UTXOs that the bundle of a link created. -/
def utxosOf (db : Database) (link : BundleTransaction) : List Utxo :=
  db.findByCreatedAtBundleId link.bundleId

end Database

/-- The aggregate of a list of bundles. -/
def TxAggregate.of (cfg : Config) (ppPublicKey : PublicKey) (bundles : List OperationsBundle) :
    TxAggregate :=
  bundles.foldl (TxAggregate.push cfg ppPublicKey) {}

section Aggregate
variable {cfg : Config} {ppPublicKey : PublicKey}

theorem TxAggregate.foldl_push_matchesPp (bundles : List OperationsBundle) (agg : TxAggregate) :
    (bundles.foldl (TxAggregate.push cfg ppPublicKey) agg).matchesPp =
      (agg.matchesPp || bundles.any fun bundle => bundle.ppPublicKey == some ppPublicKey) := by
  induction bundles generalizing agg with
  | nil => simp
  | cons bundle bundles ih =>
    rw [List.foldl_cons, ih, List.any_cons, ← Bool.or_assoc]
    rfl

theorem TxAggregate.of_matchesPp (bundles : List OperationsBundle) :
    (TxAggregate.of cfg ppPublicKey bundles).matchesPp =
      bundles.any fun bundle => bundle.ppPublicKey == some ppPublicKey := by
  have h := @foldl_push_matchesPp cfg ppPublicKey bundles {}
  rwa [Bool.false_or] at h

theorem TxAggregate.foldl_push_length (bundles : List OperationsBundle) (agg : TxAggregate) :
    (bundles.foldl (TxAggregate.push cfg ppPublicKey) agg).bundles.length =
      agg.bundles.length + bundles.length := by
  induction bundles generalizing agg with
  | nil => rfl
  | cons bundle bundles ih =>
    rw [List.foldl_cons, ih]
    simp only [push, List.length_append, List.length_cons, List.length_nil]
    omega

theorem TxAggregate.of_length (bundles : List OperationsBundle) :
    (TxAggregate.of cfg ppPublicKey bundles).bundles.length = bundles.length := by
  have h := @foldl_push_length cfg ppPublicKey bundles {}
  rwa [List.length_nil, Nat.zero_add] at h

end Aggregate

/-- The detail, from the bundles and the UTXOs of the links. -/
theorem buildTxDetail_eq (cfg : Config) (db : Database) (txId : TxHash) (ppPublicKey : PublicKey) :
    buildTxDetail cfg db txId ppPublicKey =
      (db.findTransactionById txId).bind fun tx =>
        let bundles := (db.linksOf txId).filterMap db.bundleOf
        if bundles.any (fun bundle => bundle.ppPublicKey == some ppPublicKey) then
          some (.of tx (.of cfg ppPublicKey bundles) ((db.linksOf txId).flatMap db.utxosOf))
        else none := by
  have hagg : (db.linksOf txId).foldl (TxAggregate.pushLink cfg db ppPublicKey) {} =
      TxAggregate.of cfg ppPublicKey ((db.linksOf txId).filterMap db.bundleOf) := by
    rw [TxAggregate.of, List.foldl_filterMap]
    congr 1
    funext agg link
    unfold TxAggregate.pushLink Database.bundleOf
    cases Query.run db (.findBundleById link.bundleId) <;> rfl
  unfold buildTxDetail
  cases db.findTransactionById txId with
  | none => rfl
  | some tx =>
    show (if !((db.linksOf txId).foldl (TxAggregate.pushLink cfg db ppPublicKey) {}).matchesPp
      then none else _) = _
    rw [hagg, TxAggregate.of_matchesPp, Option.bind_some]
    cases h : ((db.linksOf txId).filterMap db.bundleOf).any
      (fun bundle => bundle.ppPublicKey == some ppPublicKey) with
    | true =>
      simp only [h, Bool.not_true, Bool.false_eq_true, if_false, if_true]
      exact congrArg (fun agg => some (TxDetail.of tx agg _)) hagg
    | false => simp only [h, Bool.not_false, if_true, Bool.false_eq_true, if_false]

/-! ## What belongs to a PP -/

namespace Database

/-- The bundle is the PP's. -/
def owns (db : Database) (ppPublicKey : PublicKey) (bundleId : BundleId) : Bool :=
  (db.operationsBundles.find bundleId).any (·.ppPublicKey == some ppPublicKey)

/-- Two states agree on a transaction and on all that belongs to a PP: its
bundles, their links and the UTXOs that they created. -/
structure AgreeFor (txId : TxHash) (ppPublicKey : PublicKey) (db db' : Database) : Prop where
  transaction : db.transactions.find txId = db'.transactions.find txId
  bundles : db.operationsBundles.select (·.ppPublicKey == some ppPublicKey) =
    db'.operationsBundles.select (·.ppPublicKey == some ppPublicKey)
  links : db.bundlesTransactions.select (fun row => db.owns ppPublicKey row.bundleId) =
    db'.bundlesTransactions.select (fun row => db'.owns ppPublicKey row.bundleId)
  utxos : db.utxos.select (fun row => row.createdAtBundleId.any (db.owns ppPublicKey)) =
    db'.utxos.select (fun row => row.createdAtBundleId.any (db'.owns ppPublicKey))

/-- The PP is shown the detail: one of the transaction's bundles is its own. -/
def Shows (db : Database) (txId : TxHash) (ppPublicKey : PublicKey) : Prop :=
  (db.findTransactionById txId).isSome ∧
    ∃ bundle ∈ (db.linksOf txId).filterMap db.bundleOf, bundle.ppPublicKey = some ppPublicKey

/-- If the PP is shown the detail, no bundle but its own is linked to the
transaction, or one that is deleted and created no UTXO. -/
def SharesNothing (db : Database) (txId : TxHash) (ppPublicKey : PublicKey) : Prop :=
  db.Shows txId ppPublicKey → ∀ link ∈ db.linksOf txId,
    db.owns ppPublicKey link.bundleId = true ∨ db.bundleOf link = none ∧ db.utxosOf link = []

/-- The links of the transaction to the PP's bundles. -/
def ownLinks (db : Database) (txId : TxHash) (ppPublicKey : PublicKey) : List BundleTransaction :=
  (db.linksOf txId).filter fun link => db.owns ppPublicKey link.bundleId

section Own
variable {db db' : Database} {txId : TxHash} {ppPublicKey : PublicKey}

theorem owns_iff {bundleId : BundleId} : db.owns ppPublicKey bundleId = true ↔
    ∃ row ∈ db.operationsBundles.select (·.ppPublicKey == some ppPublicKey), row.id = bundleId := by
  unfold owns
  constructor
  · intro h
    obtain ⟨row, hrow, hpp⟩ := (Option.any_eq_true _ _).mp h
    exact ⟨row, Table.mem_select.mpr ⟨Table.find_mem hrow, hpp⟩, Table.find_key hrow⟩
  · rintro ⟨row, hrow, rfl⟩
    obtain ⟨hmem, hpp⟩ := Table.mem_select.mp hrow
    rw [Table.find_of_mem hmem]
    exact hpp

/-- A bundle with the PP's key on its row is the PP's. -/
theorem owns_of_bundleOf {link : BundleTransaction} {bundle : OperationsBundle}
    (h : db.bundleOf link = some bundle) (hpp : bundle.ppPublicKey = some ppPublicKey) :
    db.owns ppPublicKey link.bundleId = true := by
  have hfind : db.operationsBundles.find link.bundleId = some bundle :=
    (Option.filter_eq_some_iff.mp h).1
  rw [owns, hfind]
  simp [hpp]

theorem shows_iff : db.Shows txId ppPublicKey ↔ (db.findTransactionById txId).isSome ∧
    ∃ bundle ∈ (db.ownLinks txId ppPublicKey).filterMap db.bundleOf,
      bundle.ppPublicKey = some ppPublicKey := by
  unfold Shows
  apply and_congr_right
  intro _
  constructor
  · rintro ⟨bundle, hmem, hpp⟩
    obtain ⟨link, hlink, hbundle⟩ := List.mem_filterMap.mp hmem
    have hown := owns_of_bundleOf hbundle hpp
    exact ⟨bundle, List.mem_filterMap.mpr ⟨link, List.mem_filter.mpr ⟨hlink, hown⟩, hbundle⟩, hpp⟩
  · rintro ⟨bundle, hmem, hpp⟩
    obtain ⟨link, hlink, hbundle⟩ := List.mem_filterMap.mp hmem
    exact ⟨bundle, List.mem_filterMap.mpr ⟨link, (List.mem_filter.mp hlink).1, hbundle⟩, hpp⟩

theorem AgreeFor.owns (h : AgreeFor txId ppPublicKey db db') :
    db.owns ppPublicKey = db'.owns ppPublicKey := by
  funext bundleId
  rw [Bool.eq_iff_iff, owns_iff, owns_iff, h.bundles]

theorem AgreeFor.ownLinks (h : AgreeFor txId ppPublicKey db db') :
    db.ownLinks txId ppPublicKey = db'.ownLinks txId ppPublicKey := by
  have hcomm : ∀ d : Database, d.ownLinks txId ppPublicKey =
      (d.bundlesTransactions.select fun row => d.owns ppPublicKey row.bundleId).filter
        fun row => row.deletedAt.isNone && row.transactionId == txId := by
    intro d
    show (d.bundlesTransactions.rows.filter _).filter _ = (d.bundlesTransactions.rows.filter _).filter _
    rw [List.filter_filter, List.filter_filter]
    exact List.filter_congr fun row _ => Bool.and_comm _ _
  rw [hcomm, hcomm, h.links]

theorem AgreeFor.bundleOf (h : AgreeFor txId ppPublicKey db db') {link : BundleTransaction}
    (hown : db.owns ppPublicKey link.bundleId = true) : db.bundleOf link = db'.bundleOf link := by
  obtain ⟨row, hrow, hid⟩ := owns_iff.mp hown
  have hrow' := h.bundles ▸ hrow
  have hfind := Table.find_of_mem (Table.mem_select.mp hrow).1
  have hfind' := Table.find_of_mem (Table.mem_select.mp hrow').1
  rw [hid] at hfind hfind'
  show (db.operationsBundles.find _).filter _ = (db'.operationsBundles.find _).filter _
  rw [hfind, hfind']

theorem AgreeFor.utxosOf (h : AgreeFor txId ppPublicKey db db') {link : BundleTransaction}
    (hown : db.owns ppPublicKey link.bundleId = true) : db.utxosOf link = db'.utxosOf link := by
  have hsub : ∀ d : Database, d.owns ppPublicKey link.bundleId = true → d.utxosOf link =
      (d.utxos.select fun row => row.createdAtBundleId.any (d.owns ppPublicKey)).filter
        fun row => row.deletedAt.isNone && row.createdAtBundleId == some link.bundleId := by
    intro d hd
    show d.utxos.rows.filter _ = (d.utxos.rows.filter _).filter _
    rw [List.filter_filter]
    apply List.filter_congr
    intro row _
    by_cases hrow : row.createdAtBundleId = some link.bundleId
    · simp [hrow, hd]
    · simp [hrow]
  have hown' : db'.owns ppPublicKey link.bundleId = true := h.owns ▸ hown
  rw [hsub db hown, hsub db' hown', h.utxos]

theorem AgreeFor.ownBundles (h : AgreeFor txId ppPublicKey db db') :
    (db.ownLinks txId ppPublicKey).filterMap db.bundleOf =
      (db'.ownLinks txId ppPublicKey).filterMap db'.bundleOf := by
  rw [← h.ownLinks]
  apply List.filterMap_congr
  intro link hlink
  exact h.bundleOf (List.mem_filter.mp hlink).2

theorem AgreeFor.ownUtxos (h : AgreeFor txId ppPublicKey db db') :
    (db.ownLinks txId ppPublicKey).flatMap db.utxosOf =
      (db'.ownLinks txId ppPublicKey).flatMap db'.utxosOf := by
  rw [← h.ownLinks]
  apply List.flatMap_congr
  intro link hlink
  exact h.utxosOf (List.mem_filter.mp hlink).2

theorem AgreeFor.findTransactionById (h : AgreeFor txId ppPublicKey db db') :
    db.findTransactionById txId = db'.findTransactionById txId := by
  rw [Database.findTransactionById, Database.findTransactionById, h.transaction]

theorem AgreeFor.shows (h : AgreeFor txId ppPublicKey db db') :
    db.Shows txId ppPublicKey ↔ db'.Shows txId ppPublicKey := by
  rw [shows_iff, shows_iff, h.findTransactionById, h.ownBundles]

/-- Where nothing is shared, the bundles of the detail are the PP's own … -/
theorem SharesNothing.bundles (h : db.SharesNothing txId ppPublicKey)
    (hshows : db.Shows txId ppPublicKey) :
    (db.linksOf txId).filterMap db.bundleOf =
      (db.ownLinks txId ppPublicKey).filterMap db.bundleOf := by
  rw [ownLinks, List.filterMap_filter]
  apply List.filterMap_congr
  intro link hlink
  rcases h hshows link hlink with hown | ⟨hnone, -⟩
  · rw [if_pos hown]
  · rw [hnone, ite_self]

/-- … and so are the UTXOs. -/
theorem SharesNothing.utxos (h : db.SharesNothing txId ppPublicKey)
    (hshows : db.Shows txId ppPublicKey) :
    (db.linksOf txId).flatMap db.utxosOf = (db.ownLinks txId ppPublicKey).flatMap db.utxosOf := by
  have hl := h hshows
  unfold ownLinks
  generalize db.linksOf txId = links at hl
  induction links with
  | nil => rfl
  | cons link links ih =>
    have htail := ih fun l hmem => hl l (List.mem_cons_of_mem _ hmem)
    rw [List.flatMap_cons, htail]
    by_cases hown : db.owns ppPublicKey link.bundleId = true
    · simp only [List.filter_cons, hown, if_true, List.flatMap_cons]
    · obtain ⟨-, hnil⟩ := (hl link List.mem_cons_self).resolve_left hown
      simp only [List.filter_cons, hown, hnil, List.nil_append, Bool.false_eq_true, if_false]

end Own

/-- Only what belongs to a PP. -/
def ownPart (db : Database) (ppPublicKey : PublicKey) : Database :=
  { db with
    operationsBundles := db.operationsBundles.filter (·.ppPublicKey == some ppPublicKey)
    bundlesTransactions :=
      db.bundlesTransactions.filter fun row => db.owns ppPublicKey row.bundleId
    utxos := db.utxos.filter fun row => row.createdAtBundleId.any (db.owns ppPublicKey) }

section OwnPart
variable (db : Database) (txId : TxHash) (ppPublicKey : PublicKey)

theorem owns_ownPart : (db.ownPart ppPublicKey).owns ppPublicKey = db.owns ppPublicKey := by
  funext bundleId
  rw [Bool.eq_iff_iff, owns_iff, owns_iff]
  unfold ownPart
  rw [Table.select_filter _ _ _ fun _ h => h]

theorem agreeFor_ownPart : db.AgreeFor txId ppPublicKey (db.ownPart ppPublicKey) := by
  have howns := owns_ownPart db ppPublicKey
  constructor
  · rfl
  · exact (Table.select_filter _ _ _ fun _ h => h).symm
  · rw [howns]
    exact (Table.select_filter _ _ _ fun _ h => h).symm
  · rw [howns]
    exact (Table.select_filter _ _ _ fun _ h => h).symm

theorem sharesNothing_ownPart : (db.ownPart ppPublicKey).SharesNothing txId ppPublicKey := by
  intro _ link hlink
  left
  have hmem := (Table.mem_select.mp hlink).1
  rw [owns_ownPart]
  exact (List.mem_filter.mp hmem).2

end OwnPart

end Database

/-! ## Noninterference -/

section Noninterference
variable {cfg : Config} {db db' : Database} {txId : TxHash} {ppPublicKey : PublicKey}

theorem buildTxDetail_of_not_shows (h : ¬ db.Shows txId ppPublicKey) :
    buildTxDetail cfg db txId ppPublicKey = none := by
  rw [buildTxDetail_eq]
  cases htx : db.findTransactionById txId with
  | none => rfl
  | some tx =>
    have hany : ((db.linksOf txId).filterMap db.bundleOf).any
        (fun bundle => bundle.ppPublicKey == some ppPublicKey) = false := by
      apply List.any_eq_false.mpr
      intro bundle hmem hpp
      exact h ⟨by rw [htx]; rfl, bundle, hmem, by simpa using hpp⟩
    rw [Option.bind_some]
    simp only [hany, Bool.false_eq_true, if_false]

theorem buildTxDetail_of_shows (h : db.Shows txId ppPublicKey) :
    ∃ tx, db.findTransactionById txId = some tx ∧ buildTxDetail cfg db txId ppPublicKey =
      some (.of tx (.of cfg ppPublicKey ((db.linksOf txId).filterMap db.bundleOf))
        ((db.linksOf txId).flatMap db.utxosOf)) := by
  obtain ⟨htx, bundle, hmem, hpp⟩ := h
  obtain ⟨tx, htx⟩ := Option.isSome_iff_exists.mp htx
  have hany : ((db.linksOf txId).filterMap db.bundleOf).any
      (fun bundle => bundle.ppPublicKey == some ppPublicKey) = true :=
    List.any_eq_true.mpr ⟨bundle, hmem, by simpa using hpp⟩
  refine ⟨tx, htx, ?_⟩
  rw [buildTxDetail_eq, htx, Option.bind_some]
  simp only [hany, if_true]

/-- States that agree for the PP and share nothing give it the same detail. -/
theorem detail_eq_of_sharesNothing (hagree : db.AgreeFor txId ppPublicKey db')
    (h : db.SharesNothing txId ppPublicKey) (h' : db'.SharesNothing txId ppPublicKey) :
    buildTxDetail cfg db' txId ppPublicKey = buildTxDetail cfg db txId ppPublicKey := by
  by_cases hshows : db.Shows txId ppPublicKey
  · have hshows' := hagree.shows.mp hshows
    obtain ⟨tx, htx, hdetail⟩ := @buildTxDetail_of_shows cfg _ _ _ hshows
    obtain ⟨tx', htx', hdetail'⟩ := @buildTxDetail_of_shows cfg _ _ _ hshows'
    have htxs : tx' = tx := by
      rw [hagree.findTransactionById, htx'] at htx
      exact Option.some.inj htx
    rw [hdetail, hdetail', htxs, h.bundles hshows, h.utxos hshows, h'.bundles hshows',
      h'.utxos hshows', hagree.ownBundles, hagree.ownUtxos]
  · rw [buildTxDetail_of_not_shows hshows,
      buildTxDetail_of_not_shows fun hshows' => hshows (hagree.shows.mpr hshows')]

/-- What the links of other PPs' bundles add to a detail is counted in it. -/
theorem sharesNothing_of_lengths
    (hbundles : ((db.linksOf txId).filterMap db.bundleOf).length =
      ((db.ownLinks txId ppPublicKey).filterMap db.bundleOf).length)
    (hutxos : ((db.linksOf txId).flatMap db.utxosOf).length =
      ((db.ownLinks txId ppPublicKey).flatMap db.utxosOf).length) :
    db.SharesNothing txId ppPublicKey := by
  let foreign := (db.linksOf txId).filter fun link => !db.owns ppPublicKey link.bundleId
  have hperm : (db.ownLinks txId ppPublicKey ++ foreign).Perm (db.linksOf txId) :=
    List.filter_append_perm _ _
  have hnoBundle : foreign.filterMap db.bundleOf = [] := by
    have hlen := (hperm.filterMap db.bundleOf).length_eq
    rw [List.filterMap_append, List.length_append, hbundles] at hlen
    exact List.eq_nil_of_length_eq_zero (by omega)
  have hnoUtxo : foreign.flatMap db.utxosOf = [] := by
    have hlen := (hperm.flatMap_right db.utxosOf).length_eq
    rw [List.flatMap_append, List.length_append, hutxos] at hlen
    exact List.eq_nil_of_length_eq_zero (by omega)
  intro _ link hlink
  by_cases hown : db.owns ppPublicKey link.bundleId = true
  · exact .inl hown
  · have hmem : link ∈ foreign := List.mem_filter.mpr ⟨hlink, by simpa using hown⟩
    exact .inr ⟨List.filterMap_eq_nil_iff.mp hnoBundle link hmem,
      List.flatMap_eq_nil_iff.mp hnoUtxo link hmem⟩

/-- **Whose detail a PP sees.** The detail is the one that every state with the
same transaction and the same bundles, links and UTXOs of the PP gives it while
nothing is shared there, exactly if nothing is shared in this state. -/
theorem detail_noninterfering_iff (cfg : Config) (db : Database) (txId : TxHash)
    (ppPublicKey : PublicKey) :
    (∀ db', db.AgreeFor txId ppPublicKey db' → db'.SharesNothing txId ppPublicKey →
      buildTxDetail cfg db' txId ppPublicKey = buildTxDetail cfg db txId ppPublicKey) ↔
      db.SharesNothing txId ppPublicKey := by
  constructor
  · intro h hshows
    let own := db.ownPart ppPublicKey
    have hagree : db.AgreeFor txId ppPublicKey own := db.agreeFor_ownPart txId ppPublicKey
    have hshares : own.SharesNothing txId ppPublicKey := db.sharesNothing_ownPart txId ppPublicKey
    have hshows' := hagree.shows.mp hshows
    obtain ⟨tx, -, hdetail⟩ := @buildTxDetail_of_shows cfg _ _ _ hshows
    obtain ⟨tx', -, hdetail'⟩ := @buildTxDetail_of_shows cfg _ _ _ hshows'
    have heq := h own hagree hshares
    rw [hdetail, hdetail', hshares.bundles hshows', hshares.utxos hshows',
      ← hagree.ownBundles, ← hagree.ownUtxos] at heq
    have hbundles := congrArg (fun d => d.bundles.length) (Option.some.inj heq)
    have hutxos := congrArg (fun d => d.utxos.length) (Option.some.inj heq)
    simp only [TxDetail.of, TxAggregate.of_length, List.length_map] at hbundles hutxos
    exact sharesNothing_of_lengths hbundles.symm hutxos.symm hshows
  · intro h db' hagree h'
    exact detail_eq_of_sharesNothing hagree h h'

end Noninterference

namespace Small

def rowOf (mlxdr : MLXDR) (ppPublicKey : PublicKey) : OperationsBundle :=
  ⟨⟨0, 0, none, none, none⟩, mlxdr, .processing, some "channel", 1000, [mlxdr], 0, 0, none, none,
    some ppPublicKey⟩

/-- A transaction of a bundle of "GPP" and one of "GPP2". -/
def mixed : Database :=
  { database with
    transactions := ⟨[⟨⟨0, 0, none, none, none⟩, "tx", .unverified, 0, "7"⟩], by decide⟩
    operationsBundles := ⟨[rowOf "deposit 10" "GPP", rowOf "withdraw 3" "GPP2"], by decide⟩
    bundlesTransactions :=
      ⟨[⟨⟨0, 0, none, none, none⟩, "deposit 10", "tx"⟩,
        ⟨⟨0, 0, none, none, none⟩, "withdraw 3", "tx"⟩], by decide⟩ }

end Small

/-- The withdraw of "GPP2" is in the detail that "GPP" sees. -/
theorem detail_leaks :
    ¬ ∀ (cfg : Config) (txId : TxHash) (ppPublicKey : PublicKey) (db db' : Database),
      db.AgreeFor txId ppPublicKey db' →
        buildTxDetail cfg db txId ppPublicKey = buildTxDetail cfg db' txId ppPublicKey := by
  intro h
  have heq := h Small.config "tx" "GPP" Small.mixed (Small.mixed.ownPart "GPP")
    (Small.mixed.agreeFor_ownPart "tx" "GPP")
  revert heq
  decide +kernel

end ProviderPlatform
