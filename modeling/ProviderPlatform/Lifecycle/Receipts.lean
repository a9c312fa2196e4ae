import ProviderPlatform.Async.Observer
import ProviderPlatform.Lifecycle.DoubleSubmission
import ProviderPlatform.Lifecycle.Intact

/-! # Receipts

What a task holds in its hands between two awaits of a submission or of a
settlement: that bundles were handed over, that the network accepted a
transaction, that it was returned for them, that a bundle is linked to it, and
that the network answered SUCCESS for it. No step takes any of this back, so a
receipt stays good; and each row that says more than it did before is written
on a receipt. -/
namespace ProviderPlatform
open Async Store

/-! ## What is observed -/

/-- The hashes of which the network told the process that they succeeded. -/
def successes : Observer platform State Call (List TxHash) where
  onOp _ _ _ m := m
  onServe _ s q m :=
    match q with
    | .rpc (.getTransaction hash) =>
      if s.network.transaction hash = some .success then hash :: m else m
    | _ => m
  onCrash m := m

/-- A state of the provider, with the hashes that it was told succeeded. -/
abbrev Informed := State × List TxHash

theorem successes_onServe_subset (l : Call) (s : State) (q : Req) (m : List TxHash) :
    m ⊆ successes.onServe l s q m := by
  unfold successes
  simp only
  split
  · split
    · exact List.subset_cons_self _ _
    · exact List.Subset.refl _
  · exact List.Subset.refl _

/-! ## Receipts -/

inductive Receipt
  | handed (bundleIds : List BundleId)
  | accepted (hash : TxHash)
  | returned (hash : TxHash) (bundleIds : List BundleId)
  | linked (bundleId : BundleId) (hash : TxHash)
  | succeeded (hash : TxHash)

def Receipt.Holds (p : Informed) : Receipt → Prop
  | .handed ids => ∃ channel pp bundles, .handed channel pp bundles ∈ p.1.history ∧
      bundles.map (·.bundleId) = ids
  | .accepted hash => hash ∈ p.1.network.accepted
  | .returned hash ids => .returned hash ids ∈ p.1.history
  | .linked id hash => (p.1.db.bundlesTransactions.find (id, hash)).isSome = true
  | .succeeded hash => hash ∈ p.2

/-- Nothing that a receipt is about is taken back. -/
structure Grows (p p' : Informed) : Prop where
  history : p.1.history ⊆ p'.1.history
  accepted : p.1.network.accepted ⊆ p'.1.network.accepted
  links : ∀ key, (p.1.db.bundlesTransactions.find key).isSome = true →
    (p'.1.db.bundlesTransactions.find key).isSome = true
  told : p.2 ⊆ p'.2

section Receipts
variable {p p' : Informed} {known : Multiset Receipt}

theorem Receipt.Holds.mono {k : Receipt} (h : k.Holds p) (hg : Grows p p') : k.Holds p' := by
  cases k with
  | handed ids =>
    obtain ⟨channel, pp, bundles, hmem, hids⟩ := h
    exact ⟨channel, pp, bundles, hg.history hmem, hids⟩
  | accepted hash => exact hg.accepted h
  | returned hash ids => exact hg.history h
  | linked id hash => exact hg.links _ h
  | succeeded hash => exact hg.told h

/-- The bundle is linked to a transaction that succeeded. -/
def Confirms (p : Informed) (id : BundleId) (hash : TxHash) : Prop :=
  (Receipt.linked id hash).Holds p ∧ (Receipt.succeeded hash).Holds p

/-- The transaction was returned for a list with the bundle in it. -/
def Carries (p : Informed) (hash : TxHash) (id : BundleId) : Prop :=
  ∃ ids, (Receipt.returned hash ids).Holds p ∧ id ∈ ids

theorem Confirms.mono {id : BundleId} {hash : TxHash} (h : Confirms p id hash) (hg : Grows p p') :
    Confirms p' id hash := ⟨h.1.mono hg, h.2.mono hg⟩

theorem Carries.mono {id : BundleId} {hash : TxHash} (h : Carries p hash id) (hg : Grows p p') :
    Carries p' hash id := by
  obtain ⟨ids, hreturned, hid⟩ := h
  exact ⟨ids, hreturned.mono hg, hid⟩

/-- What the trace, the links, the transactions and the bundles say is on receipt,
and so is what the tasks hold. -/
structure OnReceipt (p : Informed) (known : Multiset Receipt) : Prop where
  returned : ∀ hash ids, .returned hash ids ∈ p.1.history →
    (Receipt.accepted hash).Holds p ∧ (Receipt.handed ids).Holds p
  linked : ∀ id hash, (p.1.db.bundlesTransactions.find (id, hash)).isSome = true → Carries p hash id
  created : ∀ hash, (p.1.db.transactions.find hash).isSome = true → (Receipt.accepted hash).Holds p
  verified : ∀ hash row, p.1.db.transactions.find hash = some row → row.status = .verified →
    (Receipt.succeeded hash).Holds p
  completed : ∀ id row, p.1.db.operationsBundles.find id = some row → row.status = .completed →
    ∃ hash, Confirms p id hash
  holds : ∀ k ∈ known, k.Holds p

/-- What is read off the state can be kept. -/
theorem OnReceipt.learn {new : Multiset Receipt} (h : OnReceipt p known) (hnew : ∀ k ∈ new, k.Holds p) :
    OnReceipt p (new + known) :=
  { h with holds := fun k hk => (Multiset.mem_add.mp hk).elim (hnew k) (h.holds k) }

/-- A step after which the trace and the rows say no more than what is on receipt. -/
theorem OnReceipt.next (h : OnReceipt p known) (hg : Grows p p')
    (hreturned : ∀ hash ids, .returned hash ids ∈ p'.1.history → .returned hash ids ∈ p.1.history ∨
      (Receipt.accepted hash).Holds p ∧ (Receipt.handed ids).Holds p)
    (hlinked : ∀ id hash, (p'.1.db.bundlesTransactions.find (id, hash)).isSome = true →
      (p.1.db.bundlesTransactions.find (id, hash)).isSome = true ∨ Carries p hash id)
    (hcreated : ∀ hash, (p'.1.db.transactions.find hash).isSome = true →
      (p.1.db.transactions.find hash).isSome = true ∨ (Receipt.accepted hash).Holds p)
    (hverified : ∀ hash row, p'.1.db.transactions.find hash = some row → row.status = .verified →
      (∃ old, p.1.db.transactions.find hash = some old ∧ old.status = .verified) ∨
        (Receipt.succeeded hash).Holds p)
    (hcompleted : ∀ id row, p'.1.db.operationsBundles.find id = some row →
      row.status = .completed →
      (∃ old, p.1.db.operationsBundles.find id = some old ∧ old.status = .completed) ∨
        ∃ hash, Confirms p id hash) : OnReceipt p' known where
  returned hash ids hmem := by
    have hreceipt : (Receipt.accepted hash).Holds p ∧ (Receipt.handed ids).Holds p :=
      (hreturned hash ids hmem).elim (h.returned hash ids) id
    exact ⟨hreceipt.1.mono hg, hreceipt.2.mono hg⟩
  linked id hash hlink :=
    ((hlinked id hash hlink).elim (h.linked id hash) fun hnew => hnew).mono hg
  created hash hrow := ((hcreated hash hrow).elim (h.created hash) fun hnew => hnew).mono hg
  verified hash row hrow hstatus := by
    rcases hverified hash row hrow hstatus with ⟨old, hold, hwas⟩ | hnew
    · exact (h.verified hash old hold hwas).mono hg
    · exact hnew.mono hg
  completed id row hrow hstatus := by
    have hreceipt : ∃ hash, Confirms p id hash := by
      rcases hcompleted id row hrow hstatus with ⟨old, hold, hwas⟩ | hnew
      · exact h.completed id old hold hwas
      · exact hnew
    obtain ⟨hash, hconfirms⟩ := hreceipt
    exact ⟨hash, hconfirms.mono hg⟩
  holds k hk := (h.holds k hk).mono hg

/-- A step that changes no row and notes no return. -/
theorem OnReceipt.still (h : OnReceipt p known) (hg : Grows p p')
    (hhistory : ∀ hash ids, .returned hash ids ∈ p'.1.history → .returned hash ids ∈ p.1.history)
    (hdb : p'.1.db.Agrees p.1.db) : OnReceipt p' known := by
  apply h.next hg
  · exact fun hash ids hmem => .inl (hhistory hash ids hmem)
  · exact fun id hash hlink => .inl (hdb.links (id, hash) ▸ hlink)
  · exact fun hash hrow => .inl (hdb.transactions hash ▸ hrow)
  · exact fun hash row hrow hstatus => .inl ⟨row, hdb.transactions hash ▸ hrow, hstatus⟩
  · exact fun id row hrow hstatus => .inl ⟨row, hdb.bundles id ▸ hrow, hstatus⟩

end Receipts

/-! ## What is done on a receipt -/

/-- A return is noted for a transaction that was accepted and bundles that were
handed over. -/
def Op.Backed (p : Informed) : Op → Prop
  | .note (.returned hash ids) => (Receipt.accepted hash).Holds p ∧ (Receipt.handed ids).Holds p
  | _ => True

/-- A row is for a transaction that was accepted and a link for a bundle of it;
VERIFIED and COMPLETED are for what succeeded. -/
def Req.Backed (p : Informed) : Req → Prop
  | .command (.createLink data) => Carries p data.transactionId data.bundleId
  | .command (.createTransaction data) =>
    data.status ≠ .verified ∧ (Receipt.accepted data.id).Holds p
  | .command (.updateTransaction hash status) =>
    status = .verified → (Receipt.succeeded hash).Holds p
  | .command (.createBundle data) => data.status ≠ .completed
  | .command (.updateBundle id data) => data.status = some .completed → ∃ hash, Confirms p id hash
  | .command (.updateStatusIfActive _ status _) => status ≠ .completed
  | .command (.updateIfStatusIn _ data _) => data.status ≠ some .completed
  | _ => True

section Steps
variable {s : State} {m : List TxHash} {l : Call} {known : Multiset Receipt}

theorem runOp_history (o : Op) (s : State) : (runOp o s).2.history = s.history ∨
    ∃ submission, o = .note submission ∧ (runOp o s).2.history = s.history ++ [submission] := by
  cases o with
  | note submission => exact .inr ⟨submission, rfl, rfl⟩
  | _ => exact .inl rfl

theorem OnReceipt.runOp {o : Op} (h : OnReceipt (s, m) known) (ho : o.Backed (s, m)) :
    OnReceipt ((runOp o s).2, m) known := by
  have hgrows (hhistory : s.history ⊆ (ProviderPlatform.runOp o s).2.history) :
      Grows (s, m) ((ProviderPlatform.runOp o s).2, m) := by
    refine ⟨hhistory, ?_, fun key hlink => ?_, List.Subset.refl _⟩
    · rw [runOp_network]
      exact List.Subset.refl _
    · rwa [runOp_db]
  rcases runOp_history o s with hsame | ⟨submission, rfl, hnote⟩
  · apply h.still (hgrows (hsame ▸ List.Subset.refl _))
    · intro hash ids hmem
      rwa [hsame] at hmem
    · rw [runOp_db]
      exact .refl _
  · apply h.next (hgrows (hnote ▸ List.subset_append_left _ _))
    · intro hash ids hmem
      rcases List.mem_append.mp hmem with hold | hnew
      · exact .inl hold
      · cases List.mem_singleton.mp hnew
        exact .inr ho
    · exact fun id hash hlink => .inl hlink
    · exact fun hash hrow => .inl hrow
    · exact fun hash row hrow hstatus => .inl ⟨row, hrow, hstatus⟩
    · exact fun id row hrow hstatus => .inl ⟨row, hrow, hstatus⟩

/-- No command takes a link away, and only an insert adds one. -/
theorem serve_links (w : Command) (s : State) (key : BundleId × TxHash) :
    (serve (.command w) s).2.db.bundlesTransactions.find key = s.db.bundlesTransactions.find key ∨
      ∃ data, w = .createLink data ∧ (data.bundleId, data.transactionId) = key ∧
        ((serve (.command w) s).2.db.bundlesTransactions.find key).isSome = true := by
  have hquiet (hw : (Req.command w).Quiet) :
      (serve (.command w) s).2.db.bundlesTransactions.find key =
        s.db.bundlesTransactions.find key := (serve_quiet hw s).links key
  cases w with
  | createLink data =>
    rcases Command.run_createLink s.db s.clock data with hrun | ⟨t, hinsert, hrun⟩
    · exact .inl (by simp [serve, hrun])
    · have htable : (serve (.command (.createLink data)) s).2.db.bundlesTransactions = t := by
        simp [serve, hrun]
      have hfind : (serve (.command (.createLink data)) s).2.db.bundlesTransactions.find key =
          if (data.bundleId, data.transactionId) = key then some (data.row s.clock)
          else s.db.bundlesTransactions.find key := by
        rw [htable]
        exact Table.find_insert hinsert key
      rw [hfind]
      split
      · rename_i hkey
        exact .inr ⟨data, rfl, hkey, rfl⟩
      · exact .inl rfl
  | _ => exact .inl (hquiet trivial)

/-- Where the row of a transaction comes from. -/
theorem serve_created {w : Command} {hash : TxHash}
    (hrow : ((serve (.command w) s).2.db.transactions.find hash).isSome = true) :
    (s.db.transactions.find hash).isSome = true ∨
      ∃ data, w = .createTransaction data ∧ data.id = hash := by
  have hsame (heq : (serve (.command w) s).2.db.transactions = s.db.transactions) :
      (s.db.transactions.find hash).isSome = true := heq ▸ hrow
  cases w with
  | createTransaction data =>
    rcases serve_createTransaction data s with ⟨t, hinsert, -, hstate⟩ | ⟨-, hstate⟩
    · have hfound : (t.find hash).isSome = true := by rwa [hstate] at hrow
      rw [Table.find_insert hinsert] at hfound
      split at hfound
      · rename_i hid
        exact .inr ⟨data, rfl, hid⟩
      · exact .inl hfound
    · exact .inl (hsame (by rw [hstate]))
  | updateTransaction txId status =>
    have hfound : (((Command.updateTransaction txId status).run s.clock s.db).2.transactions.find
      hash).isSome = true := hrow
    rw [Command.updateTransaction_find, Option.isSome_map] at hfound
    exact .inl hfound
  | createBundle _ | createUtxo _ | updateUtxo _ _ | createLink _ | recordInteraction _ _ =>
    refine .inl (hsame ?_)
    simp only [serve, Command.run]
    repeat' split
    all_goals rfl
  | updateBundle _ _ | updateStatusIfActive _ _ _ | updateIfStatusIn _ _ _ | expireOlderThan _ _ _
    | expireByIds _ _ => exact .inl (hsame rfl)

/-- Where a transaction that is VERIFIED comes from. -/
theorem serve_verified {w : Command} {hash : TxHash} {row : Transaction}
    (hrow : (serve (.command w) s).2.db.transactions.find hash = some row)
    (hstatus : row.status = .verified) (hw : (Req.command w).Backed (s, m)) :
    (∃ old, s.db.transactions.find hash = some old ∧ old.status = .verified) ∨
      (Receipt.succeeded hash).Holds (s, m) := by
  have hsame (heq : (serve (.command w) s).2.db.transactions = s.db.transactions) :
      ∃ old, s.db.transactions.find hash = some old ∧ old.status = .verified :=
    ⟨row, heq ▸ hrow, hstatus⟩
  cases w with
  | createTransaction data =>
    rcases serve_createTransaction data s with ⟨t, hinsert, -, hstate⟩ | ⟨-, hstate⟩
    · have hfound : t.find hash = some row := by rwa [hstate] at hrow
      rw [Table.find_insert hinsert] at hfound
      split at hfound
      · cases hfound
        exact absurd hstatus hw.1
      · exact .inl ⟨row, hfound, hstatus⟩
    · exact .inl (hsame (by rw [hstate]))
  | updateTransaction txId status =>
    have hfound : ((Command.updateTransaction txId status).run s.clock s.db).2.transactions.find hash =
        some row := hrow
    rw [Command.updateTransaction_find] at hfound
    obtain ⟨old, hold, rfl⟩ := Option.map_eq_some_iff.mp hfound
    split at hstatus
    · rename_i hid
      have hkey : old.id = hash := Table.find_key hold
      have hhash : txId = hash := (eq_of_beq hid).symm.trans hkey
      exact .inr (hhash ▸ hw hstatus)
    · exact .inl ⟨old, hold, hstatus⟩
  | createBundle _ | createUtxo _ | updateUtxo _ _ | createLink _ | recordInteraction _ _ =>
    refine .inl (hsame ?_)
    simp only [serve, Command.run]
    repeat' split
    all_goals rfl
  | updateBundle _ _ | updateStatusIfActive _ _ _ | updateIfStatusIn _ _ _ | expireOlderThan _ _ _
    | expireByIds _ _ => exact .inl (hsame rfl)

/-- Where a bundle that is COMPLETED comes from. -/
theorem serve_completed {w : Command} {id : BundleId} {row : OperationsBundle}
    (hrow : (serve (.command w) s).2.db.operationsBundles.find id = some row)
    (hstatus : row.status = .completed) (hw : (Req.command w).Backed (s, m)) :
    (∃ old, s.db.operationsBundles.find id = some old ∧ old.status = .completed) ∨
      ∃ hash, Confirms (s, m) id hash := by
  have hsame (heq : (serve (.command w) s).2.db.operationsBundles = s.db.operationsBundles) :
      ∃ old, s.db.operationsBundles.find id = some old ∧ old.status = .completed :=
    ⟨row, heq ▸ hrow, hstatus⟩
  have hset {p : OperationsBundle → Bool} {data : OperationsBundlePatch}
      (hfound : (s.db.setBundles s.clock p data).2.operationsBundles.find id = some row) :
      (∃ old, s.db.operationsBundles.find id = some old ∧ old.status = .completed) ∨
        ∃ old, s.db.operationsBundles.find id = some old ∧ p old = true ∧
          data.status = some .completed := by
    rw [Database.setBundles_find] at hfound
    obtain ⟨old, hold, rfl⟩ := Option.map_eq_some_iff.mp hfound
    split at hstatus
    · rename_i hp
      rw [OperationsBundle.set_status] at hstatus
      cases hdata : data.status with
      | none => exact .inl ⟨old, hold, by rwa [hdata] at hstatus⟩
      | some status =>
        rw [hdata, Option.getD_some] at hstatus
        exact .inr ⟨old, hold, hp, by rw [hstatus]⟩
    · exact .inl ⟨old, hold, hstatus⟩
  cases w with
  | createBundle data =>
    rcases serve_createBundle data s with ⟨-, -, hfind⟩ | ⟨-, -, hstate⟩
    · rw [hfind] at hrow
      split at hrow
      · cases hrow
        exact absurd hstatus hw
      · exact .inl ⟨row, hrow, hstatus⟩
    · exact .inl (hsame (by rw [hstate]))
  | updateBundle id' data =>
    rcases hset hrow with hold | ⟨old, hold, hp, hdata⟩
    · exact .inl hold
    · have hkey : old.id = id := Table.find_key hold
      have hid : id' = id := (eq_of_beq hp).symm.trans hkey
      exact .inr (hid ▸ hw hdata)
  | updateIfStatusIn id' data statuses =>
    rcases hset hrow with hold | ⟨-, -, -, hdata⟩
    · exact .inl hold
    · exact absurd hdata hw
  | updateStatusIfActive id' status statuses =>
    rcases hset hrow with hold | ⟨-, -, -, hdata⟩
    · exact .inl hold
    · exact absurd (Option.some.inj hdata) hw
  | expireOlderThan _ _ _ | expireByIds _ _ =>
    rcases hset hrow with hold | ⟨-, -, -, hdata⟩
    · exact .inl hold
    · cases hdata
  | updateTransaction _ _ => exact .inl (hsame rfl)
  | createUtxo _ | updateUtxo _ _ | createTransaction _ | createLink _ | recordInteraction _ _ =>
    refine .inl (hsame ?_)
    simp only [serve, Command.run]
    repeat' split
    all_goals rfl

theorem grows_serve (q : Req) : Grows (s, m) ((serve q s).2, successes.onServe l s q m) := by
  refine ⟨?_, ?_, fun key hlink => ?_, successes_onServe_subset l s q m⟩
  · cases q with
    | command w => exact List.subset_append_left _ _
    | query q => exact List.Subset.refl _
    | rpc r => exact List.Subset.refl _
  · cases q with
    | rpc r => exact fun hash => r.run_accepted s.network hash
    | query q => exact List.Subset.refl _
    | command w => exact List.Subset.refl _
  · cases q with
    | command w =>
      rcases serve_links w s key with hsame | ⟨-, -, -, hnew⟩
      · rwa [hsame]
      · exact hnew
    | query q => exact hlink
    | rpc r => exact hlink

theorem OnReceipt.serve {q : Req} (h : OnReceipt (s, m) known) (hq : q.Backed (s, m)) :
    OnReceipt ((serve q s).2, successes.onServe l s q m) known := by
  have hgrows := @grows_serve s m l q
  cases q with
  | query q => exact h.still hgrows (fun _ _ hmem => hmem) (.refl _)
  | rpc r => exact h.still hgrows (fun _ _ hmem => hmem) (.refl _)
  | command w =>
    apply h.next hgrows
    · intro hash ids hmem
      rcases List.mem_append.mp hmem with hold | hnew
      · exact .inl hold
      · rcases w.notes_cases s.db with hnone | ⟨other, hmark⟩
        · rw [hnone] at hnew
          cases hnew
        · rw [hmark] at hnew
          cases List.mem_singleton.mp hnew
    · intro id hash hlink
      rcases serve_links w s (id, hash) with hsame | ⟨data, rfl, hkey, -⟩
      · exact .inl (hsame ▸ hlink)
      · cases hkey
        exact .inr hq
    · intro hash hrow
      rcases serve_created hrow with hold | ⟨data, rfl, rfl⟩
      · exact .inl hold
      · exact .inr hq.2
    · exact fun hash row hrow hstatus => serve_verified hrow hstatus hq
    · exact fun id row hrow hstatus => serve_completed hrow hstatus hq

/-- What moves outside the process takes nothing back. -/
theorem OnReceipt.drift (h : OnReceipt (s, m) known) (d : Drift) :
    OnReceipt (drift d s, m) known := by
  have hagrees := drift_agrees d s
  have hgrows : Grows (s, m) (ProviderPlatform.drift d s, m) := by
    refine ⟨?_, ?_, fun key hlink => ?_, List.Subset.refl _⟩
    · rw [drift_history]
      exact List.Subset.refl _
    · rw [drift_accepted]
      exact List.Subset.refl _
    · rwa [hagrees.links]
  apply h.still hgrows (fun hash ids hmem => ?_) hagrees
  rwa [drift_history] at hmem

/-- Only the database and the network are asked for receipts after a crash. -/
theorem OnReceipt.reboot (h : OnReceipt (s, m) known) (cfg : Config) : OnReceipt (reboot cfg s, m) 0 :=
  ⟨h.returned, h.linked, h.created, h.verified, h.completed, fun _ hk => absurd hk (Multiset.notMem_zero _)⟩

/-- Nothing is on receipt before the first launch, and no row says anything. -/
theorem OnReceipt.fresh {cfg : Config} (h : Fresh cfg s) : OnReceipt (s, []) 0 where
  returned hash ids hmem := by
    rw [h.history] at hmem
    cases hmem
  linked id hash hlink := by
    rw [show s.db.bundlesTransactions = .empty from Table.eq_of_rows h.links, Table.find_empty] at hlink
    cases hlink
  created hash hrow := by
    rw [show s.db.transactions = .empty from Table.eq_of_rows h.transactions, Table.find_empty] at hrow
    cases hrow
  verified hash row hrow _ := by
    rw [show s.db.transactions = .empty from Table.eq_of_rows h.transactions, Table.find_empty] at hrow
    cases hrow
  completed id row hrow _ := by
    rw [show s.db.operationsBundles = .empty from Table.eq_of_rows h.bundles, Table.find_empty] at hrow
    cases hrow
  holds _ hk := absurd hk (Multiset.notMem_zero _)

end Steps
end ProviderPlatform
