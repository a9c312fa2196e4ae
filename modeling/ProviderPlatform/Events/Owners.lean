import ProviderPlatform.Lifecycle.Intact
import ProviderPlatform.Mempool.Homogeneous

/-! # Whose bundles an event names

An event that `emitForBundles` sends to a PP names bundles of that PP only if
the lists it is given never mix PPs: those of the slots and those of the links
of a transaction. This is the invariant that says so, with what the tasks have
found out: what was read of a row holds on, as long as no write moves a row to
another PP. -/
namespace ProviderPlatform
open Async Store

namespace State

/-- The PP of the row of a bundle. -/
def ownerOf (s : State) (id : BundleId) : Option PublicKey :=
  (s.db.operationsBundles.find id).bind (·.ppPublicKey)

/-- What an event fanned out to a PP names belongs to that PP. -/
def EventsScoped (s : State) : Prop :=
  ∀ event ∈ s.events, ∀ id ∈ event.payload.fannedOut,
    s.ownerOf id = some event.scope.ppPublicKey

/-- All that is linked to the transaction is of the PP. -/
def LinksOf (s : State) (hash : TxHash) (pp : PublicKey) : Prop :=
  ∀ id link, s.db.bundlesTransactions.find (id, hash) = some link → s.ownerOf id = some pp

end State

/-- A write leaves every row with the PP it has. -/
def KeepsPp (s : State) : Req → Prop
  | .command (.updateBundle id data) | .command (.updateIfStatusIn id data _) =>
    ∀ pp ∈ data.ppPublicKey, ∀ row ∈ s.db.operationsBundles.find id, row.ppPublicKey = some pp
  | _ => True

instance (s : State) (q : Req) : Decidable (KeepsPp s q) := by
  unfold KeepsPp
  split <;> infer_instance

/-! ## The rows -/

section Rows
variable {s s' : State} {id : BundleId} {pp : PublicKey}

theorem ownerOf_same (h : s'.db.operationsBundles.find id = s.db.operationsBundles.find id) :
    s'.ownerOf id = s.ownerOf id := by
  rw [State.ownerOf, State.ownerOf, h]

theorem ppPublicKey_set {row : OperationsBundle} {data : OperationsBundlePatch}
    (h : ∀ pp ∈ data.ppPublicKey, row.ppPublicKey = some pp) (now : Time) :
    (row.set now data).ppPublicKey = row.ppPublicKey := by
  show (data.ppPublicKey <|> row.ppPublicKey) = row.ppPublicKey
  cases hpp : data.ppPublicKey with
  | none => rfl
  | some pp => exact (h pp hpp).symm

/-- An update of the rows that match keeps the PPs, if it names no other. -/
theorem setBundles_pps {p : OperationsBundle → Bool} {data : OperationsBundlePatch}
    (hdb : s'.db = (s.db.setBundles s.clock p data).2)
    (h : ∀ row, s.db.operationsBundles.find id = some row → p row = true →
      ∀ pp ∈ data.ppPublicKey, row.ppPublicKey = some pp) :
    (s'.db.operationsBundles.find id).map (·.ppPublicKey) =
      (s.db.operationsBundles.find id).map (·.ppPublicKey) := by
  rw [hdb, Database.setBundles_find]
  cases hrow : s.db.operationsBundles.find id with
  | none => rfl
  | some row =>
    simp only [Option.map_some, Option.some.injEq]
    split
    · rename_i hp
      exact ppPublicKey_set (h row hrow hp) s.clock
    · rfl

/-- A command that keeps the PPs changes that of no row; only an insert of a new
row adds one. -/
theorem serve_pps {w : Command} (h : KeepsPp s (.command w)) (id : BundleId) :
    ((serve (.command w) s).2.db.operationsBundles.find id).map (·.ppPublicKey) =
      (s.db.operationsBundles.find id).map (·.ppPublicKey) ∨
    s.db.operationsBundles.find id = none ∧ ∃ data, w = .createBundle data ∧ data.id = id ∧
      (serve (.command w) s).2.db.operationsBundles.find id = some (data.row s.clock) := by
  cases w with
  | createBundle data =>
    obtain ⟨hnone, -, hfind⟩ | ⟨-, -, hsame⟩ := serve_createBundle data s
    · by_cases hid : data.id = id
      · exact .inr ⟨hid ▸ hnone, data, rfl, hid, by rw [hfind, if_pos hid]⟩
      · exact .inl (by rw [hfind, if_neg hid])
    · exact .inl (by rw [hsame])
  | updateBundle id' data =>
    refine .inl (setBundles_pps rfl fun row hrow hp => ?_)
    have hkey : row.id = id := Table.find_key hrow
    have hid : id' = id := (eq_of_beq hp).symm.trans hkey
    exact fun pp hpp => h pp hpp row (hid ▸ hrow)
  | updateIfStatusIn id' data statuses =>
    refine .inl (setBundles_pps rfl fun row hrow hp => ?_)
    have hkey : row.id = id := Table.find_key hrow
    have hid : id' = id := (eq_of_beq (Bool.and_eq_true_iff.mp hp).1).symm.trans hkey
    exact fun pp hpp => h pp hpp row (hid ▸ hrow)
  | updateStatusIfActive _ _ _ | expireOlderThan _ _ _ | expireByIds _ _ =>
    exact .inl (setBundles_pps rfl fun _ _ _ _ => nofun)
  | updateTransaction _ _ => exact .inl rfl
  | createUtxo _ | updateUtxo _ _ | createTransaction _ | createLink _ | recordInteraction _ _ =>
    left
    simp only [serve, Command.run]
    repeat' split
    all_goals rfl

theorem ownerOf_eq (s : State) (id : BundleId) :
    s.ownerOf id = ((s.db.operationsBundles.find id).map (·.ppPublicKey)).join := by
  rw [State.ownerOf]
  cases s.db.operationsBundles.find id <;> rfl

/-- Whose a bundle is stays. -/
theorem serve_ownerOf {w : Command} (h : KeepsPp s (.command w)) (hown : s.ownerOf id = some pp) :
    (serve (.command w) s).2.ownerOf id = some pp := by
  rcases serve_pps h id with hsame | ⟨hnone, -⟩
  · rw [ownerOf_eq, hsame, ← ownerOf_eq, hown]
  · rw [State.ownerOf, hnone] at hown
    cases hown

end Rows

/-! ## The invariant -/

/-- What a task found out: the row of a bundle is of a PP, or the task opened a
transaction for the bundles of a PP. -/
inductive Finding
  | owned (pp : PublicKey) (id : BundleId)
  | opened (hash : TxHash) (pp : PublicKey)

def Finding.Holds (s : State) : Finding → Prop
  | .owned pp id => s.ownerOf id = some pp
  | .opened hash pp => (s.db.transactions.find hash).isSome = true ∧ s.LinksOf hash pp

/-- The bundles of the slot are of one PP, which is that of their rows. -/
structure Slot.Vouched (s : State) (slot : Slot) : Prop where
  onePp : slot.OnePp
  owned : ∀ b ∈ slot.bundles, s.ownerOf b.bundleId = some b.ppPublicKey

/-- No slot and no transaction mixes PPs, and what the tasks found out holds. -/
structure Scoped (s : State) (known : Multiset Finding) : Prop where
  intact : s.Intact
  rows : ∀ id row, s.db.operationsBundles.find id = some row → row.ppPublicKey.isSome = true
  slots : ∀ slot ∈ s.memory.mempool.slots, slot.Vouched s
  transactions : ∀ hash, ∃ pp, s.LinksOf hash pp
  events : s.EventsScoped
  holds : ∀ k ∈ known, k.Holds s
  alike : ∀ hash pp pp', .opened hash pp ∈ known → .opened hash pp' ∈ known → pp = pp'

section Invariant
variable {s s' : State} {known : Multiset Finding} {slot : Slot} {bundle : SlotBundle}

theorem Slot.Vouched.removeBundle (h : slot.Vouched s) (id : BundleId) :
    (slot.removeBundle id).1.Vouched s where
  onePp b hb b' hb' :=
    h.onePp b ((slot.removeBundle_sublist id).subset hb) b' ((slot.removeBundle_sublist id).subset hb')
  owned b hb := h.owned b ((slot.removeBundle_sublist id).subset hb)

theorem Slot.Vouched.add (h : slot.Vouched s) (hkin : slot.TakesKin bundle)
    (hown : s.ownerOf bundle.bundleId = some bundle.ppPublicKey) :
    (slot.add bundle).1.Vouched s := by
  refine ⟨h.onePp.add hkin, fun b hb => ?_⟩
  cases hstay : slot.companions bundle with
  | none =>
    rw [add_of_companions_none hstay] at hb
    exact h.owned b hb
  | some stay =>
    rcases List.mem_cons.mp ((add_bundles_perm hstay).mem_iff.mp hb) with rfl | hb
    · exact hown
    · exact h.owned b (companions_subset hstay hb)

theorem placeKeeps_vouched (h : ∀ slot ∈ s.memory.mempool.slots, slot.Vouched s)
    (hkin : ∀ offer ∈ Op.offers s (.place bundle), offer.1.TakesKin offer.2)
    (hown : s.ownerOf bundle.bundleId = some bundle.ppPublicKey) :
    Mempool.PlaceKeeps (Slot.Vouched s) s.memory.mempool bundle := by
  let Q (b : SlotBundle) : Prop := s.ownerOf b.bundleId = some b.ppPublicKey
  have hslots : ∀ slot ∈ s.memory.mempool.slots,
      slot.channelContractId = bundle.channelContractId → ∀ b ∈ slot.bundles, Q b :=
    fun slot hs _ => (h slot hs).owned
  constructor
  · intro offer hoffer hvouched
    obtain ⟨-, -, hoffered⟩ := Mempool.offers_forall (Q := Q) hown hslots offer hoffer
    exact hvouched.add (hkin offer hoffer) hoffered
  · intro removed hleft _
    have hremoved : Q removed := Mempool.offer_leftover hown hslots hleft
    constructor
    · intro b hb b' hb'
      rw [Slot.push_new_bundles, List.mem_singleton] at hb hb'
      rw [hb, hb']
    · intro b hb
      rw [Slot.push_new_bundles, List.mem_singleton] at hb
      rw [hb]
      exact hremoved

/-- A step that takes nothing from the rows, the transactions and the links
leaves the findings true. -/
theorem Finding.Holds.mono {k : Finding} (h : k.Holds s)
    (hown : ∀ id pp, s.ownerOf id = some pp → s'.ownerOf id = some pp)
    (htx : ∀ hash, (s.db.transactions.find hash).isSome = true →
      (s'.db.transactions.find hash).isSome = true)
    (hlinks : ∀ key, s'.db.bundlesTransactions.find key = s.db.bundlesTransactions.find key) :
    k.Holds s' := by
  cases k with
  | owned pp id => exact hown id pp h
  | opened hash pp =>
    exact ⟨htx hash h.1, fun id link hlink => hown id pp (h.2 id link ((hlinks _).symm.trans hlink))⟩

theorem Slot.Vouched.mono (h : slot.Vouched s)
    (hown : ∀ id pp, s.ownerOf id = some pp → s'.ownerOf id = some pp) : slot.Vouched s' :=
  ⟨h.onePp, fun b hb => hown _ _ (h.owned b hb)⟩

/-- A step that adds no link, and queues and emits what the rows vouch for. -/
theorem Scoped.next (h : Scoped s known) (hintact : s'.Intact)
    (hrows : ∀ id row, s'.db.operationsBundles.find id = some row → row.ppPublicKey.isSome = true)
    (hslots : ∀ slot ∈ s'.memory.mempool.slots, slot.Vouched s)
    (hevents : ∀ event ∈ s'.events, ∀ id ∈ event.payload.fannedOut,
      s.ownerOf id = some event.scope.ppPublicKey)
    (hown : ∀ id pp, s.ownerOf id = some pp → s'.ownerOf id = some pp)
    (htx : ∀ hash, (s.db.transactions.find hash).isSome = true →
      (s'.db.transactions.find hash).isSome = true)
    (hlinks : ∀ key, s'.db.bundlesTransactions.find key = s.db.bundlesTransactions.find key) :
    Scoped s' known where
  intact := hintact
  rows := hrows
  slots slot hs := (hslots slot hs).mono hown
  transactions hash := by
    obtain ⟨pp, hpp⟩ := h.transactions hash
    exact ⟨pp, fun id link hlink => hown id pp (hpp id link ((hlinks _).symm.trans hlink))⟩
  events event he id hid := hown _ _ (hevents event he id hid)
  holds k hk := (h.holds k hk).mono hown htx hlinks
  alike := h.alike

/-- Rows, transactions and links stay as they were. -/
theorem Scoped.same (h : Scoped s known) (hagrees : s'.db.Agrees s.db)
    (hslots : ∀ slot ∈ s'.memory.mempool.slots, slot.Vouched s)
    (hevents : ∀ event ∈ s'.events, ∀ id ∈ event.payload.fannedOut,
      s.ownerOf id = some event.scope.ppPublicKey) : Scoped s' known := by
  apply h.next _ _ hslots hevents
  · exact fun id pp hpp => (ownerOf_same (hagrees.bundles id)).trans hpp
  · exact fun hash hsome => by rwa [hagrees.transactions]
  · exact hagrees.links
  · exact h.intact.same hagrees.bundles hagrees.transactions hagrees.links
  · exact fun id row hrow => h.rows id row ((hagrees.bundles id).symm.trans hrow)

/-- An operation that queues a bundle only beside its kin and under the PP of its
row, and emits an event only to the PP of the bundles it names. -/
theorem Scoped.runOp {o : Op} (h : Scoped s known)
    (hkin : ∀ offer ∈ o.offers s, offer.1.TakesKin offer.2)
    (hplace : ∀ bundle, o = .place bundle → s.ownerOf bundle.bundleId = some bundle.ppPublicKey)
    (hemit : ∀ scope payload, o = .emit scope payload → ∀ id ∈ payload.fannedOut,
      s.ownerOf id = some scope.ppPublicKey) : Scoped (runOp o s).2 known := by
  apply h.same
  · rw [runOp_db]
    exact .refl _
  · refine runOp_slots (fun _ id hs => hs.removeBundle id) (fun bundle ho => ?_) h.slots
    subst ho
    exact placeKeeps_vouched h.slots hkin (hplace bundle rfl)
  · cases o with
    | emit scope payload =>
      intro event he
      rcases List.mem_append.mp he with he | he
      · exact h.events event he
      · rw [List.mem_singleton.mp he]
        exact hemit scope payload rfl
    | _ => exact h.events

/-- A command that adds no link and keeps the PPs. -/
theorem Scoped.command {w : Command} (h : Scoped s known) (hkeeps : KeepsPp s (.command w))
    (hw : (Req.command w).Quiet) : Scoped (serve (.command w) s).2 known := by
  apply h.next (h.intact.serve w) _ h.slots h.events
  · exact fun id pp => serve_ownerOf hkeeps
  · exact fun hash => serve_keeps_transaction w
  · exact (serve_quiet hw s).links
  · intro id row hrow
    rcases serve_pps hkeeps id with hsame | ⟨-, data, -, -, hnew⟩
    · rw [hrow, Option.map_some] at hsame
      obtain ⟨old, hold, hpp⟩ := Option.map_eq_some_iff.mp hsame.symm
      rw [← hpp]
      exact h.rows id old hold
    · rw [hrow] at hnew
      cases hnew
      rfl

theorem Scoped.drift (h : Scoped s known) (d : Drift) : Scoped (drift d s) known := by
  apply h.same (drift_agrees d s)
  · rw [drift_mempool]
    exact h.slots
  · cases d <;> exact h.events

/-- With the process go its slots and what its tasks found out. -/
theorem Scoped.reboot (h : Scoped s known) (cfg : Config) : Scoped (reboot cfg s) 0 where
  intact := ⟨h.intact.kept, h.intact.referenced⟩
  rows := h.rows
  slots _ := nofun
  transactions := h.transactions
  events := h.events
  holds _ hk := absurd hk (Multiset.notMem_zero _)
  alike _ _ _ hk := absurd hk (Multiset.notMem_zero _)

/-! ### What is found out -/

/-- The PP of a row that was read. -/
theorem Scoped.learn {id : BundleId} {pp : PublicKey} (h : Scoped s known)
    (hown : s.ownerOf id = some pp) : Scoped s ({.owned pp id} + known) := by
  refine { h with holds := fun k hk => ?_, alike := fun hash pp₁ pp₂ h₁ h₂ => ?_ }
  · rcases Multiset.mem_add.mp hk with hk | hk
    · rw [Multiset.mem_singleton.mp hk]
      exact hown
    · exact h.holds k hk
  · rw [Multiset.mem_add, Multiset.mem_singleton] at h₁ h₂
    simp only [reduceCtorEq, false_or] at h₁ h₂
    exact h.alike hash pp₁ pp₂ h₁ h₂

theorem Scoped.learn_all {β : Type} {id : β → BundleId} {pp : β → PublicKey} {xs : List β}
    (h : Scoped s known) (hown : ∀ x ∈ xs, s.ownerOf (id x) = some (pp x)) :
    Scoped s ((xs.map fun x => ({.owned (pp x) (id x)} : Multiset Finding)).sum + known) := by
  induction xs with
  | nil => simpa using h
  | cons x xs ih =>
    obtain ⟨hx, hxs⟩ := List.forall_mem_cons.mp hown
    rw [List.map_cons, List.sum_cons, add_assoc]
    exact (ih hxs).learn hx

/-- A new transaction has no links: whoever created it may rely on that. -/
theorem Scoped.createTransaction {data : NewTransaction} {t : Table Transaction.id}
    (h : Scoped s known) (hinsert : s.db.transactions.insert? (data.row s.clock) = some t)
    (pp : PublicKey) :
    Scoped (serve (.command (.createTransaction data)) s).2 ({.opened data.id pp} + known) := by
  have hkept : Scoped (serve (.command (.createTransaction data)) s).2 known :=
    h.command (w := .createTransaction data) trivial trivial
  have hnew : s.db.transactions.find data.id = none := (Table.insert?_eq_some hinsert).1
  have hrow : ((serve (.command (.createTransaction data)) s).2.db.transactions.find data.id).isSome =
      true := by
    have hfind : t.find data.id = some (data.row s.clock) := by
      rw [Table.find_insert hinsert]
      exact if_pos rfl
    simp [serve, Command.run, hinsert, hfind]
  have hunlinked : (serve (.command (.createTransaction data)) s).2.LinksOf data.id pp := by
    intro id link hlink
    rw [(serve_quiet (q := .command (.createTransaction data)) trivial s).links] at hlink
    have hsome := h.intact.referenced _ link hlink
    rw [hnew] at hsome
    cases hsome
  -- no other task opened it: what it opened has a row
  have hnone (pp' : PublicKey) : .opened data.id pp' ∉ known := by
    intro hmem
    have hsome := (h.holds _ hmem).1
    rw [hnew] at hsome
    cases hsome
  refine { hkept with holds := fun k hk => ?_, alike := fun hash pp₁ pp₂ h₁ h₂ => ?_ }
  · rcases Multiset.mem_add.mp hk with hk | hk
    · rw [Multiset.mem_singleton.mp hk]
      exact ⟨hrow, hunlinked⟩
    · exact hkept.holds k hk
  · rw [Multiset.mem_add, Multiset.mem_singleton, Finding.opened.injEq] at h₁ h₂
    rcases h₁ with ⟨rfl, rfl⟩ | h₁
    · rcases h₂ with ⟨-, rfl⟩ | h₂
      · rfl
      · exact absurd h₂ (hnone _)
    · rcases h₂ with ⟨rfl, rfl⟩ | h₂
      · exact absurd h₁ (hnone _)
      · exact h.alike hash pp₁ pp₂ h₁ h₂

/-- A link of a bundle of the PP the transaction was opened for. -/
theorem Scoped.createLink {data : NewBundleTransaction} {pp : PublicKey} (h : Scoped s known)
    (hopened : .opened data.transactionId pp ∈ known) (howned : .owned pp data.bundleId ∈ known) :
    Scoped (serve (.command (.createLink data)) s).2 known := by
  have hstate : (serve (.command (.createLink data)) s).2 =
      { s with db := ((Command.createLink data).run s.clock s.db).2 } := by
    simp [serve, Command.notes]
  have hintact := h.intact.serve (.createLink data)
  rw [hstate] at hintact ⊢
  rcases Command.run_createLink s.db s.clock data with hrun | ⟨t, hinsert, hrun⟩
  · rw [hrun]
    exact h
  · rw [hrun] at hintact ⊢
    have hown : s.ownerOf data.bundleId = some pp := h.holds _ howned
    -- the links of a transaction stay of one PP, if it is the one it was opened for
    have hlinks {hash : TxHash} {pp' : PublicKey} (hpp : s.LinksOf hash pp')
        (hsame : hash = data.transactionId → pp' = pp) :
        State.LinksOf { s with db := { s.db with bundlesTransactions := t } } hash pp' := by
      intro id link hlink
      have hlink : t.find (id, hash) = some link := hlink
      rw [Table.find_insert hinsert] at hlink
      split at hlink
      · rename_i hkey
        have hkey : (data.bundleId, data.transactionId) = (id, hash) := hkey
        obtain ⟨rfl, rfl⟩ := Prod.mk.inj hkey
        rw [hsame rfl]
        exact hown
      · exact hpp id link hlink
    refine { h with
      intact := hintact
      slots := fun slot hs => (h.slots slot hs).mono fun _ _ => id
      transactions := fun hash => ?_
      holds := fun k hk => ?_ }
    · by_cases hhash : hash = data.transactionId
      · subst hhash
        exact ⟨pp, hlinks (h.holds _ hopened).2 fun _ => rfl⟩
      · obtain ⟨pp', hpp⟩ := h.transactions hash
        exact ⟨pp', hlinks hpp fun he => absurd he hhash⟩
    · cases k with
      | owned pp' id => exact h.holds _ hk
      | opened hash pp' =>
        obtain ⟨hrow, hpp⟩ := h.holds _ hk
        refine ⟨hrow, hlinks hpp ?_⟩
        rintro rfl
        exact h.alike _ _ _ hk hopened

end Invariant

end ProviderPlatform
