import ProviderPlatform.Async.Observer
import ProviderPlatform.Async.Returning
import ProviderPlatform.Providers.Handlers

/-! # The keys of the PPs

The stored key of a PP is opened, by the secret of the deployment, to the secret
key of that very PP, and the PP stays with the operator who registered it until
that operator deletes it. Both hold whatever the requests of other operators
interleave with. -/
namespace ProviderPlatform
namespace PpCustody
open Async Store Encoding

/-! ## What is kept -/

/-- A Stellar secret key begins with an S, and no public key is empty. -/
structure PpEnv.Lawful (env : PpEnv) : Prop where
  web : env.web.Lawful
  secret : ∀ sk publicKey, env.fromSecret sk = .ok publicKey →
    sk.toList.head? = some 'S' ∧ publicKey ≠ ""

/-- The stored text opens to a secret key of the PP. -/
def PpEnv.Opens (env : PpEnv) (encryptedSk : String) (publicKey : PublicKey) : Prop :=
  ∃ sk, decryptSk env.web encryptedSk env.serviceAuthSecret = .ok sk ∧
    env.fromSecret sk = .ok publicKey

/-- The id is not drawn any more. -/
def PpState.Spent (s : PpState) (id : String) : Prop := ∀ n, s.uuids ≤ n → s.uuid n ≠ id

/-- The row of a PP, with its key and its owner; it may have become active. -/
structure PpRow.Same (row row' : PpRow) : Prop where
  id : row'.id = row.id
  publicKey : row'.publicKey = row.publicKey
  encryptedSk : row'.encryptedSk = row.encryptedSk
  ownerPublicKey : row'.ownerPublicKey = row.ownerPublicKey
  active : row.isActive = true → row'.isActive = true

theorem PpRow.Same.refl (row : PpRow) : row.Same row := ⟨rfl, rfl, rfl, rfl, fun h => h⟩

theorem PpRow.Same.trans {row row' row'' : PpRow} (h : row.Same row') (h' : row'.Same row'') :
    row.Same row'' where
  id := h'.id.trans h.id
  publicKey := h'.publicKey.trans h.publicKey
  encryptedSk := h'.encryptedSk.trans h.encryptedSk
  ownerPublicKey := h'.ownerPublicKey.trans h.ownerPublicKey
  active hactive := h'.active (h.active hactive)

/-! ### The record -/

/-- A row that was made, one that a lookup of an owner found, and one that was
deleted, each with the request that did it. -/
inductive PpDeed
  | registered (l : PpCall) (row : PpRow)
  | found (l : PpCall) (row : PpRow)
  | removed (l : PpCall) (row : PpRow)
  deriving DecidableEq

def PpReq.deeds (l : PpCall) (s : PpState) : PpReq → List PpDeed
  | .create data =>
    ((insertProvider s.paymentProviders data).map fun made => .registered l made.1).toList
  | .findByPublicKeyAndOwner publicKey ownerPublicKey =>
    (((s.paymentProviders.find publicKey).filter (·.ownerPublicKey == some ownerPublicKey)).map
      (.found l)).toList
  | .hardDelete id => (s.paymentProviders.select (·.id == id)).map (.removed l)
  | _ => []

def deeds : Observer ppPlatform PpState PpCall (List PpDeed) where
  onOp _ _ _ m := m
  onServe l s q m := m ++ q.deeds l s
  onCrash m := m

def PpDeed.registeredId : PpDeed → Option String
  | .registered _ row => some row.id
  | _ => none

/-- After it was registered, a row was found by a delete request of its owner for it. -/
def FoundByOwner (m : List PpDeed) (l : PpCall) (row : PpRow) : Prop :=
  ∃ l₀ first number owner, [.registered l₀ first, .found l row].Sublist m ∧ first.Same row ∧
    l = .deletePp number owner row.publicKey ∧ row.ownerPublicKey = some owner

/-- After it was registered, a row was found by a delete request of its owner for it,
and then deleted by this request. -/
def TakenBack (m : List PpDeed) (l : PpCall) (row : PpRow) : Prop :=
  ∃ l₀ first found number owner,
    [.registered l₀ first, .found l found, .removed l row].Sublist m ∧
    first.Same found ∧ found.Same row ∧
    l = .deletePp number owner row.publicKey ∧ row.ownerPublicKey = some owner

section Record
variable {m m' : List PpDeed} {l : PpCall} {row : PpRow}

theorem FoundByOwner.mono (h : FoundByOwner m l row) (hm : m.Sublist m') :
    FoundByOwner m' l row := by
  obtain ⟨l₀, first, number, owner, hsub, hrest⟩ := h
  exact ⟨l₀, first, number, owner, hsub.trans hm, hrest⟩

theorem TakenBack.mono (h : TakenBack m l row) (hm : m.Sublist m') : TakenBack m' l row := by
  obtain ⟨l₀, first, found, number, owner, hsub, hrest⟩ := h
  exact ⟨l₀, first, found, number, owner, hsub.trans hm, hrest⟩

/-- What the request found is deleted by it. -/
theorem FoundByOwner.takenBack {found : PpRow} (h : FoundByOwner m l found)
    (hsame : found.Same row) (hm : .removed l row ∈ m') : TakenBack (m ++ m') l row := by
  obtain ⟨l₀, first, number, owner, hsub, hfirst, hl, howner⟩ := h
  refine ⟨l₀, first, found, number, owner, ?_, hfirst, hsame, ?_, ?_⟩
  · exact hsub.append (List.singleton_sublist.mpr hm)
  · rw [hsame.publicKey]
    exact hl
  · rw [hsame.ownerPublicKey]
    exact howner

theorem mem_deeds_create {s : PpState} {data : NewPaymentProvider} {made : PpRow}
    {t : Table fun row : PpRow => row.publicKey}
    (h : insertProvider s.paymentProviders data = some (made, t)) :
    (PpReq.create data).deeds l s = [.registered l made] := by
  rw [PpReq.deeds, h]
  rfl

end Record

/-! ### The invariant -/

/-- What a task knows of an id: that it has drawn it and not used it yet, or that
this request found a row that has it. -/
inductive IdClaim
  | drawn (id : String)
  | looked (l : PpCall) (id : String)
  deriving DecidableEq

/-- The rows open and are on record, no id is registered twice, and what the tasks
claim of ids is so. -/
structure InCustody (env : PpEnv) (p : PpState × List PpDeed) (r : Multiset IdClaim) : Prop where
  injective : Function.Injective p.1.uuid
  opens : ∀ row ∈ p.1.paymentProviders.rows, env.Opens row.encryptedSk row.publicKey
  ids : (p.1.paymentProviders.rows.map (·.id)).Nodup
  origin : ∀ row ∈ p.1.paymentProviders.rows, ∃ l first, .registered l first ∈ p.2 ∧ first.Same row
  registered : ∀ l row, .registered l row ∈ p.2 → p.1.Spent row.id ∧ .drawn row.id ∉ r
  recorded : (p.2.filterMap PpDeed.registeredId).Nodup
  drawn : ∀ id, .drawn id ∈ r → p.1.Spent id
  once : ∀ id, r.count (.drawn id) ≤ 1
  looked : ∀ l id, .looked l id ∈ r → ∃ found, .found l found ∈ p.2 ∧ found.id = id ∧
    ∀ row ∈ p.1.paymentProviders.rows, row.id = id → found.Same row
  found : ∀ l row, .found l row ∈ p.2 → FoundByOwner p.2 l row
  removed : ∀ l row, .removed l row ∈ p.2 → TakenBack p.2 l row

section Steps
variable {env : PpEnv} {s s' : PpState} {m : List PpDeed} {r : Multiset IdClaim} {id : String}

/-- An id that is not drawn any more is not drawn later. -/
theorem PpState.Spent.later (h : s.Spent id) (huuid : s'.uuid = s.uuid)
    (huuids : s.uuids ≤ s'.uuids) : s'.Spent id := by
  intro n hn
  rw [huuid]
  exact h n (huuids.trans hn)

namespace InCustody

/-- The rows are the same, and no id is given back. -/
theorem same (h : InCustody env (s, m) r) (hrows : s'.paymentProviders = s.paymentProviders)
    (huuid : s'.uuid = s.uuid) (huuids : s.uuids ≤ s'.uuids) : InCustody env (s', m) r where
  injective := by
    show Function.Injective s'.uuid
    rw [huuid]
    exact h.injective
  opens := by
    rw [hrows]
    exact h.opens
  ids := by
    rw [hrows]
    exact h.ids
  origin := by
    rw [hrows]
    exact h.origin
  registered l row hrow := (h.registered l row hrow).imp_left fun hspent => hspent.later huuid huuids
  recorded := h.recorded
  drawn id hid := (h.drawn id hid).later huuid huuids
  once := h.once
  looked := by
    rw [hrows]
    exact h.looked
  found := h.found
  removed := h.removed

theorem op (h : InCustody env (s, m) r) (o : PpOp) : InCustody env ((runPpOp o s).2, m) r := by
  cases o with
  | randomUUID => exact h.same rfl rfl (Nat.le_succ _)
  | _ => exact h.same rfl rfl (le_refl _)

/-- What is drawn is new to the record and to the other tasks. -/
theorem draw (h : InCustody env (s, m) r) :
    InCustody env ((runPpOp .randomUUID s).2, m) ({.drawn (s.uuid s.uuids)} + r) := by
  have h' := h.op .randomUUID
  have hnew : ∀ id, s.Spent id → s.uuid s.uuids ≠ id := fun id hid => hid _ (le_refl _)
  have hspent : (runPpOp .randomUUID s).2.Spent (s.uuid s.uuids) := by
    intro n hn heq
    have hsame := h.injective heq
    have hlt : s.uuids + 1 ≤ n := hn
    omega
  have hfresh : IdClaim.drawn (s.uuid s.uuids) ∉ r := fun hmem => hnew _ (h.drawn _ hmem) rfl
  refine ⟨h'.injective, h'.opens, h'.ids, h'.origin, fun l row hrow => ?_, h'.recorded,
    fun id hid => ?_, fun id => ?_, fun l id hid => h'.looked l id (by simpa using hid), h'.found,
    h'.removed⟩
  · refine ⟨(h'.registered l row hrow).1, fun hmem => ?_⟩
    rcases Multiset.mem_add.mp hmem with hmem | hmem
    · exact hnew _ (h.registered l row hrow).1 (IdClaim.drawn.inj (Multiset.mem_singleton.mp hmem)).symm
    · exact (h.registered l row hrow).2 hmem
  · rcases Multiset.mem_add.mp hid with hid | hid
    · cases Multiset.mem_singleton.mp hid
      exact hspent
    · exact h'.drawn id hid
  · rw [Multiset.count_add]
    by_cases heq : id = s.uuid s.uuids
    · subst heq
      rw [Multiset.count_eq_zero.mpr hfresh]
      simp
    · have hzero : ({.drawn (s.uuid s.uuids)} : Multiset IdClaim).count (.drawn id) = 0 := by
        rw [Multiset.count_eq_zero, Multiset.mem_singleton]
        intro hsame
        exact heq (IdClaim.drawn.inj hsame)
      rw [hzero, zero_add]
      exact h.once id

/-- A row is found by a delete request of its owner for it. -/
theorem learn {number : Nat} {owner : PublicKey} {row : PpRow} (h : InCustody env (s, m) r)
    (hrow : row ∈ s.paymentProviders.rows) (howner : row.ownerPublicKey = some owner) :
    InCustody env (s, m ++ [.found (.deletePp number owner row.publicKey) row])
      ({.looked (.deletePp number owner row.publicKey) row.id} + r) := by
  have hlonger := List.sublist_append_left m [.found (.deletePp number owner row.publicKey) row]
  refine ⟨h.injective, h.opens, h.ids, fun row hrow => ?_, fun l row hmem => ?_, ?_,
    fun id hid => h.drawn id (by simpa using hid), fun id => ?_, fun l id hid => ?_,
    fun l row' hmem => ?_, fun l row hmem => ?_⟩
  · obtain ⟨l, first, hfirst, hsame⟩ := h.origin row hrow
    exact ⟨l, first, List.mem_append_left _ hfirst, hsame⟩
  · obtain ⟨hspent, hnot⟩ := h.registered l row (by simpa using hmem)
    exact ⟨hspent, fun hmem => hnot (by simpa using hmem)⟩
  · rw [List.filterMap_append]
    exact (List.append_nil _).symm ▸ h.recorded
  · have hzero : ({.looked (.deletePp number owner row.publicKey) row.id} : Multiset IdClaim).count
        (.drawn id) = 0 := by simp
    rw [Multiset.count_add, hzero, zero_add]
    exact h.once id
  · rcases Multiset.mem_add.mp hid with hid | hid
    · cases Multiset.mem_singleton.mp hid
      refine ⟨row, by simp, rfl, fun row' hrow' hid => ?_⟩
      rw [List.inj_on_of_nodup_map h.ids hrow' hrow hid]
      exact .refl row
    · obtain ⟨found, hfound, hrest⟩ := h.looked l id hid
      exact ⟨found, List.mem_append_left _ hfound, hrest⟩
  · rcases List.mem_append.mp hmem with hmem | hmem
    · exact (h.found l row' hmem).mono hlonger
    · cases List.mem_singleton.mp hmem
      obtain ⟨l₀, first, hfirst, hsame⟩ := h.origin row hrow
      refine ⟨l₀, first, number, owner, ?_, hsame, rfl, howner⟩
      exact (List.singleton_sublist.mpr hfirst).append (List.Sublist.refl _)
  · exact (h.removed l row (by simpa using hmem)).mono hlonger

/-- Claims may be given up. -/
theorem release {own : Multiset IdClaim} (h : InCustody env (s, m) (own + r)) :
    InCustody env (s, m) r where
  injective := h.injective
  opens := h.opens
  ids := h.ids
  origin := h.origin
  registered l row hrow :=
    (h.registered l row hrow).imp_right fun hnot hmem => hnot (Multiset.mem_add.mpr (.inr hmem))
  recorded := h.recorded
  drawn id hid := h.drawn id (Multiset.mem_add.mpr (.inr hid))
  once id := le_trans (Multiset.count_le_of_le _ (Multiset.le_add_left _ _)) (h.once id)
  looked l id hid := h.looked l id (Multiset.mem_add.mpr (.inr hid))
  found := h.found
  removed := h.removed

/-- All the ids held can be let go. -/
theorem released {own : Multiset IdClaim} (h : InCustody env (s, m) own) :
    InCustody env (s, m) 0 := by
  rw [← add_zero own] at h
  exact h.release

/-- Rows are rewritten with the key, the owner and the id they have. -/
theorem update (h : InCustody env (s, m) r) {p : PpRow → Bool} {f : PpRow → PpRow}
    (hf : ∀ row, (f row).publicKey = row.publicKey) (hsame : ∀ row : PpRow, row.Same (f row)) :
    InCustody env (s.setProviders (s.paymentProviders.update p f hf), m) r := by
  have hmem : ∀ row ∈ (s.paymentProviders.update p f hf).rows,
      ∃ old ∈ s.paymentProviders.rows, old.Same row := by
    intro row hrow
    obtain ⟨old, hold, rfl⟩ := (Table.mem_update hf).mp hrow
    refine ⟨old, hold, ?_⟩
    split
    · exact hsame old
    · exact .refl old
  refine ⟨h.injective, fun row hrow => ?_, ?_, fun row hrow => ?_, h.registered, h.recorded, h.drawn,
    h.once, fun l id hid => ?_, h.found, h.removed⟩
  · obtain ⟨old, hold, hkept⟩ := hmem row hrow
    rw [hkept.publicKey, hkept.encryptedSk]
    exact h.opens old hold
  · have hids : (s.paymentProviders.update p f hf).rows.map (·.id) =
        s.paymentProviders.rows.map (·.id) := by
      rw [Table.update, List.map_map]
      refine List.map_congr_left fun row _ => ?_
      simp only [Function.comp_apply]
      split
      · exact (hsame row).id
      · rfl
    show ((s.paymentProviders.update p f hf).rows.map (·.id)).Nodup
    rw [hids]
    exact h.ids
  · obtain ⟨old, hold, hkept⟩ := hmem row hrow
    obtain ⟨l, first, hfirst, hold'⟩ := h.origin old hold
    exact ⟨l, first, hfirst, hold'.trans hkept⟩
  · obtain ⟨found, hfound, hfoundId, hrows⟩ := h.looked l id hid
    refine ⟨found, hfound, hfoundId, fun row hrow hrowId => ?_⟩
    obtain ⟨old, hold, hkept⟩ := hmem row hrow
    exact (hrows old hold (hkept.id ▸ hrowId)).trans hkept

/-- A row is inserted under the id that was drawn for it. -/
theorem insert {data : NewPaymentProvider} (h : InCustody env (s, m) ({.drawn data.id} + r))
    (hopens : env.Opens data.encryptedSk data.publicKey) {made : PpRow}
    {t : Table fun row : PpRow => row.publicKey}
    (hinsert : insertProvider s.paymentProviders data = some (made, t)) (l : PpCall) :
    InCustody env (s.setProviders t, m ++ [.registered l made]) r := by
  simp only [insertProvider, Option.bind_eq_bind, Option.bind_eq_some_iff] at hinsert
  obtain ⟨derivationIndex, -, hinsert⟩ := hinsert
  split at hinsert
  · cases hinsert
  rename_i hany
  obtain ⟨t', hinsert, hpair⟩ := Option.bind_eq_some_iff.mp hinsert
  cases hpair
  obtain ⟨-, hrows⟩ := Table.insert?_eq_some hinsert
  have hnot : IdClaim.drawn data.id ∉ r := by
    intro hmem
    have honce := h.once data.id
    have hpos := Multiset.count_pos.mpr hmem
    rw [Multiset.count_add, Multiset.count_singleton_self] at honce
    omega
  have hunregistered : ∀ l row, .registered l row ∈ m → row.id ≠ data.id := by
    intro l row hmem hid
    exact (h.registered l row hmem).2 (by simp [hid])
  have hmem : ∀ row ∈ t.rows, row = data.row derivationIndex ∨ row ∈ s.paymentProviders.rows := by
    intro row hrow
    rw [hrows] at hrow
    simpa [or_comm] using hrow
  have hlonger := List.sublist_append_left m [.registered l (data.row derivationIndex)]
  have hrest : InCustody env (s, m) r := h.release
  refine ⟨h.injective, fun row hrow => ?_, ?_, fun row hrow => ?_, fun l' row hreg => ?_, ?_,
    hrest.drawn, hrest.once, fun l' id hid => ?_, fun l' row hfound => ?_, fun l' row hgone => ?_⟩
  · rcases hmem row hrow with rfl | hrow
    · exact hopens
    · exact h.opens row hrow
  · show (t.rows.map (·.id)).Nodup
    rw [hrows, List.map_append, List.nodup_append]
    refine ⟨h.ids, List.nodup_singleton _, fun id hid id' hid' => ?_⟩
    obtain ⟨row, hrow, rfl⟩ := List.mem_map.mp hid
    obtain rfl := List.mem_singleton.mp hid'
    exact fun heq => hany (List.any_eq_true.mpr ⟨row, hrow, beq_iff_eq.mpr heq⟩)
  · rcases hmem row hrow with rfl | hrow
    · exact ⟨l, _, List.mem_append_right _ (List.mem_singleton_self _), .refl _⟩
    · obtain ⟨l', first, hfirst, hsame⟩ := h.origin row hrow
      exact ⟨l', first, List.mem_append_left _ hfirst, hsame⟩
  · rcases List.mem_append.mp hreg with hreg | hreg
    · exact hrest.registered l' row hreg
    · cases List.mem_singleton.mp hreg
      exact ⟨h.drawn data.id (by simp), hnot⟩
  · rw [List.filterMap_append, List.nodup_append]
    refine ⟨h.recorded, List.nodup_singleton _, fun id hid id' hid' => ?_⟩
    obtain ⟨d, hd, hdid⟩ := List.mem_filterMap.mp hid
    obtain rfl := List.mem_singleton.mp hid'
    cases d with
    | registered l' row =>
      cases hdid
      exact hunregistered l' row hd
    | found _ _ | removed _ _ => cases hdid
  · obtain ⟨found, hfound, hfoundId, hkept⟩ := hrest.looked l' id hid
    refine ⟨found, List.mem_append_left _ hfound, hfoundId, fun row hrow hrowId => ?_⟩
    rcases hmem row hrow with rfl | hrow
    · obtain ⟨l₀, first, -, -, hsub, hsame, -⟩ := h.found l' found hfound
      have hreg : .registered l₀ first ∈ m := hsub.subset List.mem_cons_self
      exact absurd (hsame.id.symm.trans (hfoundId.trans hrowId.symm)) (hunregistered l₀ first hreg)
    · exact hkept row hrow hrowId
  · exact (h.found l' row (by simpa using hfound)).mono hlonger
  · exact (h.removed l' row (by simpa using hgone)).mono hlonger

/-- A request that found a row deletes it. -/
theorem delete {l : PpCall} (h : InCustody env (s, m) ({.looked l id} + r)) :
    InCustody env ((servePp env (.hardDelete id) s).2,
      deeds.onServe l s (.hardDelete id) m) r := by
  obtain ⟨found, hfound, -, hkept⟩ := h.looked l id (by simp)
  have hrest : InCustody env (s, m) r := h.release
  let gone : List PpDeed := (s.paymentProviders.select (·.id == id)).map (.removed l)
  have hlonger : m.Sublist (m ++ gone) := List.sublist_append_left _ _
  have hold {d : PpDeed} (hd : d ∈ m ++ gone) :
      d ∈ m ∨ ∃ row, d = .removed l row ∧ found.Same row := by
    rcases List.mem_append.mp hd with hd | hd
    · exact .inl hd
    · obtain ⟨row, hrow, rfl⟩ := List.mem_map.mp hd
      obtain ⟨hrow, hid⟩ := Table.mem_select.mp hrow
      exact .inr ⟨row, rfl, hkept row hrow (by simpa using hid)⟩
  have hmem : ∀ row ∈ (s.paymentProviders.filter (·.id != id)).rows, row ∈ s.paymentProviders.rows :=
    fun row hrow => List.mem_of_mem_filter hrow
  refine ⟨h.injective, fun row hrow => h.opens row (hmem row hrow),
    h.ids.sublist (List.Sublist.map _ List.filter_sublist), fun row hrow => ?_, fun l' row hd => ?_, ?_,
    hrest.drawn, hrest.once, fun l' id' hid => ?_, fun l' row hd => ?_, fun l' row hd => ?_⟩
  · obtain ⟨l', first, hfirst, hsame⟩ := h.origin row (hmem row hrow)
    exact ⟨l', first, hlonger.subset hfirst, hsame⟩
  · rcases hold hd with hd | ⟨_, hd, -⟩
    · exact hrest.registered l' row hd
    · cases hd
  · have hnone : gone.filterMap PpDeed.registeredId = [] := by
      rw [List.filterMap_eq_nil_iff]
      intro d hd
      obtain ⟨row, -, rfl⟩ := List.mem_map.mp hd
      rfl
    show ((m ++ gone).filterMap PpDeed.registeredId).Nodup
    rw [List.filterMap_append, hnone, List.append_nil]
    exact h.recorded
  · obtain ⟨found', hfound', hid', hkept'⟩ := hrest.looked l' id' hid
    exact ⟨found', hlonger.subset hfound', hid', fun row hrow => hkept' row (hmem row hrow)⟩
  · rcases hold hd with hd | ⟨_, hd, -⟩
    · exact (h.found l' row hd).mono hlonger
    · cases hd
  · rcases hold hd with hmem | ⟨_, heq, hsame⟩
    · exact (h.removed l' row hmem).mono hlonger
    · cases heq
      rcases List.mem_append.mp hd with hmem | hmem
      · exact (h.removed l row hmem).mono hlonger
      · exact (h.found l found hfound).takenBack hsame hmem

end InCustody
end Steps

/-! ## The tasks -/

def custody (env : PpEnv) : Discipline ppPlatform (PpState × List PpDeed) (Multiset IdClaim) where
  inv := InCustody env
  mayRun _ _ := True
  mayServe _ _ := True
  mayReject _ _ := True

section Triples
variable {α : Type} {env : PpEnv} {l : PpCall} {own : Multiset IdClaim}

abbrev PpTriple (env : PpEnv) (l : PpCall) (own : Multiset IdClaim) (t : PpPromise α)
    (B : Except Err α → Multiset IdClaim → Prop) : Prop :=
  Task.Triple ((ppHost env).observe deeds l) (custody env) own t B

/-- Needs no claim, and leaves no record. -/
def PpReq.Plain : PpReq → Prop
  | .create _ | .findByPublicKeyAndOwner _ _ | .hardDelete _ => False
  | _ => True

theorem InCustody.serve {s : PpState} {m : List PpDeed} {r : Multiset IdClaim}
    (h : InCustody env (s, m) r) {q : PpReq} (hq : q.Plain) :
    InCustody env ((servePp env q s).2, deeds.onServe l s q m) r := by
  have hdeeds : deeds.onServe l s q m = m := by
    cases q with
    | create _ | findByPublicKeyAndOwner _ _ | hardDelete _ => cases hq
    | _ => exact List.append_nil m
  rw [hdeeds]
  cases q with
  | activate id =>
    exact h.update (f := fun row => { row with isActive := true }) (fun _ => rfl)
      fun row => ⟨rfl, rfl, rfl, rfl, fun _ => rfl⟩
  | create _ | findByPublicKeyAndOwner _ _ | hardDelete _ => cases hq
  | _ => exact h.same rfl rfl (le_refl _)

/-- An operation that needs no claim. -/
theorem run_returning {o : PpOp} {Q : o.Out → Prop} (h : ∀ s, Q (runPpOp o s).1) :
    Task.Returning ((ppHost env).observe deeds l) (custody env) own (ppRun o) Q :=
  .op fun p _ hi _ => ⟨h p.1, InCustody.op hi o⟩

theorem call_returning {q : PpReq} {Q : q.Ans → Prop} (hq : q.Plain)
    (h : ∀ s a, (servePp env q s).1 = .ok a → Q a) :
    Task.Returning ((ppHost env).observe deeds l) (custody env) own (ppCall q) Q :=
  .call fun p _ hi _ => ⟨h p.1, InCustody.serve hi hq⟩

theorem encryptSk_returning (hweb : env.web.Lawful) {plaintext : String}
    (hmark : plaintext.toList.head? ≠ some (Char.ofNat 0xFEFF)) (secret : String) :
    Task.Returning ((ppHost env).observe deeds l) (custody env) own (encryptSk plaintext secret)
      fun encrypted => decryptSk env.web encrypted secret = .ok plaintext := by
  have hrandom (length : Nat) : Task.Returning ((ppHost env).observe deeds l) (custody env) own
      (ppRun (.getRandomValues length)) fun bytes => bytes.length = length :=
    run_returning fun s => by simp [runPpOp, PpState.randomBytes]
  refine (hrandom saltLength).bind fun salt hsalt => ?_
  have hderive : Task.Returning ((ppHost env).observe deeds l) (custody env) own
      (ppCall (.deriveKey (encodeText secret) salt))
      fun key => key = env.web.deriveKey (encodeText secret) salt :=
    call_returning trivial fun s key hkey => (Except.ok.inj hkey).symm
  refine hderive.bind fun key hkey => (hrandom ivLength).bind fun iv hiv => ?_
  have hencrypt : Task.Returning ((ppHost env).observe deeds l) (custody env) own
      (ppCall (.encrypt key iv (encodeText plaintext)))
      fun encrypted => encrypted = env.web.encrypt key iv (encodeText plaintext) :=
    call_returning trivial fun s encrypted h => (Except.ok.inj h).symm
  refine hencrypt.bind fun encrypted hencrypted => .pure ?_
  rw [hencrypted, hkey]
  exact decryptSk_sealedSk hweb hsalt hiv hmark secret

theorem createProvider_triple (henv : env.Lawful) {publicKey : PublicKey} {secretKey : String}
    (hkey : env.fromSecret secretKey = .ok publicKey) (ownerPublicKey : PublicKey)
    (body : RegisterBody) :
    PpTriple env l own (createProvider env ownerPublicKey publicKey secretKey body)
      fun _ _ => True := by
  have hmark : secretKey.toList.head? ≠ some (Char.ofNat 0xFEFF) := by
    rw [(henv.secret _ _ hkey).1]
    decide
  refine (encryptSk_returning henv.web hmark _).then_triple (fun encrypted hencrypted => ?_)
    fun _ => trivial
  have hdraw : PpTriple env l own (ppRun .randomUUID)
      fun r o => ∀ id, r = .ok id → o = {.drawn id} + own := by
    refine Task.Triple.op fun p r hi _ => ⟨{.drawn (p.1.uuid p.1.uuids)} + own, fun id hid => ?_, ?_⟩
    · cases hid
      rfl
    · rw [add_assoc]
      exact InCustody.draw hi
  refine hdraw.bind (fun id o ho => ?_) fun _ _ _ => trivial
  rw [ho id rfl]
  have hcreate (data : NewPaymentProvider) (hid : data.id = id)
      (hopens : env.Opens data.encryptedSk data.publicKey) :
      PpTriple env l ({.drawn id} + own) (ppCall (.create data)) fun _ _ => True := by
    refine Task.Triple.call (fun p r hi _ => ⟨own, trivial, ?_⟩) fun p r hi _ _ => ⟨_, trivial, hi⟩
    rw [add_assoc] at hi
    show InCustody env ((servePp env (.create data) p.1).2, p.2 ++ (PpReq.create data).deeds l p.1)
      (own + r)
    cases hinsert : insertProvider p.1.paymentProviders data with
    | none =>
      simp only [servePp, PpReq.deeds, hinsert, Option.map_none, Option.toList_none, List.append_nil]
      exact InCustody.release hi
    | some made =>
      rw [mem_deeds_create hinsert]
      simp only [servePp, hinsert]
      exact InCustody.insert (by rw [hid]; exact hi) hopens hinsert l
  have hopens : env.Opens encrypted publicKey := ⟨secretKey, hencrypted, hkey⟩
  refine (hcreate (body.provider id encrypted publicKey ownerPublicKey) rfl hopens).bind
    (fun pp o _ => ?_) fun _ _ _ => trivial
  refine Task.Returning.then_triple (Q := fun _ => True) (run_returning fun _ => trivial)
    (fun _ _ => ?_) fun _ => trivial
  exact .done trivial

theorem handleRegisterPp_triple (henv : env.Lawful) (ownerPublicKey : PublicKey)
    (body : RegisterBody) :
    PpTriple env l own (handleRegisterPp env ownerPublicKey body) fun _ _ => True := by
  refine Task.Triple.recover (B := fun _ _ => True) ?_ (fun _ _ _ => trivial)
    fun _ _ _ => .done trivial
  refine Task.Returning.then_triple (Q := fun _ => True)
    (call_returning trivial fun _ _ _ => trivial) (fun body _ => ?_) fun _ => trivial
  split
  · exact .done trivial
  split
  · exact .done trivial
  rename_i publicKey hkey
  refine Task.Returning.then_triple (Q := fun _ => True)
    (call_returning trivial fun _ _ _ => trivial) (fun existing _ => ?_) fun _ => trivial
  cases existing with
  | none => exact createProvider_triple henv hkey ownerPublicKey body
  | some existing =>
    dsimp only [reactivate]
    split
    · exact .done trivial
    · refine Task.Returning.then_triple (Q := fun _ => True) ?_ (fun _ _ => .done trivial)
        fun _ => trivial
      unfold activateProvider
      split
      · exact .pure trivial
      · exact Task.Returning.bind (Q := fun _ => True)
          (call_returning trivial fun _ _ _ => trivial) fun _ _ => run_returning fun _ => trivial

theorem handleDeletePp_triple (pp : PpRow) :
    PpTriple env l ({.looked l pp.id} + own) (handleDeletePp pp) fun _ _ => True := by
  refine Task.Triple.recover (B := fun _ _ => True) ?_ (fun _ _ _ => trivial)
    fun _ _ _ => .done trivial
  refine Task.Returning.then_triple (Q := fun _ => True) (run_returning fun _ => trivial)
    (fun _ _ => ?_) fun _ => trivial
  refine Task.Returning.then_triple (Q := fun _ => True)
    (call_returning trivial fun _ _ _ => trivial) (fun memberships _ => ?_) fun _ => trivial
  have hloop : Task.Returning ((ppHost env).observe deeds l)
      (custody env) ({.looked l pp.id} + own)
      (Task.forEach (fun m : CouncilMembership => ppCall (.deleteMembership m.id)) memberships)
      fun _ => True :=
    Task.Returning.forEach fun m _ =>
      call_returning (q := .deleteMembership m.id) (Q := fun _ => True) trivial fun _ _ _ => trivial
  refine hloop.then_triple (fun _ _ => ?_) fun _ => trivial
  have hdelete : PpTriple env l ({.looked l pp.id} + own) (ppCall (.hardDelete pp.id))
      fun _ _ => True := by
    refine Task.Triple.call (fun p r hi _ => ⟨own, trivial, ?_⟩) fun p r hi _ _ => ⟨_, trivial, hi⟩
    rw [add_assoc] at hi
    exact InCustody.delete hi
  exact hdelete.bind (fun _ _ _ => .done trivial) fun _ _ _ => trivial

theorem requirePpOwnership_triple (number : Nat) (sub ppPublicKey : PublicKey) :
    PpTriple env (.deletePp number sub ppPublicKey) own
      (requirePpOwnership sub ppPublicKey handleDeletePp) fun _ _ => True := by
  unfold requirePpOwnership
  split
  · exact .done trivial
  split
  · exact .done trivial
  have hfind : PpTriple env (.deletePp number sub ppPublicKey) own
      (ppCall (.findByPublicKeyAndOwner ppPublicKey sub))
      fun r o => ∀ pp, r = .ok (some pp) →
        o = {.looked (.deletePp number sub ppPublicKey) pp.id} + own := by
    refine Task.Triple.call (fun p r hi _ => ?_) fun p r hi _ _ => ⟨own, nofun, hi⟩
    show ∃ o, _ ∧ InCustody env (p.1, p.2 ++ (PpReq.findByPublicKeyAndOwner ppPublicKey sub).deeds
      (.deletePp number sub ppPublicKey) p.1) (o + r)
    cases hfound : (p.1.paymentProviders.find ppPublicKey).filter
        (·.ownerPublicKey == some sub) with
    | none =>
      refine ⟨own, fun pp hpp => ?_, ?_⟩
      · have hsome : (p.1.paymentProviders.find ppPublicKey).filter
            (·.ownerPublicKey == some sub) = some pp := Except.ok.inj hpp
        rw [hfound] at hsome
        cases hsome
      · rw [PpReq.deeds, hfound, Option.map_none, Option.toList_none, List.append_nil]
        exact hi
    | some pp =>
      refine ⟨{.looked (.deletePp number sub ppPublicKey) pp.id} + own, fun pp' hpp => ?_, ?_⟩
      · have hsome : (p.1.paymentProviders.find ppPublicKey).filter
            (·.ownerPublicKey == some sub) = some pp' := Except.ok.inj hpp
        rw [hfound] at hsome
        cases hsome
        rfl
      · obtain ⟨hrow, howner⟩ := Option.filter_eq_some_iff.mp hfound
        obtain rfl : pp.publicKey = ppPublicKey :=
          Table.find_key (t := p.1.paymentProviders) hrow
        rw [PpReq.deeds, hfound, Option.map_some, Option.toList_some, add_assoc]
        exact InCustody.learn hi (Table.find_mem hrow) (by simpa using howner)
  refine hfind.bind (fun pp o ho => ?_) fun _ _ _ => trivial
  cases pp with
  | none => exact .done trivial
  | some pp =>
    rw [ho pp rfl]
    exact handleDeletePp_triple pp

theorem PpCall.program_triple (henv : env.Lawful) (call : PpCall) :
    PpTriple env call 0 (call.program env) fun _ _ => True := by
  cases call with
  | launch => exact .done trivial
  | registerPp sub body =>
    exact (handleRegisterPp_triple henv sub body).bind (fun _ _ _ => .done trivial)
      fun _ _ _ => trivial
  | deletePp number sub ppPublicKey =>
    exact (requirePpOwnership_triple number sub ppPublicKey).bind (fun _ _ _ => .done trivial)
      fun _ _ _ => trivial

end Triples

/-! ## Runs -/

/-- A deployment without PPs, whose ids are all different. -/
structure Launched (s : PpState) : Prop where
  rows : s.paymentProviders.rows = []
  uuid : Function.Injective s.uuid

abbrev PpPool := Pool ppPlatform PpState PpCall

section Runs
variable {env : PpEnv} {s : PpState} {c c' : PpPool} {m m' : List PpDeed}

theorem InCustody.launched (hs : Launched s) : InCustody env (s, []) 0 where
  injective := hs.uuid
  opens := by simp [hs.rows]
  ids := by simp [hs.rows]
  origin := by simp [hs.rows]
  registered := by simp
  recorded := List.nodup_nil
  drawn := by simp
  once := by simp
  looked := by simp
  found := by simp
  removed := by simp

/-- In every state that is reached, the rows are in custody. -/
theorem inCustody_reachable (henv : env.Lawful) (hs : Launched s)
    (h : (ppMachine env).Observed deeds Machine.Free ((ppMachine env).init s) [] c m) :
    InCustody env (c.state, m) 0 := by
  have hshares : Shares ((ppHost env).observe deeds) (fun _ => custody env) (InCustody env)
      (fun _ _ _ => True) (c.state, m) c.tasks := by
    refine h.shares (K := fun _ => custody env) (fun _ => rfl) (PpCall.program_triple henv .launch)
      (fun _ call _ => PpCall.program_triple henv call) ?_ ?_ ?_ ?_
    · exact ⟨fun _ _ _ _ _ _ _ _ _ => trivial, fun _ _ _ _ _ _ _ _ => trivial,
        fun _ _ _ _ _ _ _ _ _ => trivial⟩
    · intro _ _ d r _ hi
      cases d with
      | elapse ms => exact hi.same rfl rfl (le_refl _)
      | councilMemberships memberships => exact hi.same rfl rfl (le_refl _)
    · intro _ _ r _ hi
      exact hi.released.same rfl rfl (le_refl _)
    · exact shares_single (PpCall.program_triple henv .launch) (.launched hs)
  obtain ⟨r, hr⟩ := hshares.holds
  exact hr.released

/-! ### Signing -/

/-- What the resolver of channels calls. -/
def PpEnv.resolver (env : PpEnv) (parseConfig : String → Option CouncilConfig) (networkFee : Nat) :
    ResolverEnv where
  parseConfig := parseConfig
  decryptSk encryptedSk := decryptSk env.web encryptedSk env.serviceAuthSecret
  fromSecret := env.fromSecret
  networkFee := networkFee

/-- The context signs and pays with the key pair of this secret key. -/
structure SignsAs (env : PpEnv) (ctx : ResolvedContext) (ppPublicKey : PublicKey) : Prop where
  secret : env.fromSecret ctx.ppSecretKey = .ok ppPublicKey
  signer : ctx.signer = ppPublicKey
  source : ctx.txConfig.source = ppPublicKey
  signers : ctx.txConfig.signers = [ppPublicKey]

/-- A context is that of the stored key of the active row. -/
theorem resolve_signs {resolver : ResolverEnv} {fleet : Fleet} {channel : ContractId}
    {ppPublicKey : PublicKey} {cache cache' : ChannelCache} {ctx : ResolvedContext}
    (h : resolveChannelContext resolver fleet channel ppPublicKey cache = .ok (ctx, cache')) :
    ∃ pp sk publicKey, fleet.paymentProviders.find ppPublicKey = some pp ∧
      resolver.decryptSk pp.encryptedSk = .ok sk ∧ resolver.fromSecret sk = .ok publicKey ∧
      ctx.ppSecretKey = sk ∧ ctx.signer = publicKey ∧
      ctx.txConfig = ⟨publicKey, resolver.networkFee, 30, [publicKey]⟩ := by
  unfold resolveChannelContext at h
  split at h
  · cases h
  split at h
  · cases h
  rename_i pp hpp
  split at h
  · cases h
  split at h
  · cases h
  split at h
  · cases h
  split at h
  · cases h
  cases hsk : resolver.decryptSk pp.encryptedSk with
  | error e =>
    rw [hsk] at h
    cases h
  | ok sk =>
    rw [hsk] at h
    simp only [bind, Except.bind] at h
    split at h
    · cases h
    cases hkey : resolver.fromSecret sk with
    | error e =>
      rw [hkey] at h
      cases h
    | ok publicKey =>
      rw [hkey] at h
      cases h
      exact ⟨pp, sk, publicKey, (Option.filter_eq_some_iff.mp hpp).1, hsk, hkey, rfl, rfl, rfl⟩

theorem PpState.mem_of_fleet_find {s : PpState} {ppPublicKey : PublicKey} {pp : PpAccount}
    (h : s.fleet.paymentProviders.find ppPublicKey = some pp) :
    ∃ row ∈ s.paymentProviders.rows, row.toPpAccount = pp ∧ row.publicKey = ppPublicKey := by
  have hkey := Table.find_key h
  obtain ⟨row, hrow, rfl⟩ := List.mem_map.mp (Table.find_mem h)
  exact ⟨row, hrow, rfl, hkey⟩

/-- **A PP signs for itself, and can.** Whatever requests interleave, the stored text
of every PP opens to its secret key; a channel that the membership which is read for
an active PP lists is resolved, and every context that is resolved signs and pays as
the PP it was asked for, with the key that was registered for it. -/
theorem signs_as_registered (henv : env.Lawful) (hs : Launched s)
    (h : (ppMachine env).Run Machine.Free ((ppMachine env).init s) c)
    (parseConfig : String → Option CouncilConfig) (networkFee : Nat) (channel : ContractId)
    (ppPublicKey : PublicKey) (cache : ChannelCache) :
    (∀ row ∈ c.state.paymentProviders.rows, env.Opens row.encryptedSk row.publicKey) ∧
    (∀ row ∈ c.state.paymentProviders.rows, row.publicKey = ppPublicKey → row.isActive = true →
      ∀ membership ids, c.state.fleet.getActiveForPp ppPublicKey = some membership →
        membership.Lists (env.resolver parseConfig networkFee) channel ids →
        ∃ ctx cache', resolveChannelContext (env.resolver parseConfig networkFee) c.state.fleet
          channel ppPublicKey cache = .ok (ctx, cache')) ∧
    ∀ ctx cache', resolveChannelContext (env.resolver parseConfig networkFee) c.state.fleet
      channel ppPublicKey cache = .ok (ctx, cache') → SignsAs env ctx ppPublicKey := by
  obtain ⟨m, hobserved⟩ := h.observed deeds []
  have hcustody := inCustody_reachable henv hs hobserved
  refine ⟨hcustody.opens, ?_, ?_⟩
  · rintro row hrow rfl hactive membership ids hpicked hlists
    obtain ⟨sk, hsk, hkey⟩ := hcustody.opens row hrow
    obtain ⟨hstart, hnamed⟩ := henv.secret sk _ hkey
    have hfind : c.state.fleet.paymentProviders.find row.publicKey = some row.toPpAccount :=
      Table.find_of_mem (List.mem_map_of_mem hrow)
    have hserving : c.state.fleet.Serving (env.resolver parseConfig networkFee) row.publicKey :=
      ⟨hnamed, _, hfind, hactive, sk, _, hsk, hstart, hkey⟩
    obtain ⟨ctx, cache', -, -, -, hctx, -⟩ := resolve_of_lists cache hserving hpicked hlists
    exact ⟨ctx, cache', hctx⟩
  · intro ctx cache' hctx
    obtain ⟨pp, sk, publicKey, hfind, hsk, hkey, hsecret, hsigner, hconfig⟩ := resolve_signs hctx
    obtain ⟨row, hrow, rfl, rfl⟩ := PpState.mem_of_fleet_find hfind
    obtain ⟨sk', hsk', hkey'⟩ := hcustody.opens row hrow
    obtain rfl : sk' = sk := Except.ok.inj (hsk'.symm.trans hsk)
    obtain rfl : row.publicKey = publicKey := Except.ok.inj (hkey'.symm.trans hkey)
    exact ⟨hsecret ▸ hkey', hsigner, by rw [hconfig], by rw [hconfig]⟩

/-! ### Owners -/

/-- The row is still there, or it was deleted. -/
def Accounted (row : PpRow) (p : PpState × List PpDeed) : Prop :=
  (∃ row' ∈ p.1.paymentProviders.rows, row.Same row') ∨
    ∃ l gone, .removed l gone ∈ p.2 ∧ row.Same gone

theorem Accounted.serve {row : PpRow} {s : PpState} {m : List PpDeed} (h : Accounted row (s, m))
    (l : PpCall) (q : PpReq) :
    Accounted row ((servePp env q s).2, deeds.onServe l s q m) := by
  rcases h with ⟨row', hrow', hkept⟩ | ⟨l', gone, hgone, hsame⟩
  · cases q with
    | activate id =>
      refine .inl ⟨if row'.id == id then { row' with isActive := true } else row',
        List.mem_map_of_mem (f := fun row : PpRow =>
          if row.id == id then { row with isActive := true } else row) hrow', ?_⟩
      split
      · exact ⟨hkept.id, hkept.publicKey, hkept.encryptedSk, hkept.ownerPublicKey, fun _ => rfl⟩
      · exact hkept
    | create data =>
      left
      refine ⟨row', ?_, hkept⟩
      simp only [servePp]
      split
      · rename_i hinsert
        simp only [insertProvider, Option.bind_eq_bind, Option.bind_eq_some_iff] at hinsert
        obtain ⟨derivationIndex, -, hinsert⟩ := hinsert
        split at hinsert
        · cases hinsert
        obtain ⟨t', hinsert, hpair⟩ := Option.bind_eq_some_iff.mp hinsert
        cases hpair
        have hrows := (Table.insert?_eq_some hinsert).2
        exact hrows ▸ List.mem_append_left _ hrow'
      · exact hrow'
    | hardDelete id =>
      by_cases hid : row'.id = id
      · right
        refine ⟨l, row', List.mem_append_right _ (List.mem_map_of_mem ?_), hkept⟩
        exact Table.mem_select.mpr ⟨hrow', by simpa using hid⟩
      · left
        exact ⟨row', List.mem_filter.mpr ⟨hrow', by simpa using hid⟩, hkept⟩
    | _ => exact .inl ⟨row', hrow', hkept⟩
  · exact .inr ⟨l', gone, List.mem_append_left _ hgone, hsame⟩

/-- **Only its owner takes a PP away.** Along every run each PP keeps its row, its
stored key and its owner, unless a request of that owner deletes it which, after this
very row was registered, found it; no id is registered twice. -/
theorem owner_keeps (henv : env.Lawful) (hs : Launched s)
    (h : (ppMachine env).Observed deeds Machine.Free ((ppMachine env).init s) [] c m)
    (h' : (ppMachine env).Observed deeds Machine.Free c m c' m') {row : PpRow}
    (hrow : row ∈ c.state.paymentProviders.rows) :
    ((∃ row' ∈ c'.state.paymentProviders.rows, row.Same row') ∨
      ∃ l gone, row.Same gone ∧ TakenBack m' l gone) ∧
    (m'.filterMap PpDeed.registeredId).Nodup := by
  have hcustody := inCustody_reachable henv hs (h.trans h')
  have haccounted : Accounted row (c'.state, m') := by
    refine h'.state_invariant (P := Accounted row) (fun l s o m h => ?_) (fun l s q m h => h.serve l q)
      (fun d s m h => ?_) (fun s m h => h) (.inl ⟨row, hrow, .refl row⟩)
    · cases o with
      | _ => exact h
    · cases d with
      | _ => exact h
  refine ⟨?_, hcustody.recorded⟩
  rcases haccounted with hkept | ⟨l, gone, hgone, hsame⟩
  · exact .inl hkept
  · exact .inr ⟨l, gone, hsame, hcustody.removed l gone hgone⟩

end Runs

namespace Small

/-- A cipher that puts the vector before the text. -/
def web : WebPlatform where
  deriveKey material salt := material ++ salt
  encrypt _ iv plaintext := iv ++ plaintext
  decrypt _ iv ciphertext :=
    if iv.isPrefixOf ciphertext then .ok (ciphertext.drop iv.length)
    else .error (.error "OperationError")
  decodeText bytes := (String.fromUTF8? ⟨bytes.toArray⟩).getD ""

def env : PpEnv where
  web := web
  fromSecret sk := if sk = "SKEY" then .ok "GPP" else .error (.error "invalid encoded string")
  serviceAuthSecret := "secret"

theorem lawful : env.Lawful where
  web :=
    { decrypt_encrypt := fun key iv plaintext => by simp [env, web]
      decode_encode := fun text _ => by
        have htext : String.fromUTF8? text.toByteArray = some text := dif_pos text.isValidUTF8
        simp [env, web, encodeText, htext] }
  secret sk publicKey h := by
    simp only [env] at h
    split at h
    · rename_i hsk
      cases h
      exact ⟨by rw [hsk]; decide, by decide⟩
    · cases h

def state : PpState where
  clock := 0
  paymentProviders := .empty
  councilMemberships := .empty
  registeredProviders := []
  uuid n := String.ofList (List.replicate n 'u')
  uuids := 0
  random _ := 0
  randoms := 0

theorem launched : Launched state where
  rows := rfl
  uuid n n' h := by
    have hlength := congrArg String.length h
    simpa [state] using hlength

/-- An operator registers "GPP", which joins a council. -/
def registers : List (Choice ppPlatform PpCall PpDrift) :=
  [.start (.registerPp "GOP" ⟨some "SKEY", some 0, none, none⟩)] ++
    (List.replicate 5 [.resume 1, .serve 1]).flatten ++ [.resume 1] ++
    [.drift (.councilMemberships ⟨[ProviderPlatform.Small.memberOf "A" "channel of A"], by simp⟩)]

/-- Another operator tries to delete "GPP" and to register it. -/
def intrudes : List (Choice ppPlatform PpCall PpDrift) :=
  [.start (.deletePp 1 "GEVE" "GPP"),
    .start (.registerPp "GEVE" ⟨some "SKEY", some 0, none, none⟩)] ++
    [.resume 2, .serve 2, .resume 3, .serve 3, .resume 3, .serve 3, .resume 2, .resume 3]

/-- The operator deletes "GPP". -/
def withdraws : List (Choice ppPlatform PpCall PpDrift) :=
  [.start (.deletePp 2 "GOP" "GPP")] ++ (List.replicate 4 [.resume 2, .serve 2]).flatten ++
    [.resume 2]

end Small

/-- "GPP" signs on the channel of its council. -/
theorem signs_as_registered_small : ∃ (c : PpPool) (ctx : ResolvedContext) (cache : ChannelCache),
    resolveChannelContext (Small.env.resolver ProviderPlatform.Small.resolverEnv.parseConfig 100)
      c.state.fleet "channel of A" "GPP" .empty = .ok (ctx, cache) ∧
    SignsAs Small.env ctx "GPP" := by
  obtain ⟨c, hr, hp⟩ := Machine.exists_run_of_replay (M := ppMachine Small.env) (G := Machine.Free)
    (c := (ppMachine Small.env).init Small.state) Small.registers
    (fun s => s.paymentProviders.rows.map (fun row => (row.publicKey, row.isActive)) ==
      [("GPP", true)] && s.fleet.getActiveForPp "GPP" ==
        some (ProviderPlatform.Small.memberOf "A" "channel of A")) (by decide +kernel)
  simp only [Bool.and_eq_true, beq_iff_eq] at hp
  obtain ⟨row, hrows, hrow⟩ := List.map_eq_singleton_iff.mp hp.1
  obtain ⟨hkey, hactive⟩ := Prod.mk.inj hrow
  obtain ⟨-, hresolves, hsigns⟩ := signs_as_registered Small.lawful Small.launched hr
    ProviderPlatform.Small.resolverEnv.parseConfig 100 "channel of A" "GPP" .empty
  obtain ⟨ctx, cache, hctx⟩ := hresolves row (by rw [hrows]; exact List.mem_singleton_self _) hkey
    hactive _ _ hp.2 (ProviderPlatform.Small.memberOf_lists "A" (by decide))
  exact ⟨c, ctx, cache, hctx, hsigns ctx cache hctx⟩

/-- "GPP" stays with its operator, who can take it back. -/
theorem owner_keeps_small : ∃ (c kept after : PpPool) (m : List PpDeed) (row : PpRow),
    row ∈ c.state.paymentProviders.rows ∧ row.ownerPublicKey = some "GOP" ∧
    (ppMachine Small.env).Run Machine.Free c kept ∧
    (∃ row' ∈ kept.state.paymentProviders.rows, row.Same row') ∧
    after.state.paymentProviders.rows = [] ∧ ∃ l gone, row.Same gone ∧ TakenBack m l gone := by
  have hwatch : (((ppMachine Small.env).watch deeds Machine.Free Small.registers
      ((ppMachine Small.env).init Small.state) []).bind fun r =>
        ((ppMachine Small.env).watch deeds Machine.Free Small.intrudes r.1 r.2).bind fun r' =>
          ((ppMachine Small.env).watch deeds Machine.Free Small.withdraws r.1 r.2).map fun r'' =>
            r.1.state.paymentProviders.rows.map (·.ownerPublicKey) == [some "GOP"] &&
              r'.2 == r.2 && r.2.length == 1 && r''.1.state.paymentProviders.rows == []) =
      some true := by decide +kernel
  obtain ⟨⟨c, m⟩, hc, hwatch⟩ := Option.bind_eq_some_iff.mp hwatch
  obtain ⟨⟨kept, m'⟩, hkept, hwatch⟩ := Option.bind_eq_some_iff.mp hwatch
  obtain ⟨⟨after, m''⟩, hafter, hp⟩ := Option.map_eq_some_iff.mp hwatch
  simp only [Bool.and_eq_true, beq_iff_eq] at hp
  obtain ⟨⟨⟨howners, hsame⟩, hone⟩, hnone⟩ := hp
  obtain ⟨row, hrows, howner⟩ := List.map_eq_singleton_iff.mp howners
  have hrow : row ∈ c.state.paymentProviders.rows := by
    rw [hrows]
    exact List.mem_singleton_self _
  have h := Machine.watch_observed .refl hc
  have hkeeps := Machine.watch_observed .refl hkept
  have htakes := Machine.watch_observed .refl hafter
  obtain ⟨hstays, -⟩ := owner_keeps Small.lawful Small.launched h hkeeps hrow
  obtain ⟨hgoes, -⟩ := owner_keeps Small.lawful Small.launched h htakes hrow
  refine ⟨c, kept, after, m'', row, hrow, howner, hkeeps.run, ?_, hnone, ?_⟩
  · refine hstays.resolve_right fun ⟨l, gone, _, hgone⟩ => ?_
    -- the record has one entry, and a removal stands in three
    obtain ⟨l₀, first, found, number, owner, hsub, -⟩ := hgone
    have hlength := hsub.length_le
    rw [show m' = m from hsame, hone] at hlength
    simp at hlength
  · refine hgoes.resolve_left fun ⟨row', hrow', _⟩ => ?_
    rw [show after.state.paymentProviders.rows = [] from hnone] at hrow'
    cases hrow'

end PpCustody
end ProviderPlatform
