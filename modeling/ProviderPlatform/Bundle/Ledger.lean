import ProviderPlatform.Async.Ownership
import ProviderPlatform.Bundle.Checks
import Mathlib.Algebra.Order.Group.Multiset

/-! # The ledger of the UTXOs

A spend debits the row of its UTXO by the balance read on-chain, whether or
not the row was spent before. As long as every debit finds its row unspent, a
row is debited once, from its creation amount to zero, and no amount is ever
negative. A task that read a row as spent owns that knowledge until it
writes: a spent row stays spent. -/
namespace ProviderPlatform
open Async Store

/-! ## Rows -/

/-- An unspent row holds its creation amount, and no row anything but that or
nothing. -/
structure Utxo.Accounted (minted : UtxoId → Int) (row : Utxo) : Prop where
  unspent : row.spentByAccountId = none → row.amount = minted row.id
  amount : row.amount = minted row.id ∨ row.amount = 0

namespace State

/-- The recorded amount of a UTXO. -/
def amountOf (s : State) (id : UtxoId) : Option Int := (s.db.utxos.find id).map (·.amount)

/-- The row of the UTXO is marked spent. -/
def Spent (s : State) (id : UtxoId) : Prop :=
  ∃ row, s.db.utxos.find id = some row ∧ row.spentByAccountId ≠ none

/-- Every row is accounted for, and the rows known to be spent are. -/
structure Books (minted : UtxoId → Int) (s : State) (known : Multiset UtxoId) : Prop where
  rows : ∀ id row, s.db.utxos.find id = some row → row.Accounted minted
  spent : ∀ id ∈ known, s.Spent id

end State

/-! ## Requests -/

/-- The network answers the creation amount of a UTXO, or zero once it is
spent there; `minted` is the amount a row is created with. -/
def Req.ReadsCreation (minted : UtxoId → Int) (s : State) : Req → Prop
  | .rpc (.utxoBalances client utxos) =>
    ∀ u ∈ utxos, s.network.balance client u = minted u ∨ s.network.balance client u = 0
  | .command (.createUtxo data) =>
    ((Command.createUtxo data).run s.clock s.db).1.isOk = true → data.amount = minted data.id
  | _ => True

/-- A debit finds its row unspent, unless it debits nothing. -/
def Req.FindsUnspent (s : State) : Req → Prop
  | .command (.updateUtxo id data) =>
    ∀ row ∈ s.db.utxos.find id, row.spentByAccountId = none ∨ data.amount = row.amount
  | _ => True

/-- The two conditions on a served request. -/
def Req.Orderly (minted : UtxoId → Int) (s : State) (q : Req) : Prop :=
  q.ReadsCreation minted s ∧ q.FindsUnspent s

instance (minted : UtxoId → Int) (s : State) (q : Req) : Decidable (q.ReadsCreation minted s) := by
  unfold Req.ReadsCreation
  split <;> infer_instance

instance (s : State) (q : Req) : Decidable (q.FindsUnspent s) := by
  unfold Req.FindsUnspent
  split <;> infer_instance

instance (minted : UtxoId → Int) (s : State) (q : Req) : Decidable (q.Orderly minted s) :=
  inferInstanceAs (Decidable (_ ∧ _))

/-- Debits no row. -/
def Req.NotDebit : Req → Prop
  | .command (.updateUtxo _ _) => False
  | _ => True

/-! ## What a request does to the rows -/

section Serve
variable {s : State} {minted : UtxoId → Int} {known : Multiset UtxoId}

/-- An insert of a UTXO happens or it changes nothing. -/
theorem Command.run_createUtxo (db : Database) (now : Time) (data : NewUtxo) :
    (Command.createUtxo data).run now db = (.error constraintViolation, db) ∨
      ∃ t, db.utxos.insert? (data.row now) = some t ∧
        (Command.createUtxo data).run now db = (.ok (data.row now), { db with utxos := t }) := by
  simp only [Command.run]
  split
  · cases ht : db.utxos.insert? (data.row now) with
    | none => exact .inl rfl
    | some t => exact .inr ⟨t, rfl, rfl⟩
  · exact .inl rfl

/-- A create leaves every row, and a row it adds has its amount. -/
theorem Command.createUtxo_find (db : Database) (now : Time) (data : NewUtxo) (u : UtxoId) :
    ((Command.createUtxo data).run now db).2.utxos.find u = db.utxos.find u ∨
      ((Command.createUtxo data).run now db).1.isOk = true ∧ db.utxos.find u = none ∧
        ((Command.createUtxo data).run now db).2.utxos.find u = some (data.row now) := by
  rcases Command.run_createUtxo db now data with hrun | ⟨t, ht, hrun⟩
  · rw [hrun]
    exact .inl rfl
  · have hfind : t.find u = if data.id = u then some (data.row now) else db.utxos.find u :=
      Table.find_insert ht u
    have hnone : db.utxos.find data.id = none := (Table.insert?_eq_some ht).1
    rw [hrun]
    by_cases hu : data.id = u
    · rw [if_pos hu] at hfind
      exact .inr ⟨rfl, hu ▸ hnone, hfind⟩
    · rw [if_neg hu] at hfind
      exact .inl hfind

/-- A debit is of the rows under its id, if the bundle it names has a row. -/
theorem Command.updateUtxo_find (db : Database) (now : Time) (id : UtxoId) (data : UtxoPatch)
    (u : UtxoId) : ((Command.updateUtxo id data).run now db).2.utxos.find u =
      (db.utxos.find u).map fun row =>
        if db.hasBundle data.spentAtBundleId && row.id == id then row.set now data else row := by
  simp only [Command.run]
  by_cases h : db.hasBundle data.spentAtBundleId = true
  · rw [if_pos h]
    simp only [h, Bool.true_and]
    exact Table.find_update (Utxo.set_id now data) _ _
  · rw [if_neg h]
    simp [h]

/-- Apart from debits and creates, no request touches a UTXO. -/
theorem serve_utxos {q : Req} (hq : q.NotDebit) (hcreate : ∀ data, q ≠ .command (.createUtxo data)) :
    (serve q s).2.db.utxos = s.db.utxos := by
  cases q with
  | command w =>
    cases w with
    | updateUtxo id data => exact hq.elim
    | createUtxo data => exact absurd rfl (hcreate data)
    | createBundle _ | createTransaction _ | createLink _ | recordInteraction _ _ =>
      simp only [serve, Command.run]
      repeat' split
      all_goals rfl
    | _ => rfl
  | _ => rfl

/-- What a debit leaves of a row. -/
theorem serve_updateUtxo_find {id : UtxoId} {data : UtxoPatch} {u : UtxoId} {row : Utxo}
    (h : (serve (.command (.updateUtxo id data)) s).2.db.utxos.find u = some row) :
    ∃ row₀, s.db.utxos.find u = some row₀ ∧ (row = row₀ ∨ u = id ∧ row = row₀.set s.clock data) := by
  change ((Command.updateUtxo id data).run s.clock s.db).2.utxos.find u = some row at h
  rw [Command.updateUtxo_find] at h
  obtain ⟨row₀, hrow₀, rfl⟩ := Option.map_eq_some_iff.mp h
  refine ⟨row₀, hrow₀, ?_⟩
  split
  · rename_i hif
    have hid : row₀.id = id := by simpa using (Bool.and_eq_true_iff.mp hif).2
    have hu : row₀.id = u := Table.find_key hrow₀
    exact .inr ⟨hu.symm.trans hid, rfl⟩
  · exact .inl rfl

/-- A row stays, and only a debit of it changes it. -/
theorem serve_row {id : UtxoId} {row : Utxo} (h : s.db.utxos.find id = some row) (q : Req) :
    (serve q s).2.db.utxos.find id = some row ∨
      ∃ data, q = .command (.updateUtxo id data) ∧
        (serve q s).2.db.utxos.find id = some (row.set s.clock data) := by
  by_cases hcreate : ∃ data, q = .command (.createUtxo data)
  · obtain ⟨data, rfl⟩ := hcreate
    rcases Command.createUtxo_find s.db s.clock data id with hkeep | ⟨-, hnone, -⟩
    · exact .inl (hkeep.trans h)
    · rw [h] at hnone
      cases hnone
  by_cases hdebit : ∃ u data, q = .command (.updateUtxo u data)
  · obtain ⟨u, data, rfl⟩ := hdebit
    have hfind : (serve (.command (.updateUtxo u data)) s).2.db.utxos.find id = _ :=
      Command.updateUtxo_find s.db s.clock u data id
    rw [h, Option.map_some] at hfind
    split at hfind
    · rename_i hif
      have hu : row.id = u := by simpa using (Bool.and_eq_true_iff.mp hif).2
      have hid : row.id = id := Table.find_key h
      exact .inr ⟨data, by rw [← hu, hid], hfind⟩
    · exact .inl hfind
  · have hq : q.NotDebit := by
      cases q with
      | command w => cases w with
        | updateUtxo u data => exact hdebit ⟨u, data, rfl⟩
        | _ => trivial
      | _ => trivial
    have hkeep := serve_utxos (s := s) hq fun data he => hcreate ⟨data, he⟩
    exact .inl (hkeep ▸ h)

/-- A spent row stays spent. -/
theorem State.Spent.serve {id : UtxoId} (h : s.Spent id) (q : Req) : (serve q s).2.Spent id := by
  obtain ⟨row, hrow, hspent⟩ := h
  rcases serve_row hrow q with hkeep | ⟨data, -, hset⟩
  · exact ⟨row, hkeep, hspent⟩
  · exact ⟨_, hset, by simp [Utxo.set]⟩

/-- Whatever is not a debit keeps the books. -/
theorem State.Books.serve {q : Req} (h : s.Books minted known) (hq : q.NotDebit)
    (hreads : q.ReadsCreation minted s) : (serve q s).2.Books minted known := by
  refine ⟨fun id row hrow => ?_, fun id hid => (h.spent id hid).serve q⟩
  by_cases hcreate : ∃ data, q = .command (.createUtxo data)
  · obtain ⟨data, rfl⟩ := hcreate
    rcases Command.createUtxo_find s.db s.clock data id with hkeep | ⟨hok, -, hnew⟩
    · exact h.rows id row (hkeep.symm.trans hrow)
    · have hamount : data.amount = minted data.id := hreads hok
      have he : row = data.row s.clock := Option.some.inj (hrow.symm.trans hnew)
      subst he
      exact ⟨fun _ => hamount, .inl hamount⟩
  · have hkeep := serve_utxos (s := s) hq fun data he => hcreate ⟨data, he⟩
    rw [hkeep] at hrow
    exact h.rows id row hrow

/-- A debit keeps the books when it leaves nothing or everything of the rows
that are unspent, and spent rows alone. -/
theorem State.Books.debit {id : UtxoId} {data : UtxoPatch} (h : s.Books minted known)
    (hfinds : (Req.command (.updateUtxo id data)).FindsUnspent s)
    (hamount : s.Spent id ∨ data.amount = minted id ∨ data.amount = 0) :
    (ProviderPlatform.serve (.command (.updateUtxo id data)) s).2.Books minted known := by
  refine ⟨fun u row hrow => ?_, fun u hu => (h.spent u hu).serve _⟩
  obtain ⟨row₀, hrow₀, rfl | ⟨rfl, rfl⟩⟩ := serve_updateUtxo_find hrow
  · exact h.rows u row hrow₀
  have hacc := h.rows u row₀ hrow₀
  have hkey : row₀.id = u := Table.find_key hrow₀
  refine ⟨fun hnone => by simp [Utxo.set] at hnone, ?_⟩
  show data.amount = minted row₀.id ∨ data.amount = 0
  rcases hfinds row₀ hrow₀ with hunspent | hsame
  · rcases hamount with ⟨row₁, hrow₁, hspent⟩ | hamount
    · rw [hrow₀] at hrow₁
      cases hrow₁
      exact absurd hunspent hspent
    · exact hkey ▸ hamount
  · rw [hsame]
    exact hacc.amount

end Serve

/-! ## The tasks -/

/-- The books are kept as long as the served requests are orderly. A task owns
the UTXOs it knows to be spent. -/
def ledger (minted : UtxoId → Int) : Discipline platform State (Multiset UtxoId) where
  inv s known := s.Books minted known
  mayRun _ _ := True
  mayServe s (q : Req) := q.Orderly minted s
  mayReject _ _ := True

section Triples
variable {α : Type} {minted : UtxoId → Int} {cfg : Config}

theorem State.Books.of_utxos {s s' : State} {known : Multiset UtxoId} (h : s.Books minted known)
    (hutxos : s'.db.utxos = s.db.utxos) : s'.Books minted known := by
  refine ⟨fun id row hrow => h.rows id row (hutxos ▸ hrow), fun id hid => ?_⟩
  obtain ⟨row, hrow, hspent⟩ := h.spent id hid
  exact ⟨row, hutxos ▸ hrow, hspent⟩

/-- What is known can be forgotten. -/
theorem State.Books.forget {s : State} {known other : Multiset UtxoId}
    (h : s.Books minted (known + other)) : s.Books minted (0 + other) :=
  ⟨h.rows, fun id hid => h.spent id (Multiset.mem_add.mpr (.inr (by simpa using hid)))⟩

theorem ledger_uses {t : Promise α} (ht : Keeps (fun _ => True) Req.NotDebit t) :
    Task.Triple host (ledger minted) 0 t fun _ known => known = 0 :=
  Task.Triple.of_uses (fun o _ s known h _ => State.Books.of_utxos h (by
      show (runOp o s).2.db.utxos = s.db.utxos
      rw [runOp_db]))
    (fun _ hq _ _ h horderly => State.Books.serve h hq (And.left horderly)) ht 0

/-- A balance is the creation amount, or zero. -/
theorem fetchUtxoBalances_triple (client : ContractId) (utxos : List UtxoId) :
    Task.Triple host (ledger minted) 0 (fetchUtxoBalances client utxos) fun r known =>
      known = 0 ∧ ∀ balances, r = .ok balances →
        ∃ balance : UtxoId → Int, balances = utxos.map balance ∧
          ∀ u ∈ utxos, balance u = minted u ∨ balance u = 0 := by
  unfold fetchUtxoBalances
  split
  · rename_i hempty
    have hnil : utxos = [] := List.isEmpty_iff.mp hempty
    subst hnil
    refine .done ⟨rfl, fun balances he => ⟨fun _ => 0, ?_, fun _ hu => by simp at hu⟩⟩
    exact (Except.ok.inj he).symm
  · refine .call (fun s known h horderly => ?_) fun s known h _ e => ⟨0, ⟨rfl, fun _ => nofun⟩, h⟩
    refine ⟨0, ⟨rfl, fun balances he => ?_⟩, h⟩
    exact ⟨s.network.balance client, (Except.ok.inj he).symm, horderly.1⟩

theorem withAdmissionTimeout_triple {t : Promise α} {Q : α → Prop} (channel : ContractId)
    (h : Task.Triple host (ledger minted) 0 t fun r known => known = 0 ∧ ∀ a, r = .ok a → Q a) :
    Task.Triple host (ledger minted) 0 (withAdmissionTimeout channel t)
      fun r known => known = 0 ∧ ∀ a, r = .ok a → Q a := by
  refine h.recover (fun a known ha => ha) fun e known he => ?_
  obtain ⟨rfl, -⟩ := he
  split <;> exact .done ⟨rfl, fun _ => nofun⟩

/-- A row that was found unspent holds its creation amount; one that was found
spent is known to be spent from then on. -/
def Found (minted : UtxoId → Int) (u : UtxoId) :
    Except Err (Option Utxo) → Multiset UtxoId → Prop
  | .ok (some row), known => row.id = u ∧ (row.amount = minted u ∧ known = 0 ∨ known = {u})
  | _, known => known = 0

theorem findUtxoById_triple (u : UtxoId) :
    Task.Triple host (ledger minted) 0 (query (.findUtxoById u)) (Found minted u) := by
  refine .call (fun s other h _ => ?_) fun s other h _ e => ⟨0, rfl, h⟩
  show ∃ known, Found minted u (.ok ((s.db.utxos.find u).filter (·.deletedAt.isNone))) known ∧ _
  cases hfound : (s.db.utxos.find u).filter (·.deletedAt.isNone) with
  | none => exact ⟨0, rfl, h⟩
  | some row =>
    have hrow : s.db.utxos.find u = some row := (Option.filter_eq_some_iff.mp hfound).1
    have hkey : row.id = u := Table.find_key hrow
    by_cases hunspent : row.spentByAccountId = none
    · have hamount : row.amount = minted row.id := (h.rows u row hrow).unspent hunspent
      exact ⟨0, ⟨hkey, .inl ⟨hkey ▸ hamount, rfl⟩⟩, h⟩
    · refine ⟨{u}, ⟨hkey, .inr rfl⟩, h.rows, fun id hid => ?_⟩
      rcases Multiset.mem_add.mp hid with hid | hid
      · rw [Multiset.mem_singleton.mp hid]
        exact ⟨row, hrow, hunspent⟩
      · exact h.spent id (Multiset.mem_add.mpr (.inr hid))

/-- One debit: whatever was known before is forgotten after it. -/
theorem persistSpendOperation_triple (bundleId : Option BundleId) (account : AccountId)
    {spend : SpendOperation × Int} (hb : spend.2 = minted spend.1.utxo ∨ spend.2 = 0) :
    Task.Triple host (ledger minted) 0 (persistSpendOperation bundleId account spend)
      fun _ known => known = 0 := by
  refine (findUtxoById_triple spend.1.utxo).bind (fun utxo known hfound => ?_) fun _ _ h => h
  cases utxo with
  | none => exact .done hfound
  | some row =>
    obtain ⟨hid, hknown⟩ := hfound
    refine Task.Triple.bind (B := fun _ known => known = 0) ?_ (fun _ _ h => .done h)
      fun _ _ h => h
    refine .call (fun s other h horderly => ⟨0, rfl, ?_⟩) fun s other h _ e =>
      ⟨0, rfl, State.Books.forget h⟩
    refine State.Books.debit (State.Books.forget h) (And.right horderly) ?_
    rw [hid]
    rcases hknown with ⟨hamount, -⟩ | rfl
    · right
      show row.amount - spend.2 = _ ∨ row.amount - spend.2 = 0
      rcases hb with hb | hb
      · right
        rw [hamount, hb, sub_self]
      · left
        rw [hamount, hb, sub_zero]
    · left
      have hmem : spend.1.utxo ∈ {spend.1.utxo} + other := by simp
      exact State.Books.spent h _ hmem

theorem mem_withBalances {operations : List SpendOperation} {balance : UtxoId → Int}
    {p : SpendOperation × Int}
    (h : p ∈ withBalances operations ((operations.map (·.utxo)).map balance)) :
    p.1 ∈ operations ∧ p.2 = balance p.1.utxo := by
  unfold withBalances at h
  obtain ⟨⟨op, i⟩, hmem, rfl⟩ := List.mem_map.mp h
  have hget : operations[i]? = some op := List.mk_mem_zipIdx_iff_getElem?.mp hmem
  refine ⟨List.mem_of_getElem? hget, ?_⟩
  simp [List.getD_eq_getElem?_getD, List.getElem?_map, hget]

theorem persistSpendOperations_triple (operations : List SpendOperation)
    (bundleId : Option BundleId) (account : AccountId) (client channel : ContractId) :
    Task.Triple host (ledger minted) 0
      (persistSpendOperations operations bundleId account client channel)
      fun _ known => known = 0 := by
  unfold persistSpendOperations
  split
  · exact .done rfl
  refine (withAdmissionTimeout_triple channel (fetchUtxoBalances_triple client _)).bind
    (fun balances known h => ?_) fun _ _ h => h.1
  obtain ⟨rfl, hbalances⟩ := h
  obtain ⟨balance, rfl, hreads⟩ := hbalances balances rfl
  refine Task.Triple.forEach fun p hp => persistSpendOperation_triple bundleId account ?_
  obtain ⟨hmem, hval⟩ := mem_withBalances hp
  rw [hval]
  exact hreads _ (List.mem_map_of_mem hmem)

theorem mayAdd_notDebit : Mempool.MayAdd (fun _ => True) Req.NotDebit where
  query _ := trivial
  rpc _ := trivial
  now := trivial
  notice _ _ _ := trivial
  isDisabled _ := trivial
  place _ := trivial
  purge _ := trivial
  expire _ := trivial
  activate _ := trivial

theorem enqueueBundle_triple (input : BundleRequest) (adm : Admission)
    (entity : Written OperationsBundle) :
    Task.Triple host (ledger minted) 0 (enqueueBundle cfg input adm entity)
      fun _ known => known = 0 := by
  have h := mayAdd_notDebit
  have hcreates : Keeps (fun _ => True) Req.NotDebit
      (persistCreateOperations adm.classified.create (entity.get (·.id)) adm.accountId) :=
    persistCreateOperations_keeps h.toReads (fun _ => trivial) _ _ _
  refine (ledger_uses hcreates).bind (fun _ known hk => ?_) fun _ _ hk => hk
  subst hk
  refine (persistSpendOperations_triple _ _ _ _ _).bind (fun _ known hk => ?_) fun _ _ hk => hk
  subst hk
  refine ledger_uses ((keeps_run h.now).bind fun _ => (keeps_done _).bind fun bundle => ?_)
  exact Mempool.addBundle_keeps h cfg bundle

theorem addOperationsBundle_triple (input : BundleRequest) :
    Task.Triple host (ledger minted) 0 (addOperationsBundle cfg input) fun _ known => known = 0 := by
  have h := mayAdd_notDebit
  have hchecks : Keeps (fun _ => True) Req.NotDebit (checkRequest cfg input) :=
    checkRequest_keeps h.toAnnounces (fun _ _ => trivial) cfg input
  refine (ledger_uses hchecks).bind (fun adm known hk => ?_) fun _ _ hk => hk
  subst hk
  have hrow : Keeps (fun _ => True) Req.NotDebit (persistBundle input adm) :=
    persistBundle_keeps h.toReads (fun _ _ _ => trivial) fun _ _ _ => trivial
  refine (ledger_uses hrow).bind (fun entity known hk => ?_) fun _ _ hk => hk
  subst hk
  refine (enqueueBundle_triple input adm entity).bind (fun _ known hk => ?_) fun _ _ hk => hk
  exact .done hk

theorem Call.program_ledger (fuel : Nat) (l : Call) :
    Task.Triple host (ledger minted) 0 (l.program cfg fuel) fun _ _ => True := by
  by_cases hl : ∃ input, l = .addOperationsBundle input
  · obtain ⟨input, rfl⟩ := hl
    exact (addOperationsBundle_triple input).bind (fun _ _ _ => .done trivial) fun _ _ _ => trivial
  · refine (ledger_uses ((Call.program_keeps cfg fuel l).mono (fun _ _ => trivial) ?_)).mono
      fun _ _ _ => trivial
    intro q hq
    cases q with
    | command w =>
      cases w with
      | updateUtxo id data => exact absurd hq hl
      | _ => trivial
    | _ => trivial

end Triples

/-! ## Runs -/

/-- The step changes the recorded amount of a UTXO. -/
def Debits (c c' : ProviderPool) (u : UtxoId) : Prop :=
  ∃ amount, c.state.amountOf u = some amount ∧ c'.state.amountOf u ≠ some amount

section Runs
variable {cfg : Config} {fuel : Nat} {allowed : State → Call → Bool} {minted : UtxoId → Int}
variable {c c' : ProviderPool} {ch : ProviderChoice}

theorem State.Books.run {s : State} (hs : s.db.utxos.rows = [])
    (h : (process cfg fuel allowed).Run (ServesMeet (Req.Orderly minted))
      ((process cfg fuel allowed).init s) c) : ∃ known, c.state.Books minted known := by
  have hempty : s.Books minted 0 := by
    refine ⟨fun id row hrow => ?_, fun id hid => by simp at hid⟩
    have hmem : row ∈ s.db.utxos.rows := Table.find_mem hrow
    simp [hs] at hmem
  have hboot : Task.Triple host (ledger minted) 0 (Call.launch.program cfg fuel) fun _ _ => True :=
    Call.program_ledger fuel .launch
  have howned : (process cfg fuel allowed).Owned (fun _ => ledger minted)
      (fun s known => s.Books minted known) c := by
    refine h.owned (fun _ => rfl) hboot
      (fun _ l _ => Call.program_ledger fuel l) ⟨fun _ _ _ _ _ _ _ _ => trivial, ?_,
        fun _ _ _ _ _ _ _ _ => trivial⟩ (fun c d known _ hi => ?_) (fun c known _ hi => ?_)
      (Machine.owned_init hboot hempty)
    · intro c i l q k hg ht
      exact hg (l, q) (by simp [Choice.served, ht])
    · exact State.Books.of_utxos hi (drift_agrees d c.state).utxos
    · exact ⟨hi.rows, fun id hid => by simp at hid⟩
  exact howned.holds

/-- A row under a step: it stays, and an orderly step changes its amount only
when it turns it from unspent to spent. -/
theorem step_row {id : UtxoId} {row : Utxo} (hs : (process cfg fuel allowed).step ch c = some c')
    (hg : ServesMeet Req.FindsUnspent c ch) (hrow : c.state.db.utxos.find id = some row) :
    ∃ row', c'.state.db.utxos.find id = some row' ∧
      (row.spentByAccountId ≠ none → row'.spentByAccountId ≠ none) ∧
      (row'.amount = row.amount ∨
        row.spentByAccountId = none ∧ row'.spentByAccountId ≠ none) := by
  rcases step_agrees hs with ⟨l, w, hserved, hdb⟩ | ⟨-, hagrees⟩
  · have hfinds : (Req.command w).FindsUnspent c.state := hg (l, .command w) hserved
    have hutxos : c'.state.db.utxos = (serve (.command w) c.state).2.db.utxos := by rw [hdb]; rfl
    rw [hutxos]
    rcases serve_row hrow (.command w) with hkeep | ⟨data, he, hset⟩
    · exact ⟨row, hkeep, fun hne => hne, .inl rfl⟩
    · refine ⟨_, hset, fun _ => by simp [Utxo.set], ?_⟩
      rw [he] at hfinds
      rcases hfinds row hrow with hunspent | hsame
      · exact .inr ⟨hunspent, by simp [Utxo.set]⟩
      · exact .inl hsame
  · exact ⟨row, hagrees.utxos ▸ hrow, fun hne => hne, .inl rfl⟩

/-- The amount of a spent row is final. -/
theorem run_spent {id : UtxoId} {amount : Int}
    (h : (process cfg fuel allowed).Run (ServesMeet (Req.Orderly minted)) c c')
    (hspent : ∃ row, c.state.db.utxos.find id = some row ∧ row.spentByAccountId ≠ none ∧
      row.amount = amount) : c'.state.amountOf id = some amount := by
  have hinv := h.invariant (P := fun c => ∃ row, c.state.db.utxos.find id = some row ∧
    row.spentByAccountId ≠ none ∧ row.amount = amount) ?_ hspent
  · obtain ⟨row, hrow, -, rfl⟩ := hinv
    rw [State.amountOf, hrow]
    rfl
  · rintro c₁ ch c₂ ⟨row, hrow, hne, rfl⟩ hg hs
    obtain ⟨row', hrow', hkeep, hsame | ⟨hunspent, -⟩⟩ :=
      step_row hs (fun p hp => (hg p hp).2) hrow
    · exact ⟨row', hrow', hkeep hne, hsame⟩
    · exact absurd hunspent hne

/-- **The UTXO ledger.** In a run in which the network answers creation amounts
and every debit finds its row unspent, no amount is ever negative, and a debit
takes a row from its creation amount to zero, where it stays. -/
theorem utxo_ledger (hminted : ∀ u, 0 ≤ minted u) (s : State) (hs : s.db.utxos.rows = [])
    (h : (process cfg fuel allowed).Run (ServesMeet (Req.Orderly minted))
      ((process cfg fuel allowed).init s) c) :
    (∀ row ∈ c.state.db.utxos.rows, 0 ≤ row.amount) ∧
    ∀ ch c' u, ServesMeet (Req.Orderly minted) c ch →
      (process cfg fuel allowed).step ch c = some c' → Debits c c' u →
      c.state.amountOf u = some (minted u) ∧
      ∀ c'', (process cfg fuel allowed).Run (ServesMeet (Req.Orderly minted)) c' c'' →
        c''.state.amountOf u = some 0 := by
  obtain ⟨known, hbooks⟩ := State.Books.run hs h
  refine ⟨fun row hrow => ?_, fun ch c' u hg hstep hdebit => ?_⟩
  · have hacc := hbooks.rows row.id row (Table.find_of_mem hrow)
    rcases hacc.amount with hamount | hamount
    · rw [hamount]
      exact hminted _
    · exact hamount.ge
  obtain ⟨known', hbooks'⟩ := State.Books.run hs (.step ch h hg hstep)
  obtain ⟨amount, hbefore, hafter⟩ := hdebit
  obtain ⟨row, hrow, rfl⟩ := Option.map_eq_some_iff.mp hbefore
  obtain ⟨row', hrow', -, hchange⟩ := step_row hstep (fun p hp => (hg p hp).2) hrow
  have hne : row'.amount ≠ row.amount := by
    intro he
    exact hafter (by rw [State.amountOf, hrow', Option.map_some, he])
  obtain ⟨hunspent, hspent⟩ := hchange.resolve_left hne
  have hkey : row.id = u := Table.find_key hrow
  have hkey' : row'.id = u := Table.find_key hrow'
  have hfull : row.amount = minted u := hkey ▸ (hbooks.rows u row hrow).unspent hunspent
  have hzero : row'.amount = 0 := by
    refine (hbooks'.rows u row' hrow').amount.resolve_left fun he => hne ?_
    rw [he, hkey', hfull]
  exact ⟨by rw [hbefore, hfull], fun c'' hrun => run_spent hrun ⟨row', hrow', hspent, hzero⟩⟩

end Runs

namespace Small

/-- Every UTXO holds the 4 that a CREATE of the installation mints. -/
def minting : State := { state with network := { network with balance := fun _ _ => 4 } }

/-- The admission of a bundle that creates a UTXO. -/
def mints : List ProviderChoice :=
  serves 0 1 ++ [.resume 0, .start (.addOperationsBundle (request ["deposit 10", "create a 4"]))] ++
    serves 1 12 ++ [.resume 1]

/-- Then of one that spends it. -/
def spends : List ProviderChoice :=
  mints ++ [.start (.addOperationsBundle (request ["spend a", "withdraw 3"]))] ++ serves 2 12

/-- Or of one that spends it twice. -/
def overspends : List ProviderChoice :=
  mints ++ [.start (.addOperationsBundle (request ["spend a", "spend a", "withdraw 3"]))] ++
    serves 2 16

end Small

/-- A bundle that spends a UTXO twice takes its amount below zero. -/
theorem utxo_ledger_overdrawn :
    ¬ ∀ (cfg : Config) (fuel : Nat) (minted : UtxoId → Int) (s : State) (c : ProviderPool),
      (∀ u, 0 ≤ minted u) → Fresh cfg s →
      (provider cfg fuel).Run (ServesMeet (Req.ReadsCreation minted)) ((provider cfg fuel).init s) c →
      ∀ row ∈ c.state.db.utxos.rows, 0 ≤ row.amount := by
  intro h
  obtain ⟨c, hr, hp⟩ := Machine.exists_run_of_replay
    (M := provider Small.config 1) (G := ServesMeet (Req.ReadsCreation fun _ => 4))
    (c := (provider Small.config 1).init Small.minting) Small.overspends
    (fun s => s.db.utxos.rows.any fun row => row.amount < 0) (by decide +kernel)
  obtain ⟨row, hrow, hneg⟩ := List.any_eq_true.mp hp
  have hfresh : Fresh Small.config Small.minting := ⟨rfl, rfl, rfl, rfl, rfl, rfl⟩
  have hle : 0 ≤ row.amount := h _ _ _ _ c (fun _ => by decide) hfresh hr row hrow
  have hlt : row.amount < 0 := of_decide_eq_true hneg
  omega

/-- The run that spends the UTXO once, up to its debit. -/
theorem utxo_ledger_small :
    ∃ c, c.state.amountOf "a" = some 0 ∧
      (∀ row ∈ c.state.db.utxos.rows, 0 ≤ row.amount) ∧
      ∀ ch c' u, ServesMeet (Req.Orderly fun _ => 4) c ch →
        (provider Small.config 1).step ch c = some c' → Debits c c' u →
        c.state.amountOf u = some 4 ∧
        ∀ c'', (provider Small.config 1).Run (ServesMeet (Req.Orderly fun _ => 4)) c' c'' →
          c''.state.amountOf u = some 0 := by
  obtain ⟨c, hr, hp⟩ := Machine.exists_run_of_replay
    (M := provider Small.config 1) (G := ServesMeet (Req.Orderly fun _ => 4))
    (c := (provider Small.config 1).init Small.minting) Small.spends
    (fun s => s.amountOf "a" == some 0) (by decide +kernel)
  exact ⟨c, eq_of_beq hp, utxo_ledger (fun _ => by decide) Small.minting rfl hr⟩

end ProviderPlatform
