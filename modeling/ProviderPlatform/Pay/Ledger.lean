import ProviderPlatform.Pay.Custodial
import Mathlib.Algebra.Order.Group.Multiset

/-! # The books of the custodial accounts

The ledger is the abstract account of what happened: what a committed entry
adds to a balance and to what is held in escrow. `Reconciled` says that the
tables agree with it, that each open transaction's drafts agree with the
entries it has noted, and that no escrow is paid out twice. A running
transaction is a session: its number, the rows it holds and has read, and its
entries. -/
namespace ProviderPlatform
open Async Store

/-! ## What an entry means -/

namespace Entry

/-- What the entry adds to the balance of each account. -/
noncomputable def onAccounts : Entry → (AccountId →₀ ℤ)
  | debit account amount => Finsupp.single account (-amount)
  | credit account _ amount => Finsupp.single account amount
  | _ => 0

/-- What the entry adds to the amount and the number of the escrows held. -/
noncomputable def onEscrows : Entry → (EscrowId →₀ ℤ × ℤ)
  | hold escrow amount => Finsupp.single escrow (amount, 1)
  | release escrow amount => Finsupp.single escrow (-amount, -1)
  | _ => 0

def balanceChange (id : AccountId) : Entry → Int
  | debit account amount => if account = id then -amount else 0
  | credit account _ amount => if account = id then amount else 0
  | _ => 0

def heldChange (id : EscrowId) : Entry → Int
  | hold escrow amount => if escrow = id then amount else 0
  | release escrow amount => if escrow = id then -amount else 0
  | _ => 0

def holds (id : EscrowId) : Entry → Bool
  | hold escrow _ => escrow = id
  | _ => false

def credits (id : EscrowId) : Entry → Bool
  | credit _ escrow _ => escrow = id
  | _ => false

def releases (id : EscrowId) : Entry → Bool
  | release escrow _ => escrow = id
  | _ => false

/-- What the entry adds to the balances and the escrows together. -/
def net : Entry → Int
  | debit _ amount => -amount
  | hold _ amount => amount
  | credit _ _ amount => amount
  | release _ amount => -amount

theorem onAccounts_apply (entry : Entry) (id : AccountId) :
    entry.onAccounts id = entry.balanceChange id := by
  cases entry with
  | debit account amount =>
    by_cases hid : account = id <;> simp [onAccounts, balanceChange, hid]
  | credit account escrow amount => simp [onAccounts, balanceChange, Finsupp.single_apply]
  | hold escrow amount => rfl
  | release escrow amount => rfl

theorem onEscrows_apply (entry : Entry) (id : EscrowId) :
    entry.onEscrows id = (entry.heldChange id,
      (if entry.holds id then 1 else 0) - if entry.releases id then 1 else 0) := by
  cases entry with
  | debit account amount => rfl
  | credit account escrow amount => rfl
  | hold escrow amount =>
    by_cases hid : escrow = id
    · simp [onEscrows, heldChange, holds, releases, hid]
    · simpa [onEscrows, heldChange, holds, releases, hid] using Prod.mk_zero_zero.symm
  | release escrow amount =>
    by_cases hid : escrow = id
    · simp [onEscrows, heldChange, holds, releases, hid]
    · simpa [onEscrows, heldChange, holds, releases, hid] using Prod.mk_zero_zero.symm

theorem net_eq (entry : Entry) :
    entry.net = Table.sumOf entry.onAccounts + (Table.sumOf entry.onEscrows).1 := by
  cases entry <;> simp [net, onAccounts, onEscrows]

end Entry

/-- What entries add to the balances. -/
noncomputable def onAccounts (entries : Multiset Entry) : AccountId →₀ ℤ :=
  (entries.map Entry.onAccounts).sum

noncomputable def onEscrows (entries : Multiset Entry) : EscrowId →₀ ℤ × ℤ :=
  (entries.map Entry.onEscrows).sum

@[simp] theorem onAccounts_zero : onAccounts 0 = 0 := rfl
@[simp] theorem onEscrows_zero : onEscrows 0 = 0 := rfl

theorem onAccounts_add (entries entries' : Multiset Entry) :
    onAccounts (entries + entries') = onAccounts entries + onAccounts entries' := by
  simp [onAccounts]

theorem onEscrows_add (entries entries' : Multiset Entry) :
    onEscrows (entries + entries') = onEscrows entries + onEscrows entries' := by
  simp [onEscrows]

@[simp] theorem onAccounts_singleton (entry : Entry) : onAccounts {entry} = entry.onAccounts := by
  simp [onAccounts]

@[simp] theorem onEscrows_singleton (entry : Entry) : onEscrows {entry} = entry.onEscrows := by
  simp [onEscrows]

theorem onAccounts_apply (entries : Multiset Entry) (id : AccountId) :
    onAccounts entries id = (entries.map (·.balanceChange id)).sum := by
  induction entries using Multiset.induction with
  | empty => simp
  | cons entry entries ih =>
    rw [← Multiset.singleton_add, onAccounts_add, Finsupp.add_apply, ih, onAccounts_singleton,
      Entry.onAccounts_apply]
    simp

theorem onEscrows_apply (entries : Multiset Entry) (id : EscrowId) :
    onEscrows entries id = ((entries.map (·.heldChange id)).sum,
      (entries.countP (·.holds id) : ℤ) - entries.countP (·.releases id)) := by
  induction entries using Multiset.induction with
  | empty => rfl
  | cons entry entries ih =>
    rw [← Multiset.singleton_add, onEscrows_add, Finsupp.add_apply, ih, onEscrows_singleton,
      Entry.onEscrows_apply, Prod.mk_add_mk, Multiset.singleton_add, Multiset.countP_cons,
      Multiset.countP_cons, Multiset.map_cons, Multiset.sum_cons]
    congr 1
    push_cast
    omega

/-- What a transaction may commit: it creates no escrow, and what it credits it
also releases. -/
structure Committable (notes : Multiset Entry) : Prop where
  holds : ∀ id, notes.countP (·.holds id) = 0
  matched : ∀ id, notes.countP (·.credits id) ≤ notes.countP (·.releases id)

theorem committable_zero : Committable 0 := ⟨fun _ => rfl, fun _ => Nat.le_refl _⟩

theorem committable_debit (account : AccountId) (amount : Int) :
    Committable {.debit account amount} := by
  constructor
  · exact fun _ => rfl
  · exact fun _ => Nat.le_refl 0

theorem committable_released (escrow : PayEscrow) : Committable escrow.released := by
  unfold PayEscrow.released
  split
  · exact ⟨fun _ => rfl, fun _ => Nat.zero_le _⟩
  · exact committable_zero

/-- A credit with its release. -/
theorem committable_paid (account : AccountId) (escrow : EscrowId) (amount : Int) :
    Committable ({.credit account escrow amount} + {.release escrow amount}) := by
  constructor
  · exact fun _ => rfl
  · intro id
    have hcredits : Multiset.countP (·.credits id)
        ({.credit account escrow amount} + {.release escrow amount} : Multiset Entry) =
          if escrow = id then 1 else 0 := by
      simp [← Multiset.cons_zero, Multiset.countP_cons, Entry.credits]
    have hreleases : Multiset.countP (·.releases id)
        ({.credit account escrow amount} + {.release escrow amount} : Multiset Entry) =
          if escrow = id then 1 else 0 := by
      simp [← Multiset.cons_zero, Multiset.countP_cons, Entry.releases]
    rw [hcredits, hreleases]

theorem Committable.add {notes notes' : Multiset Entry} (h : Committable notes)
    (h' : Committable notes') : Committable (notes + notes') := by
  constructor
  · intro id
    rw [Multiset.countP_add, h.holds, h'.holds]
  · intro id
    rw [Multiset.countP_add, Multiset.countP_add]
    exact Nat.add_le_add (h.matched id) (h'.matched id)

/-! ## What the rows are worth -/

/-- The amount and the number 1 of an escrow of mode custodial that is HELD. -/
def PayEscrow.measure (escrow : PayEscrow) : ℤ × ℤ :=
  if escrow.IsHeld then (escrow.amount, 1) else 0

theorem PayEscrow.onEscrows_created (escrow : PayEscrow) :
    onEscrows escrow.created = Finsupp.single escrow.id escrow.measure := by
  unfold created measure
  split <;> simp [Entry.onEscrows]

theorem PayEscrow.onEscrows_released (escrow : PayEscrow) :
    onEscrows escrow.released = Finsupp.single escrow.id (-escrow.measure) := by
  unfold released measure
  split <;> simp [Entry.onEscrows]

theorem PayEscrow.onAccounts_created (escrow : PayEscrow) : onAccounts escrow.created = 0 := by
  unfold created
  split <;> simp [Entry.onAccounts]

theorem PayEscrow.onAccounts_released (escrow : PayEscrow) : onAccounts escrow.released = 0 := by
  unfold released
  split <;> simp [Entry.onAccounts]

namespace PayState

/-- The committed balance of an account. -/
def balance (s : PayState) (id : AccountId) : Int :=
  ((s.accounts.table.find id).map (·.balance)).getD 0

/-- The committed amount that is held in an escrow of mode custodial. -/
def heldAmount (s : PayState) (id : EscrowId) : Int :=
  ((s.escrows.table.find id).map (·.measure.1)).getD 0

/-- All custodial balances, and all HELD escrows of mode custodial. -/
def value (s : PayState) : Int :=
  s.accounts.table.total (·.balance) + s.escrows.table.total (·.measure.1)

end PayState

/-! ## What is accounted for -/

/-- A transaction that a task has open: the rows it holds, as it last saw them,
and what it has noted. -/
structure PaySession where
  tx : Nat
  accounts : List PayCustodialAccount
  escrows : List PayEscrow
  notes : Multiset Entry

structure PaySession.Valid (session : PaySession) (s : PayState) : Prop where
  accounts : ∀ account ∈ session.accounts, s.accounts.Knows session.tx account
  escrows : ∀ escrow ∈ session.escrows, s.escrows.Knows session.tx escrow
  notes : (s.notesOf session.tx : Multiset Entry) = session.notes

/-- The open transactions of a task, and the entries it has committed. -/
abbrev PayOwn := Multiset PaySession × Multiset Entry

/-- The deposit address that an account was created with. -/
def PayState.addressOf (s : PayState) (id : AccountId) : Option PublicKey :=
  (s.accounts.table.find id).map (·.depositAddress)

/-- A balance that is not negative, at the address of the account. -/
structure PayCustodialAccount.Sound (start : PayState) (account : PayCustodialAccount) : Prop where
  solvent : 0 ≤ account.balance
  address : start.addressOf account.id = some account.depositAddress

/-- The state agrees with its ledger, counted from the state `start`, and with
what the tasks own. `Base` says which entries may be nobody's. -/
structure Reconciled (start : PayState) (Base : Multiset Entry → Prop) (s : PayState)
    (own : PayOwn) : Prop where
  distinct : (own.1.map (·.tx)).Nodup
  valid : ∀ session ∈ own.1, session.tx < s.nextTx ∧ session.Valid s
  fresh : ∀ tx, s.nextTx ≤ tx → s.notesOf tx = []
  accounts : s.accounts.Tracks (·.balance) (·.Sound start) s.nextTx
    fun tx => onAccounts (s.notesOf tx)
  escrows : s.escrows.Tracks (·.measure) (fun escrow => 0 ≤ escrow.amount) s.nextTx
    fun tx => onEscrows (s.notesOf tx)
  present : ∀ id, (start.addressOf id).isSome → (s.accounts.table.find id).isSome
  balances : s.accounts.table.worth (·.balance) =
    start.accounts.table.worth (·.balance) + onAccounts s.ledger
  held : s.escrows.table.worth (·.measure) =
    start.escrows.table.worth (·.measure) + onEscrows s.ledger
  created : ∀ id, (start.escrows.table.worth (·.measure) id).2 +
    (s.ledger.countP (·.holds id) : ℤ) ≤ if (s.escrows.table.find id).isSome then 1 else 0
  matched : ∀ id, s.ledger.countP (·.credits id) ≤ s.ledger.countP (·.releases id)
  receipts : ∃ base, Base base ∧ (s.ledger : Multiset Entry) = base + own.2

/-! ## What the steps do to the books -/

namespace PayState
variable (s : PayState) (tx tx' : Nat)

theorem notesOf_note (entries : List Entry) :
    (s.note tx entries).notesOf tx' = s.notesOf tx' ++ if tx' = tx then entries else [] := by
  simp only [notesOf, note, List.filterMap_append]
  congr 1
  by_cases htx : tx' = tx
  · subst htx
    simp [List.filterMap_map]
  · simp [List.filterMap_map, htx, Ne.symm htx]

theorem notesOf_forget :
    (s.forget tx).notesOf tx' = if tx' = tx then [] else s.notesOf tx' := by
  simp only [notesOf, forget, List.filterMap_filter]
  split
  · rename_i htx
    subst htx
    rw [List.filterMap_eq_nil_iff]
    intro p _
    by_cases hp : p.1 = tx'
    · simp [hp]
    · simp [hp]
  · rename_i htx
    apply List.filterMap_congr
    intro p _
    by_cases hp : p.1 = tx'
    · simp [hp, htx]
    · simp [hp]

end PayState

namespace Reconciled
variable {start s s' : PayState} {Base : Multiset Entry → Prop} {session session' : PaySession}
  {S : Multiset PaySession} {R : Multiset Entry}

/-- What the books do not mention can change. -/
theorem of_eq {own : PayOwn} (h : Reconciled start Base s own) (haccounts : s'.accounts = s.accounts)
    (hescrows : s'.escrows = s.escrows) (hnext : s'.nextTx = s.nextTx) (hnoted : s'.noted = s.noted)
    (hledger : s'.ledger = s.ledger) : Reconciled start Base s' own := by
  have hnotes : s'.notesOf = s.notesOf := by
    funext tx
    simp only [PayState.notesOf, hnoted]
  have hvalid : ∀ session : PaySession, session.Valid s → session.Valid s' := by
    intro session hvalid
    refine ⟨?_, ?_, ?_⟩
    · rw [haccounts]
      exact hvalid.accounts
    · rw [hescrows]
      exact hvalid.escrows
    · rw [hnotes]
      exact hvalid.notes
  constructor
  · exact h.distinct
  · intro session hsession
    rw [hnext]
    exact ⟨(h.valid session hsession).1, hvalid session (h.valid session hsession).2⟩
  · rw [hnext, hnotes]
    exact h.fresh
  · rw [haccounts, hnext, hnotes]
    exact h.accounts
  · rw [hescrows, hnext, hnotes]
    exact h.escrows
  · rw [haccounts]
    exact h.present
  · rw [haccounts, hledger]
    exact h.balances
  · rw [hescrows, hledger]
    exact h.held
  · rw [hescrows, hledger]
    exact h.created
  · rw [hledger]
    exact h.matched
  · rw [hledger]
    exact h.receipts

theorem others (h : Reconciled start Base s ({session} + S, R)) :
    ∀ other ∈ S, other.tx ≠ session.tx := by
  intro other hother hsame
  have hdistinct := h.distinct
  rw [Multiset.map_add, Multiset.map_singleton, Multiset.singleton_add,
    Multiset.nodup_cons] at hdistinct
  exact hdistinct.1 (hsame ▸ Multiset.mem_map_of_mem _ hother)

theorem self_valid (h : Reconciled start Base s ({session} + S, R)) :
    session.tx < s.nextTx ∧ session.Valid s :=
  h.valid session (Multiset.mem_add.mpr (.inl (Multiset.mem_singleton_self _)))

theorem other_valid (h : Reconciled start Base s ({session} + S, R)) {other : PaySession}
    (hother : other ∈ S) : other.tx < s.nextTx ∧ other.Valid s :=
  h.valid other (Multiset.mem_add.mpr (.inr hother))

/-- An account keeps its row and its address. -/
theorem exists_account {own : PayOwn} (h : Reconciled start Base s own) (tx : Nat)
    {id : AccountId} {address : PublicKey} (hstart : start.addressOf id = some address) :
    ∃ account, (s.accounts.view tx).find id = some account ∧ account.depositAddress = address := by
  obtain ⟨row, hrow⟩ := Option.isSome_iff_exists.mp (h.present id (by rw [hstart]; rfl))
  have hview : (s.accounts.view tx).find id = some (s.accounts.latest tx row) := by
    rw [LockedTable.find_view, hrow, Option.map_some]
  refine ⟨_, hview, ?_⟩
  have haddress := (h.accounts.all.view tx _ (Table.find_mem hview)).address
  rw [Table.find_key hview, hstart] at haddress
  exact (Option.some.inj haddress).symm

/-- The sessions after a step of one of them. -/
theorem sessions_of (h : Reconciled start Base s ({session} + S, R))
    (htx : session'.tx = session.tx) (hself : session'.tx < s'.nextTx ∧ session'.Valid s')
    (hothers : ∀ other ∈ S, other.tx < s'.nextTx ∧ other.Valid s') :
    (({session'} + S).map (·.tx)).Nodup ∧
      ∀ x ∈ ({session'} + S : Multiset PaySession), x.tx < s'.nextTx ∧ x.Valid s' := by
  constructor
  · have hdistinct := h.distinct
    rw [Multiset.map_add, Multiset.map_singleton] at hdistinct ⊢
    rwa [htx]
  · intro x hx
    rcases Multiset.mem_add.mp hx with hx | hx
    · rw [Multiset.mem_singleton.mp hx]
      exact hself
    · exact hothers x hx

section Write
variable {entries : List Entry}

theorem notes_self : (s.note session.tx entries).notesOf session.tx =
    s.notesOf session.tx ++ entries := by
  rw [PayState.notesOf_note, if_pos rfl]

theorem notes_other {tx : Nat} (hne : tx ≠ session.tx) :
    (s.note session.tx entries).notesOf tx = s.notesOf tx := by
  rw [PayState.notesOf_note, if_neg hne, List.append_nil]

/-- A transaction rewrites an account that it may hold, and notes why. -/
theorem write_account (session' : PaySession) (entries : List Entry)
    (h : Reconciled start Base s ({session} + S, R))
    {account : PayCustodialAccount} {g : PayCustodialAccount → PayCustodialAccount}
    (hg : ∀ row, (g row).id = row.id) (hfree : s.accounts.Free session.tx account.id)
    (hfind : (s.accounts.view session.tx).find account.id = some account)
    (heffect : onAccounts entries =
      Finsupp.single account.id ((g account).balance - account.balance))
    (hescrows : onEscrows entries = 0) (hsolvent : 0 ≤ (g account).balance)
    (haddress : (g account).depositAddress = account.depositAddress)
    (hkeep : session'.escrows = session.escrows)
    (hknown : ∀ row ∈ session'.accounts, row = g account ∨
      row ∈ session.accounts ∧ row.id ≠ account.id)
    (htx : session'.tx = session.tx) (hnotes : session'.notes = session.notes + entries) :
    Reconciled start Base { s.note session.tx entries with
      accounts := s.accounts.write session.tx account.id g hg } ({session'} + S, R) := by
  obtain ⟨hopen, hvalid⟩ := h.self_valid
  have hsound : (g account).Sound start := by
    refine ⟨hsolvent, ?_⟩
    rw [hg, haddress]
    exact (h.accounts.all.view session.tx account (Table.find_mem hfind)).address
  have hsessions := @sessions_of start s { s.note session.tx entries with
    accounts := s.accounts.write session.tx account.id g hg } Base session session' S R h htx ⟨htx ▸ hopen, ?_⟩ ?_
  · refine ⟨hsessions.1, hsessions.2, ?_, ?_, ?_, h.present, h.balances, h.held, h.created,
      h.matched, h.receipts⟩
    · intro tx hnew
      exact (notes_other (Nat.lt_of_lt_of_le hopen hnew).ne').trans (h.fresh tx hnew)
    · apply h.accounts.write hg hopen hfree hfind hsound
      · rw [← heffect, ← onAccounts_add, Multiset.coe_add, ← notes_self]
        rfl
      · intro tx hne
        exact congrArg (fun notes : List Entry => onAccounts notes) (notes_other hne)
    · apply h.escrows.congr
      intro tx
      by_cases hne : tx = session.tx
      · subst hne
        rw [← add_zero (onEscrows (s.notesOf session.tx)), ← hescrows, ← onEscrows_add,
          Multiset.coe_add, ← notes_self]
        rfl
      · exact congrArg (fun notes : List Entry => onEscrows notes) (notes_other hne)
  · refine ⟨?_, ?_, ?_⟩
    · intro row hrow
      rw [htx]
      rcases hknown row hrow with rfl | ⟨hrow, hne⟩
      · exact LockedTable.knows_write hg hfree hfind
      · exact (hvalid.accounts row hrow).write_of_ne hg hfree hne
    · rw [htx, hkeep]
      exact hvalid.escrows
    · rw [htx, hnotes, ← hvalid.notes]
      exact congrArg _ notes_self
  · intro other hmem
    have hne := h.others other hmem
    obtain ⟨hopen, hvalid⟩ := h.other_valid hmem
    refine ⟨hopen, ?_, hvalid.escrows, ?_⟩
    · intro row hrow
      exact (hvalid.accounts row hrow).write_other hg hfree hne
    · rw [← hvalid.notes]
      exact congrArg _ (notes_other hne)

/-- A transaction rewrites an escrow that it may hold, and notes why. -/
theorem write_escrow (session' : PaySession) (entries : List Entry)
    (h : Reconciled start Base s ({session} + S, R))
    {escrow : PayEscrow} {g : PayEscrow → PayEscrow}
    (hg : ∀ row, (g row).id = row.id) (hfree : s.escrows.Free session.tx escrow.id)
    (hfind : (s.escrows.view session.tx).find escrow.id = some escrow)
    (heffect : onEscrows entries =
      Finsupp.single escrow.id ((g escrow).measure - escrow.measure))
    (haccounts : onAccounts entries = 0) (hamount : (g escrow).amount = escrow.amount)
    (hkeep : session'.accounts = session.accounts)
    (hknown : ∀ row ∈ session'.escrows, row = g escrow ∨
      row ∈ session.escrows ∧ row.id ≠ escrow.id)
    (htx : session'.tx = session.tx) (hnotes : session'.notes = session.notes + entries) :
    Reconciled start Base { s.note session.tx entries with
      escrows := s.escrows.write session.tx escrow.id g hg } ({session'} + S, R) := by
  obtain ⟨hopen, hvalid⟩ := h.self_valid
  have hpositive : 0 ≤ (g escrow).amount := by
    rw [hamount]
    exact h.escrows.all.view session.tx escrow (Table.find_mem hfind)
  have hsessions := @sessions_of start s { s.note session.tx entries with
    escrows := s.escrows.write session.tx escrow.id g hg } Base session session' S R h htx ⟨htx ▸ hopen, ?_⟩ ?_
  · refine ⟨hsessions.1, hsessions.2, ?_, ?_, ?_, h.present, h.balances, h.held, h.created,
      h.matched, h.receipts⟩
    · intro tx hnew
      exact (notes_other (Nat.lt_of_lt_of_le hopen hnew).ne').trans (h.fresh tx hnew)
    · apply h.accounts.congr
      intro tx
      by_cases hne : tx = session.tx
      · subst hne
        rw [← add_zero (onAccounts (s.notesOf session.tx)), ← haccounts, ← onAccounts_add,
          Multiset.coe_add, ← notes_self]
        rfl
      · exact congrArg (fun notes : List Entry => onAccounts notes) (notes_other hne)
    · apply h.escrows.write hg hopen hfree hfind hpositive
      · rw [← heffect, ← onEscrows_add, Multiset.coe_add, ← notes_self]
        rfl
      · intro tx hne
        exact congrArg (fun notes : List Entry => onEscrows notes) (notes_other hne)
  · refine ⟨?_, ?_, ?_⟩
    · rw [htx, hkeep]
      exact hvalid.accounts
    · intro row hrow
      rw [htx]
      rcases hknown row hrow with rfl | ⟨hrow, hne⟩
      · exact LockedTable.knows_write hg hfree hfind
      · exact (hvalid.escrows row hrow).write_of_ne hg hfree hne
    · rw [htx, hnotes, ← hvalid.notes]
      exact congrArg _ notes_self
  · intro other hmem
    have hne := h.others other hmem
    obtain ⟨hopen, hvalid⟩ := h.other_valid hmem
    refine ⟨hopen, hvalid.accounts, ?_, ?_⟩
    · intro row hrow
      exact (hvalid.escrows row hrow).write_other hg hfree hne
    · rw [← hvalid.notes]
      exact congrArg _ (notes_other hne)

/-- A transaction locks an account that it may hold, and knows the row then. -/
theorem lock_account (session' : PaySession) (h : Reconciled start Base s ({session} + S, R))
    {account : PayCustodialAccount} (hfree : s.accounts.Free session.tx account.id)
    (hfind : (s.accounts.view session.tx).find account.id = some account)
    (hkeep : session'.escrows = session.escrows)
    (hknown : ∀ row ∈ session'.accounts, row = account ∨ row ∈ session.accounts)
    (htx : session'.tx = session.tx) (hnotes : session'.notes = session.notes) :
    Reconciled start Base { s with accounts := s.accounts.lock session.tx account.id }
      ({session'} + S, R) := by
  have hsound := (h.accounts.all.view session.tx account (Table.find_mem hfind)).solvent
  have hwrite := write_account session' [] h (g := id)
    (fun _ => rfl) hfree hfind (by simp) rfl hsound rfl hkeep ?_ htx (by simpa using hnotes)
  · exact hwrite.of_eq rfl rfl rfl (by simp [PayState.note]) rfl
  · intro row hrow
    rcases hknown row hrow with rfl | hrow
    · exact .inl rfl
    · by_cases hid : row.id = account.id
      · have hsame := (h.self_valid.2.accounts row hrow).2
        rw [hid, hfind, Option.some.injEq] at hsame
        exact .inl hsame.symm
      · exact .inr ⟨hrow, hid⟩

theorem lock_escrow (session' : PaySession) (h : Reconciled start Base s ({session} + S, R)) {escrow : PayEscrow}
    (hfree : s.escrows.Free session.tx escrow.id)
    (hfind : (s.escrows.view session.tx).find escrow.id = some escrow)
    (hkeep : session'.accounts = session.accounts)
    (hknown : ∀ row ∈ session'.escrows, row = escrow ∨ row ∈ session.escrows)
    (htx : session'.tx = session.tx) (hnotes : session'.notes = session.notes) :
    Reconciled start Base { s with escrows := s.escrows.lock session.tx escrow.id }
      ({session'} + S, R) := by
  have hwrite := write_escrow session' [] h (g := id)
    (fun _ => rfl) hfree hfind (by simp) rfl rfl hkeep ?_ htx (by simpa using hnotes)
  · exact hwrite.of_eq rfl rfl rfl (by simp [PayState.note]) rfl
  · intro row hrow
    rcases hknown row hrow with rfl | hrow
    · exact .inl rfl
    · by_cases hid : row.id = escrow.id
      · have hsame := (h.self_valid.2.escrows row hrow).2
        rw [hid, hfind, Option.some.injEq] at hsame
        exact .inl hsame.symm
      · exact .inr ⟨hrow, hid⟩

end Write

theorem begin (h : Reconciled start Base s (S, R)) :
    Reconciled start Base { s with nextTx := s.nextTx + 1 }
      ({⟨s.nextTx, [], [], 0⟩} + S, R) := by
  have hnone := h.fresh s.nextTx (Nat.le_refl _)
  constructor
  · rw [Multiset.map_add, Multiset.map_singleton, Multiset.singleton_add, Multiset.nodup_cons]
    refine ⟨?_, h.distinct⟩
    intro hmem
    obtain ⟨other, hother, hsame⟩ := Multiset.mem_map.mp hmem
    exact absurd hsame (h.valid other hother).1.ne
  · intro session hsession
    rcases Multiset.mem_add.mp hsession with hsession | hsession
    · rw [Multiset.mem_singleton.mp hsession]
      refine ⟨Nat.lt_succ_self _, nofun, nofun, ?_⟩
      exact congrArg _ hnone
    · obtain ⟨hopen, hvalid⟩ := h.valid session hsession
      exact ⟨Nat.lt_succ_of_lt hopen, hvalid.accounts, hvalid.escrows, hvalid.notes⟩
  · exact fun tx htx => h.fresh tx (Nat.le_of_succ_le htx)
  · exact h.accounts.mono (Nat.le_succ _)
  · exact h.escrows.mono (Nat.le_succ _)
  · exact h.present
  · exact h.balances
  · exact h.held
  · exact h.created
  · exact h.matched
  · exact h.receipts

/-- A task forgets about a transaction. -/
theorem drop (h : Reconciled start Base s ({session} + S, R)) : Reconciled start Base s (S, R) := by
  refine { h with distinct := ?_, valid := fun _ hother => h.other_valid hother }
  have hdistinct := h.distinct
  rw [Multiset.map_add, Multiset.map_singleton, Multiset.singleton_add,
    Multiset.nodup_cons] at hdistinct
  exact hdistinct.2

theorem forget_self : (s.forget session.tx).notesOf session.tx = [] := by
  rw [PayState.notesOf_forget, if_pos rfl]

theorem forget_other {tx : Nat} (hne : tx ≠ session.tx) :
    (s.forget session.tx).notesOf tx = s.notesOf tx := by
  rw [PayState.notesOf_forget, if_neg hne]

theorem forget_fresh (h : Reconciled start Base s (S, R)) {tx tx' : Nat} (hnew : s.nextTx ≤ tx) :
    (s.forget tx').notesOf tx = [] := by
  rw [PayState.notesOf_forget, h.fresh tx hnew, ite_self]

theorem rollback (h : Reconciled start Base s ({session} + S, R)) :
    Reconciled start Base (s.rollback session.tx) (S, R) := by
  refine ⟨h.drop.distinct, ?_, fun tx hnew => h.forget_fresh hnew, ?_, ?_, h.present,
    h.balances, h.held, h.created, h.matched, h.receipts⟩
  · intro other hother
    have hne := h.others other hother
    obtain ⟨hopen, hvalid⟩ := h.other_valid hother
    refine ⟨hopen, ?_, ?_, ?_⟩
    · exact fun row hrow => (hvalid.accounts row hrow).release_other hne.symm
    · exact fun row hrow => (hvalid.escrows row hrow).release_other hne.symm
    · rw [← hvalid.notes]
      exact congrArg _ (forget_other hne)
  · apply h.accounts.release
    · exact congrArg (fun notes : List Entry => onAccounts notes) forget_self
    · intro tx hne
      exact congrArg (fun notes : List Entry => onAccounts notes) (forget_other hne)
  · apply h.escrows.release
    · exact congrArg (fun notes : List Entry => onEscrows notes) forget_self
    · intro tx hne
      exact congrArg (fun notes : List Entry => onEscrows notes) (forget_other hne)

theorem commit (h : Reconciled start Base s ({session} + S, R))
    (hnotes : Committable session.notes) :
    Reconciled start Base (s.commit session.tx) (S, R + session.notes) := by
  obtain ⟨hopen, hvalid⟩ := h.self_valid
  have hcount : ∀ p : Entry → Bool,
      (s.notesOf session.tx).countP p = session.notes.countP fun entry => p entry := by
    intro p
    rw [← hvalid.notes, Multiset.coe_countP]
    simp
  refine ⟨h.drop.distinct, ?_, fun tx hnew => h.forget_fresh hnew, ?_, ?_, ?_, ?_, ?_, ?_, ?_, ?_⟩
  · intro other hother
    have hne := h.others other hother
    obtain ⟨hopen, hvalid⟩ := h.other_valid hother
    refine ⟨hopen, ?_, ?_, ?_⟩
    · exact fun row hrow => (hvalid.accounts row hrow).commit_other hne.symm
    · exact fun row hrow => (hvalid.escrows row hrow).commit_other hne.symm
    · rw [← hvalid.notes]
      exact congrArg _ (forget_other hne)
  · apply h.accounts.commit
    · exact congrArg (fun notes : List Entry => onAccounts notes) forget_self
    · intro tx hne
      exact congrArg (fun notes : List Entry => onAccounts notes) (forget_other hne)
  · apply h.escrows.commit
    · exact congrArg (fun notes : List Entry => onEscrows notes) forget_self
    · intro tx hne
      exact congrArg (fun notes : List Entry => onEscrows notes) (forget_other hne)
  · intro id hid
    show ((s.accounts.view session.tx).find id).isSome
    rw [LockedTable.find_view, Option.isSome_map]
    exact h.present id hid
  · show (s.accounts.view session.tx).worth _ =
      _ + onAccounts (s.ledger ++ s.notesOf session.tx : List Entry)
    rw [h.accounts.changes session.tx, h.balances, ← Multiset.coe_add, onAccounts_add, add_assoc]
  · show (s.escrows.view session.tx).worth _ =
      _ + onEscrows (s.ledger ++ s.notesOf session.tx : List Entry)
    rw [h.escrows.changes session.tx, h.held, ← Multiset.coe_add, onEscrows_add, add_assoc]
  · intro id
    show _ + ((s.ledger ++ s.notesOf session.tx).countP (·.holds id) : ℤ) ≤
      if ((s.escrows.view session.tx).find id).isSome then 1 else 0
    rw [List.countP_append, hcount, hnotes.holds, LockedTable.find_view, Option.isSome_map]
    exact h.created id
  · intro id
    show (s.ledger ++ s.notesOf session.tx).countP (·.credits id) ≤
      (s.ledger ++ s.notesOf session.tx).countP (·.releases id)
    rw [List.countP_append, List.countP_append, hcount, hcount]
    exact Nat.add_le_add (h.matched id) (hnotes.matched id)
  · obtain ⟨base, hbase, hledger⟩ := h.receipts
    refine ⟨base, hbase, ?_⟩
    show ((s.ledger ++ s.notesOf session.tx : List Entry) : Multiset Entry) = _
    rw [← Multiset.coe_add, hledger, hvalid.notes, add_assoc]

/-- An escrow is created outside any transaction. -/
theorem createEscrow (h : Reconciled start Base s (S, R)) {escrow : PayEscrow}
    {escrows : LockedTable PayEscrow.id} (hins : s.escrows.insert? escrow = some escrows)
    (hamount : 0 ≤ escrow.amount) :
    Reconciled start Base { s with escrows := escrows, ledger := s.ledger ++ escrow.created }
      (S, R + escrow.created) := by
  obtain ⟨hnone, hrows, -⟩ := LockedTable.insert?_eq_some hins
  have hcount : ∀ id, (escrow.created.countP (·.credits id)) = 0 := by
    intro id
    unfold PayEscrow.created
    split <;> simp [Entry.credits]
  refine { h with
    valid := ?_, escrows := h.escrows.insert hins hamount, balances := ?_, held := ?_
    created := ?_, matched := ?_, receipts := ?_ }
  · intro session hsession
    obtain ⟨hopen, hvalid⟩ := h.valid session hsession
    refine ⟨hopen, hvalid.accounts, ?_, hvalid.notes⟩
    exact fun row hrow => (hvalid.escrows row hrow).insert hins
  · show s.accounts.table.worth _ = _ + onAccounts (s.ledger ++ escrow.created : List Entry)
    rw [h.balances, ← Multiset.coe_add, onAccounts_add, escrow.onAccounts_created, add_zero]
  · show escrows.table.worth _ = _ + onEscrows (s.ledger ++ escrow.created : List Entry)
    rw [Table.worth_append hrows, h.held, ← Multiset.coe_add, onEscrows_add,
      escrow.onEscrows_created, add_assoc]
  · intro id
    have hold := h.created id
    show _ + ((s.ledger ++ escrow.created).countP (·.holds id) : ℤ) ≤
      if (escrows.table.find id).isSome then 1 else 0
    rw [List.countP_append]
    by_cases hid : id = escrow.id
    · subst hid
      have hnew : escrows.table.find escrow.id = some escrow := by
        rw [LockedTable.find_insert hins, if_pos rfl]
      have hone : escrow.created.countP (·.holds escrow.id) ≤ 1 := by
        unfold PayEscrow.created
        split <;> simp [Entry.holds]
      rw [hnone] at hold
      rw [hnew]
      simp only [Option.isSome_none, Bool.false_eq_true, if_false] at hold
      simp only [Option.isSome_some, if_true]
      push_cast
      omega
    · have hzero : escrow.created.countP (·.holds id) = 0 := by
        unfold PayEscrow.created
        split <;> simp [Entry.holds, Ne.symm hid]
      rw [hzero, LockedTable.find_insert hins, if_neg (Ne.symm hid), add_zero]
      exact hold
  · intro id
    show (s.ledger ++ escrow.created).countP (·.credits id) ≤
      (s.ledger ++ escrow.created).countP (·.releases id)
    rw [List.countP_append, List.countP_append, hcount id, add_zero]
    exact Nat.le_add_right_of_le (h.matched id)
  · obtain ⟨base, hbase, hledger⟩ := h.receipts
    refine ⟨base, hbase, ?_⟩
    show ((s.ledger ++ escrow.created : List Entry) : Multiset Entry) = _
    rw [← Multiset.coe_add, hledger, add_assoc]

/-! ## What the books say -/

theorem balance_eq {own : PayOwn} (h : Reconciled start Base s own) (id : AccountId) :
    s.balance id = start.balance id + (s.ledger.map (·.balanceChange id)).sum := by
  have hlaw := DFunLike.congr_fun h.balances id
  rw [Finsupp.add_apply, Table.worth_apply, Table.worth_apply, onAccounts_apply,
    Multiset.map_coe, Multiset.sum_coe] at hlaw
  exact hlaw

/-- What is released was held once. -/
theorem credited_once {own : PayOwn} (h : Reconciled start Base s own) (id : EscrowId) :
    s.ledger.countP (·.credits id) ≤ 1 := by
  have hcount : ∀ p : Entry → Bool,
      (s.ledger : Multiset Entry).countP (fun entry => p entry) =
        s.ledger.countP fun entry => p entry := by
    intro p
    rw [Multiset.coe_countP]
    simp
  have hlaw := congrArg Prod.snd (DFunLike.congr_fun h.held id)
  rw [Finsupp.add_apply, onEscrows_apply, hcount, hcount] at hlaw
  simp only [Prod.snd_add] at hlaw
  have hleft : 0 ≤ (s.escrows.table.worth (·.measure) id).2 := by
    rw [Table.worth_apply]
    cases s.escrows.table.find id with
    | none => exact Int.le_refl 0
    | some escrow =>
      show 0 ≤ escrow.measure.2
      unfold PayEscrow.measure
      split
      · exact Int.one_nonneg
      · exact Int.le_refl 0
  have hcreated := h.created id
  have hmatched := h.matched id
  have hone : (if (s.escrows.table.find id).isSome then 1 else 0 : ℤ) ≤ 1 := by
    split <;> omega
  omega

end Reconciled

end ProviderPlatform
