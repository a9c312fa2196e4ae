import ProviderPlatform.Store.Table
import Mathlib.Data.Finsupp.BigOperators
import Mathlib.Algebra.BigOperators.Finsupp.Basic
import Mathlib.Tactic.Abel

/-! # Row locks and transactions

A table whose rows can be held by open transactions. A transaction rewrites
the rows it holds in drafts that nobody else sees until it commits. The view
of a transaction is the table with its own drafts applied, so committing is
replacing the table by that view, and rolling back is dropping the drafts.
What a table is worth under some measure of its rows is a finitely supported
function on its keys; each transaction's drafts change it by a sum of its own. -/
namespace Store

/-- A row that is held, and what its owner has made of it. -/
structure Draft {ρ κ : Type} (key : ρ → κ) where
  owner : Nat
  change : ρ → ρ
  keeps : ∀ r, key (change r) = key r

/-- A table and the drafts of the open transactions. -/
structure LockedTable {ρ κ : Type} (key : ρ → κ) where
  table : Table key
  held : κ → Option (Draft key)

namespace LockedTable
variable {ρ κ : Type} {key : ρ → κ} [DecidableEq κ]

def unlocked (table : Table key) : LockedTable key := ⟨table, fun _ => none⟩

/-- No other transaction holds the row. -/
def Free (t : LockedTable key) (tx : Nat) (k : κ) : Prop := ∀ d ∈ t.held k, d.owner = tx

instance (t : LockedTable key) (tx : Nat) (k : κ) : Decidable (t.Free tx k) :=
  inferInstanceAs (Decidable (∀ d ∈ t.held k, d.owner = tx))

/-- A row as the transaction sees it. -/
def latest (t : LockedTable key) (tx : Nat) (r : ρ) : ρ :=
  match t.held (key r) with
  | some d => if d.owner = tx then d.change r else r
  | none => r

omit [DecidableEq κ] in
theorem key_latest (t : LockedTable key) (tx : Nat) (r : ρ) :
    key (t.latest tx r) = key r := by
  unfold latest
  split
  · split
    · exact Draft.keeps _ r
    · rfl
  · rfl

/-- The table as the transaction sees it. -/
def view (t : LockedTable key) (tx : Nat) : Table key :=
  t.table.update (fun _ => true) (t.latest tx) (t.key_latest tx)

/-- Hold a row, and rewrite the version of it that the transaction has. -/
def write (t : LockedTable key) (tx : Nat) (k : κ) (f : ρ → ρ) (hf : ∀ r, key (f r) = key r) :
    LockedTable key :=
  { t with held := Function.update t.held k (some
    { owner := tx
      change := fun r => f ((((t.held k).map Draft.change).getD id) r)
      keeps := by
        intro r
        rw [hf]
        cases t.held k with
        | none => rfl
        | some d => exact d.keeps r }) }

/-- Hold a row as it is. -/
def lock (t : LockedTable key) (tx : Nat) (k : κ) : LockedTable key :=
  t.write tx k id fun _ => rfl

/-- Give up the rows of a transaction and its drafts. -/
def release (t : LockedTable key) (tx : Nat) : LockedTable key :=
  { t with held := fun k => (t.held k).filter fun d => d.owner != tx }

/-- Make the drafts of a transaction the rows of the table. -/
def commit (t : LockedTable key) (tx : Nat) : LockedTable key :=
  { t.release tx with table := t.view tx }

/-- Add a row outside any transaction. -/
def insert? (t : LockedTable key) (r : ρ) : Option (LockedTable key) :=
  (t.table.insert? r).map fun table =>
    ⟨table, Function.update t.held (key r) none⟩

theorem find_view (t : LockedTable key) (tx : Nat) (k : κ) :
    (t.view tx).find k = (t.table.find k).map (t.latest tx) := by
  rw [view, Table.find_update]
  rfl

omit [DecidableEq κ] in
theorem rows_view (t : LockedTable key) (tx : Nat) :
    (t.view tx).rows = t.table.rows.map (t.latest tx) := rfl

/-! ## What the steps do to the views -/

section Write
variable {t : LockedTable key} {tx tx' : Nat} {k : κ} {f : ρ → ρ} {hf : ∀ r, key (f r) = key r}

theorem latest_write_self (hfree : t.Free tx k) (r : ρ) :
    (t.write tx k f hf).latest tx r = if key r = k then f (t.latest tx r) else t.latest tx r := by
  by_cases hk : key r = k
  · subst hk
    simp only [latest, write, Function.update_self, if_true]
    cases hheld : t.held (key r) with
    | none => rfl
    | some d =>
      have howner : d.owner = tx := hfree d hheld
      simp [howner]
  · simp only [latest, write, Function.update_of_ne hk, if_neg hk]

theorem latest_write_other (hfree : t.Free tx k) (hne : tx' ≠ tx) :
    (t.write tx k f hf).latest tx' = t.latest tx' := by
  funext r
  by_cases hk : key r = k
  · subst hk
    simp only [latest, write, Function.update_self, if_neg (Ne.symm hne)]
    cases hheld : t.held (key r) with
    | none => rfl
    | some d =>
      have howner : d.owner = tx := hfree d hheld
      simp [howner, Ne.symm hne]
  · simp only [latest, write, Function.update_of_ne hk]

theorem view_write_self (hfree : t.Free tx k) :
    (t.write tx k f hf).view tx = (t.view tx).update (fun r => key r = k) f hf := by
  simp only [view, Table.update, Table.mk.injEq, List.map_map]
  apply List.map_congr_left
  intro r _
  show (t.write tx k f hf).latest tx r = _
  rw [latest_write_self hfree]
  by_cases hk : key r = k <;> simp [hk, key_latest]

theorem view_write_other (hfree : t.Free tx k) (hne : tx' ≠ tx) :
    (t.write tx k f hf).view tx' = t.view tx' := by
  simp only [view, latest_write_other hfree hne]
  rfl

end Write

section End
variable {t : LockedTable key} {tx tx' : Nat}

omit [DecidableEq κ] in
theorem latest_release_self (r : ρ) : (t.release tx).latest tx r = r := by
  simp only [latest, release]
  cases t.held (key r) with
  | none => rfl
  | some d =>
    by_cases howner : d.owner = tx
    · simp [Option.filter, howner]
    · simp [Option.filter, howner]

omit [DecidableEq κ] in
theorem latest_release_other (hne : tx' ≠ tx) : (t.release tx).latest tx' = t.latest tx' := by
  funext r
  simp only [latest, release]
  cases t.held (key r) with
  | none => rfl
  | some d =>
    by_cases howner : d.owner = tx
    · simp [Option.filter, howner, Ne.symm hne]
    · simp [Option.filter, howner]

omit [DecidableEq κ] in
theorem view_release_self : (t.release tx).view tx = t.table := by
  have hid : (t.table.rows.map fun r => (t.release tx).latest tx r) = t.table.rows :=
    (List.map_congr_left fun r _ => latest_release_self r).trans (List.map_id _)
  simp only [view, Table.update]
  cases htable : t.table with
  | mk rows nodup =>
    rw [htable] at hid
    simpa only [release, htable, if_true, Table.mk.injEq] using hid

omit [DecidableEq κ] in
theorem view_release_other (hne : tx' ≠ tx) : (t.release tx).view tx' = t.view tx' := by
  simp only [view, latest_release_other hne]
  rfl

omit [DecidableEq κ] in
theorem view_commit_self : (t.commit tx).view tx = t.view tx :=
  view_release_self (t := { t with table := t.view tx })

omit [DecidableEq κ] in
theorem latest_commit_other (hne : tx' ≠ tx) : (t.commit tx).latest tx' = t.latest tx' :=
  latest_release_other hne

end End

/-! ## What a transaction knows

Nobody else changes a row that a transaction holds, so what it has read of it
stays true until it writes the row itself. -/

/-- The transaction holds the row with the key. -/
def Owns (t : LockedTable key) (tx : Nat) (k : κ) : Prop := ∃ d, t.held k = some d ∧ d.owner = tx

/-- The transaction holds the row, and this is its latest version. -/
def Knows (t : LockedTable key) (tx : Nat) (r : ρ) : Prop :=
  t.Owns tx (key r) ∧ (t.view tx).find (key r) = some r

section Knows
variable {t t' : LockedTable key} {tx tx' : Nat} {k : κ} {r r' : ρ} {f : ρ → ρ}
  {hf : ∀ r, key (f r) = key r}

omit [DecidableEq κ] in
theorem Owns.eq_of_free (h : t.Owns tx k) (hfree : t.Free tx' k) : tx = tx' := by
  obtain ⟨d, hd, rfl⟩ := h
  exact hfree d hd

omit [DecidableEq κ] in
theorem Owns.free (h : t.Owns tx k) : t.Free tx k := by
  intro d hd
  obtain ⟨d', hd', howner⟩ := h
  rw [Option.mem_def, hd', Option.some.injEq] at hd
  exact hd ▸ howner

omit [DecidableEq κ] in
theorem Owns.latest_other (h : t.Owns tx (key r)) (hne : tx' ≠ tx) : t.latest tx' r = r := by
  obtain ⟨d, hd, rfl⟩ := h
  simp only [latest, hd, if_neg (Ne.symm hne)]

omit [DecidableEq κ] in
theorem Owns.release_other (h : t.Owns tx k) (hne : tx' ≠ tx) : (t.release tx').Owns tx k := by
  obtain ⟨d, hd, rfl⟩ := h
  refine ⟨d, ?_, rfl⟩
  simp [release, hd, Option.filter, Ne.symm hne]

theorem knows_write (hf : ∀ r, key (f r) = key r) (hfree : t.Free tx k)
    (hfind : (t.view tx).find k = some r) : (t.write tx k f hf).Knows tx (f r) := by
  have hkey : key r = k := Table.find_key hfind
  constructor
  · rw [hf, hkey]
    exact ⟨_, Function.update_self .., rfl⟩
  · rw [view_write_self hfree, Table.find_update, hf, hkey, hfind]
    simp [hkey]

theorem Knows.write_of_ne (hf : ∀ r, key (f r) = key r) (h : t.Knows tx r)
    (hfree : t.Free tx k) (hk : key r ≠ k) : (t.write tx k f hf).Knows tx r := by
  obtain ⟨⟨d, hd, howner⟩, hfind⟩ := h
  constructor
  · refine ⟨d, ?_, howner⟩
    simp only [write, Function.update_of_ne hk]
    exact hd
  · rw [view_write_self hfree, Table.find_update, hfind]
    simp [hk]

theorem Knows.write_other (hf : ∀ r, key (f r) = key r) (h : t.Knows tx r)
    (hfree : t.Free tx' k) (hne : tx ≠ tx') : (t.write tx' k f hf).Knows tx r := by
  obtain ⟨howns, hfind⟩ := h
  have hk : key r ≠ k := by
    rintro rfl
    exact hne (howns.eq_of_free hfree)
  obtain ⟨d, hd, howner⟩ := howns
  constructor
  · refine ⟨d, ?_, howner⟩
    simp only [write, Function.update_of_ne hk]
    exact hd
  · rw [view_write_other hfree hne]
    exact hfind

theorem Knows.release_other (h : t.Knows tx r) (hne : tx' ≠ tx) : (t.release tx').Knows tx r :=
  ⟨h.1.release_other hne, by rw [view_release_other hne.symm]; exact h.2⟩

theorem Knows.commit_other (h : t.Knows tx r) (hne : tx' ≠ tx) : (t.commit tx').Knows tx r := by
  refine ⟨h.1.release_other hne, ?_⟩
  have hfind := h.2
  rw [find_view] at hfind ⊢
  rw [latest_commit_other hne.symm]
  obtain ⟨r₀, hr₀, hlatest⟩ := Option.map_eq_some_iff.mp hfind
  have howns : t.Owns tx (key r₀) := by
    rw [Table.find_key hr₀]
    exact h.1
  show ((t.view tx').find (key r)).map (t.latest tx) = some r
  rw [find_view, hr₀, Option.map_some, Option.map_some, howns.latest_other hne, hlatest]

theorem insert?_eq_some (h : t.insert? r' = some t') :
    t.table.find (key r') = none ∧ t'.table.rows = t.table.rows ++ [r'] ∧
      t'.held = Function.update t.held (key r') none := by
  obtain ⟨table, htable, rfl⟩ := Option.map_eq_some_iff.mp h
  obtain ⟨hnone, hrows⟩ := Table.insert?_eq_some htable
  exact ⟨hnone, hrows, rfl⟩

theorem find_insert (h : t.insert? r' = some t') (k : κ) :
    t'.table.find k = if key r' = k then some r' else t.table.find k := by
  obtain ⟨table, htable, rfl⟩ := Option.map_eq_some_iff.mp h
  exact Table.find_insert htable k

theorem latest_insert (h : t.insert? r' = some t') (hr : r ∈ t.table.rows) :
    t'.latest tx r = t.latest tx r := by
  obtain ⟨hnone, -, hheld⟩ := insert?_eq_some h
  have hne : key r ≠ key r' := Table.find_eq_none.mp hnone r hr
  simp only [latest, hheld, Function.update_of_ne hne]

/-- A new row is in every view, beside what was there. -/
theorem rows_view_insert (h : t.insert? r' = some t') :
    (t'.view tx).rows = (t.view tx).rows ++ [r'] := by
  obtain ⟨-, hrows, hheld⟩ := insert?_eq_some h
  have hnew : t'.latest tx r' = r' := by
    simp only [latest, hheld, Function.update_self]
  rw [rows_view, rows_view, hrows, List.map_append, List.map_singleton, hnew]
  congr 1
  exact List.map_congr_left fun r hr => latest_insert h hr

theorem Knows.insert (h : t.Knows tx r) (hins : t.insert? r' = some t') : t'.Knows tx r := by
  obtain ⟨⟨d, hd, howner⟩, hfind⟩ := h
  obtain ⟨hnone, hrows, hheld⟩ := insert?_eq_some hins
  have hmem := Table.find_mem hfind
  have hkey : key r ≠ key r' := by
    obtain ⟨r₀, hr₀, hlatest⟩ := List.mem_map.mp hmem
    rw [← hlatest]
    simp only [if_true, key_latest]
    exact Table.find_eq_none.mp hnone r₀ hr₀
  constructor
  · refine ⟨d, ?_, howner⟩
    rw [hheld, Function.update_of_ne hkey]
    exact hd
  · apply Table.find_of_mem
    rw [rows_view_insert hins]
    exact List.mem_append_left _ hmem

omit [DecidableEq κ] in
theorem latest_of_not_owns (h : ¬ t.Owns tx (key r)) : t.latest tx r = r := by
  unfold latest
  split
  · rename_i d hd
    exact if_neg fun howner => h ⟨d, hd, howner⟩
  · rfl

omit [DecidableEq κ] in
/-- A transaction that holds nothing sees the table. -/
theorem view_of_not_owns (h : ∀ k, ¬ t.Owns tx k) : t.view tx = t.table := by
  have hlatest : ∀ r, t.latest tx r = r := fun r => latest_of_not_owns (h (key r))
  have hrelease : t.view tx = (t.release tx).view tx := by
    simp only [view, Table.update, Table.mk.injEq]
    apply List.map_congr_left
    intro r _
    simp only [hlatest, latest_release_self]
  rw [hrelease, view_release_self]

end Knows

end LockedTable

/-! ## What a table is worth -/

namespace Table
variable {ρ κ M : Type} {key : ρ → κ} [DecidableEq κ] [AddCommGroup M]

/-- The measure of each row, under its key. -/
noncomputable def worth (f : ρ → M) (t : Table key) : κ →₀ M :=
  (t.rows.map fun r => Finsupp.single (key r) (f r)).sum

/-- The measures of all rows together. -/
def total (f : ρ → M) (t : Table key) : M := (t.rows.map f).sum

/-- The sum of all values of a function with finite support. -/
noncomputable def sumOf : (κ →₀ M) →+ M := Finsupp.liftAddHom fun _ => AddMonoidHom.id M

omit [DecidableEq κ] in
@[simp] theorem sumOf_single (k : κ) (m : M) : sumOf (Finsupp.single k m) = m := by
  simp [sumOf]

omit [DecidableEq κ] in
theorem total_eq (f : ρ → M) (t : Table key) : t.total f = sumOf (t.worth f) := by
  unfold total worth
  rw [map_list_sum, List.map_map]
  congr 1
  apply List.map_congr_left
  intro r _
  simp [sumOf]

theorem worth_apply (f : ρ → M) (t : Table key) (k : κ) :
    t.worth f k = ((t.find k).map f).getD 0 := by
  obtain ⟨rows, nodup⟩ := t
  simp only [worth, find]
  induction rows with
  | nil => simp
  | cons r rows ih =>
    obtain ⟨hr, hrows⟩ := List.nodup_cons.mp nodup
    rw [List.map_cons, List.sum_cons, Finsupp.add_apply, ih hrows]
    by_cases hk : key r = k
    · subst hk
      have hnone : rows.find? (fun r' => decide (key r' = key r)) = none := by
        rw [List.find?_eq_none]
        intro r' hr' hsame
        apply hr
        rw [← of_decide_eq_true hsame]
        exact List.mem_map_of_mem hr'
      simp [hnone]
    · simp [hk]

theorem worth_update {f : ρ → M} {g : ρ → ρ} {hg : ∀ r, key (g r) = key r} {t : Table key}
    {r : ρ} (h : t.find (key r) = some r) :
    (t.update (fun r' => key r' = key r) g hg).worth f =
      t.worth f + Finsupp.single (key r) (f (g r) - f r) := by
  ext k
  rw [Finsupp.add_apply, worth_apply, worth_apply, find_update]
  by_cases hk : key r = k
  · subst hk
    simp [h]
  · have hsame : (t.find k).map (fun r' => if decide (key r' = key r) = true then g r' else r') =
        t.find k := by
      cases hfind : t.find k with
      | none => rfl
      | some r' =>
        have hne : key r' ≠ key r := by
          rw [find_key hfind]
          exact Ne.symm hk
        simp [hne]
    rw [hsame, Finsupp.single_eq_of_ne (Ne.symm hk), add_zero]

omit [DecidableEq κ] in
theorem worth_append {f : ρ → M} {t t' : Table key} {r : ρ} (h : t'.rows = t.rows ++ [r]) :
    t'.worth f = t.worth f + Finsupp.single (key r) (f r) := by
  simp [worth, h]

end Table

namespace LockedTable
variable {ρ κ M : Type} {key : ρ → κ} [DecidableEq κ] [AddCommGroup M]

/-- The drafts of the transaction change what the table is worth by `δ`. -/
def Changes (t : LockedTable key) (f : ρ → M) (tx : Nat) (δ : κ →₀ M) : Prop :=
  (t.view tx).worth f = t.table.worth f + δ

section Changes
variable {t t' : LockedTable key} {f : ρ → M} {tx tx' : Nat} {δ δ' : κ →₀ M} {r : ρ} {k : κ}
  {g : ρ → ρ} {hg : ∀ r, key (g r) = key r}

omit [DecidableEq κ] in
theorem changes_none (h : ∀ k, ¬ t.Owns tx k) : t.Changes f tx 0 := by
  rw [Changes, view_of_not_owns h, add_zero]

theorem Changes.write_self (h : t.Changes f tx δ) (hfree : t.Free tx (key r))
    (hfind : (t.view tx).find (key r) = some r) :
    (t.write tx (key r) g hg).Changes f tx (δ + Finsupp.single (key r) (f (g r) - f r)) := by
  have hstep : ((t.write tx (key r) g hg).view tx).worth f =
      (t.view tx).worth f + Finsupp.single (key r) (f (g r) - f r) := by
    rw [view_write_self hfree]
    exact Table.worth_update hfind
  rw [Changes, hstep, h, add_assoc]
  rfl

theorem Changes.write_other (h : t.Changes f tx' δ) (hfree : t.Free tx k) (hne : tx' ≠ tx) :
    (t.write tx k g hg).Changes f tx' δ := by
  rw [Changes, view_write_other hfree hne]
  exact h

omit [DecidableEq κ] in
theorem Changes.release_other (h : t.Changes f tx' δ) (hne : tx' ≠ tx) :
    (t.release tx).Changes f tx' δ := by
  rw [Changes, view_release_other hne]
  exact h

omit [DecidableEq κ] in
theorem changes_release : (t.release tx).Changes f tx 0 := by
  rw [Changes, view_release_self, add_zero]
  rfl

omit [DecidableEq κ] in
theorem changes_commit : (t.commit tx).Changes f tx 0 := by
  rw [Changes, view_commit_self, add_zero]
  rfl

/-- A committed draft leaves the others what they were. -/
theorem Changes.commit_other (h : t.Changes f tx' δ) (hne : tx' ≠ tx) :
    (t.commit tx).Changes f tx' δ := by
  unfold Changes at h ⊢
  ext k
  have hk := DFunLike.congr_fun h k
  rw [Finsupp.add_apply, Table.worth_apply, Table.worth_apply, find_view] at hk
  rw [Finsupp.add_apply, Table.worth_apply, Table.worth_apply, find_view, latest_commit_other hne]
  show ((((t.view tx).find k).map (t.latest tx')).map f).getD 0 =
    (((t.view tx).find k).map f).getD 0 + δ k
  rw [find_view]
  cases hfind : t.table.find k with
  | none =>
    rw [hfind] at hk
    exact hk
  | some r =>
    rw [hfind] at hk
    simp only [Option.map_some, Option.getD_some] at hk ⊢
    by_cases howns : t.Owns tx (key r)
    · -- the other transaction does not hold the row, so its difference there is 0
      have hkey : key (t.latest tx r) = key r := key_latest t tx r
      rw [howns.latest_other hne] at hk
      have hzero : δ k = 0 := by simpa using hk
      have howns' : t.Owns tx (key (t.latest tx r)) := by rwa [hkey]
      rw [howns'.latest_other hne, hzero, add_zero]
    · rw [latest_of_not_owns howns]
      exact hk

theorem Changes.insert (h : t.Changes f tx δ) (hins : t.insert? r = some t') :
    t'.Changes f tx δ := by
  have hview := Table.worth_append (f := f) (@rows_view_insert _ _ _ _ _ _ tx _ hins)
  have htable := Table.worth_append (f := f) (insert?_eq_some hins).2.1
  rw [Changes, hview, htable, h]
  abel

end Changes

/-! ## All views together -/

section Views
variable {t t' : LockedTable key} {f : ρ → M} {tx tx' : Nat} {δ : Nat → κ →₀ M} {r : ρ} {k : κ}
  {g : ρ → ρ} {hg : ∀ r, key (g r) = key r} {p : ρ → Prop}

/-- Every row, committed or in a draft, satisfies `p`. -/
structure All (t : LockedTable key) (p : ρ → Prop) : Prop where
  table : ∀ r ∈ t.table.rows, p r
  view : ∀ tx, ∀ r ∈ (t.view tx).rows, p r

omit [DecidableEq κ] in
theorem all_unlocked {table : Table key} (h : ∀ r ∈ table.rows, p r) : (unlocked table).All p := by
  refine ⟨h, ?_⟩
  intro tx
  rw [view_of_not_owns (by rintro k ⟨d, hd, -⟩; cases hd)]
  exact h

theorem All.write (h : t.All p) (hfree : t.Free tx (key r))
    (hfind : (t.view tx).find (key r) = some r) (hp : p (g r)) :
    (t.write tx (key r) g hg).All p := by
  refine ⟨h.table, ?_⟩
  intro tx' r' hr'
  by_cases hne : tx' = tx
  · subst hne
    rw [view_write_self hfree] at hr'
    obtain ⟨r₀, hr₀, rfl⟩ := (Table.mem_update hg).mp hr'
    by_cases hk : key r₀ = key r
    · rw [Table.eq_of_key_eq hr₀ (Table.find_mem hfind) hk]
      simpa using hp
    · simpa [hk] using h.view tx' r₀ hr₀
  · rw [view_write_other hfree hne] at hr'
    exact h.view tx' r' hr'

omit [DecidableEq κ] in
theorem All.release (h : t.All p) : (t.release tx).All p := by
  refine ⟨h.table, ?_⟩
  intro tx'
  by_cases hne : tx' = tx
  · subst hne
    rw [view_release_self]
    exact h.table
  · rw [view_release_other hne]
    exact h.view tx'

omit [DecidableEq κ] in
theorem All.commit (h : t.All p) : (t.commit tx).All p := by
  refine ⟨h.view tx, ?_⟩
  intro tx' r hr
  by_cases hne : tx' = tx
  · subst hne
    rw [view_commit_self] at hr
    exact h.view tx' r hr
  · obtain ⟨r₁, hr₁, rfl⟩ := List.mem_map.mp hr
    simp only [if_true]
    rw [latest_commit_other hne]
    obtain ⟨r₀, hr₀, rfl⟩ := List.mem_map.mp hr₁
    simp only [if_true]
    by_cases howns : t.Owns tx (key r₀)
    · have howns' : t.Owns tx (key (t.latest tx r₀)) := (key_latest t tx r₀).symm ▸ howns
      rw [howns'.latest_other hne]
      exact h.view tx _ hr₁
    · rw [latest_of_not_owns howns]
      exact h.view tx' _ (List.mem_map.mpr ⟨r₀, hr₀, if_pos rfl⟩)

theorem All.insert (h : t.All p) (hins : t.insert? r = some t') (hp : p r) : t'.All p := by
  constructor
  · intro r' hr'
    rw [(insert?_eq_some hins).2.1] at hr'
    rcases List.mem_append.mp hr' with hr' | hr'
    · exact h.table r' hr'
    · rwa [List.mem_singleton.mp hr']
  · intro tx r' hr'
    rw [rows_view_insert hins] at hr'
    rcases List.mem_append.mp hr' with hr' | hr'
    · exact h.view tx r' hr'
    · rwa [List.mem_singleton.mp hr']

variable {next : Nat} {δ' : Nat → κ →₀ M}

/-- Transactions from `next` on hold nothing, the drafts of each change what
the table is worth by `δ`, and every row satisfies `p`. -/
structure Tracks (t : LockedTable key) (f : ρ → M) (p : ρ → Prop) (next : Nat)
    (δ : Nat → κ →₀ M) : Prop where
  fresh : ∀ tx, next ≤ tx → ∀ k, ¬ t.Owns tx k
  changes : ∀ tx, t.Changes f tx (δ tx)
  all : t.All p

omit [DecidableEq κ] in
theorem tracks_unlocked {table : Table key} (h : ∀ r ∈ table.rows, p r) (hδ : ∀ tx, δ tx = 0) :
    (unlocked table).Tracks f p next δ := by
  have hnone : ∀ tx k, ¬ (unlocked table).Owns tx k := by
    rintro tx k ⟨d, hd, -⟩
    cases hd
  refine ⟨fun tx _ => hnone tx, ?_, all_unlocked h⟩
  intro tx
  rw [hδ]
  exact changes_none (hnone tx)

omit [DecidableEq κ] in
theorem Tracks.mono {next' : Nat} (h : t.Tracks f p next δ) (hnext : next ≤ next') :
    t.Tracks f p next' δ :=
  ⟨fun tx htx => h.fresh tx (hnext.trans htx), h.changes, h.all⟩

omit [DecidableEq κ] in
theorem Tracks.congr (h : t.Tracks f p next δ) (hδ : ∀ tx, δ' tx = δ tx) :
    t.Tracks f p next δ' := by
  refine ⟨h.fresh, ?_, h.all⟩
  intro tx
  rw [hδ]
  exact h.changes tx

theorem Tracks.write (hg : ∀ r, key (g r) = key r) (h : t.Tracks f p next δ) (hopen : tx < next) (hfree : t.Free tx (key r))
    (hfind : (t.view tx).find (key r) = some r) (hp : p (g r))
    (hself : δ' tx = δ tx + Finsupp.single (key r) (f (g r) - f r))
    (hothers : ∀ tx', tx' ≠ tx → δ' tx' = δ tx') :
    (t.write tx (key r) g hg).Tracks f p next δ' := by
  refine ⟨?_, ?_, h.all.write hfree hfind hp⟩
  · rintro tx' hnew k ⟨d, hd, howner⟩
    by_cases hk : k = key r
    · subst hk
      simp only [LockedTable.write, Function.update_self, Option.some.injEq] at hd
      subst hd
      have hsame : tx = tx' := howner
      omega
    · simp only [LockedTable.write, Function.update_of_ne hk] at hd
      exact h.fresh tx' hnew k ⟨d, hd, howner⟩
  · intro tx'
    by_cases hne : tx' = tx
    · subst hne
      rw [hself]
      exact (h.changes tx').write_self hfree hfind
    · rw [hothers tx' hne]
      exact (h.changes tx').write_other hfree hne

omit [DecidableEq κ] in
theorem Tracks.release (h : t.Tracks f p next δ) (hself : δ' tx = 0)
    (hothers : ∀ tx', tx' ≠ tx → δ' tx' = δ tx') : (t.release tx).Tracks f p next δ' := by
  refine ⟨?_, ?_, h.all.release⟩
  · rintro tx' hnew k ⟨d, hd, howner⟩
    exact h.fresh tx' hnew k ⟨d, (Option.filter_eq_some_iff.mp hd).1, howner⟩
  · intro tx'
    by_cases hne : tx' = tx
    · subst hne
      rw [hself]
      exact changes_release
    · rw [hothers tx' hne]
      exact (h.changes tx').release_other hne

theorem Tracks.commit (h : t.Tracks f p next δ) (hself : δ' tx = 0)
    (hothers : ∀ tx', tx' ≠ tx → δ' tx' = δ tx') : (t.commit tx).Tracks f p next δ' := by
  refine ⟨?_, ?_, h.all.commit⟩
  · rintro tx' hnew k ⟨d, hd, howner⟩
    exact h.fresh tx' hnew k ⟨d, (Option.filter_eq_some_iff.mp hd).1, howner⟩
  · intro tx'
    by_cases hne : tx' = tx
    · subst hne
      rw [hself]
      exact changes_commit
    · rw [hothers tx' hne]
      exact (h.changes tx').commit_other hne

theorem Tracks.insert (h : t.Tracks f p next δ) (hins : t.insert? r = some t') (hp : p r) :
    t'.Tracks f p next δ := by
  refine ⟨?_, fun tx => (h.changes tx).insert hins, h.all.insert hins hp⟩
  rintro tx hnew k ⟨d, hd, howner⟩
  rw [(insert?_eq_some hins).2.2] at hd
  by_cases hk : k = key r
  · subst hk
    rw [Function.update_self] at hd
    cases hd
  · rw [Function.update_of_ne hk] at hd
    exact h.fresh tx hnew k ⟨d, hd, howner⟩

end Views

end LockedTable
end Store
