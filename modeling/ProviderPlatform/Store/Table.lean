import Mathlib.Data.List.Nodup
import Mathlib.Data.List.Perm.Basic

/-! # Tables with a primary key

A table is a list of rows whose keys are distinct; the list order is the
order in which a scan returns them. Inserting under a key that is taken
fails, updates keep the key, and nothing removes a row. -/
namespace Store

/-- Rows with distinct primary keys. -/
structure Table {ρ κ : Type} (key : ρ → κ) where
  rows : List ρ
  nodup : (rows.map key).Nodup

namespace Table
variable {ρ κ : Type} {key : ρ → κ} [DecidableEq κ]

omit [DecidableEq κ] in
theorem eq_of_rows {t t' : Table key} (h : t.rows = t'.rows) : t = t' := by
  cases t
  cases t'
  cases h
  rfl

def empty : Table key := ⟨[], List.nodup_nil⟩

/-- The row with the key. -/
def find (t : Table key) (k : κ) : Option ρ := t.rows.find? fun r => key r = k

/-- Insert a row, unless its key is taken. -/
def insert? (t : Table key) (r : ρ) : Option (Table key) :=
  if h : key r ∈ t.rows.map key then none
  else some ⟨t.rows ++ [r], by
    rw [List.map_append, List.map_singleton]
    exact List.nodup_append.mpr ⟨t.nodup, List.nodup_singleton _, fun a ha b hb => by
      rw [List.mem_singleton.mp hb]; rintro rfl; exact h ha⟩⟩

/-- Rewrite the rows that satisfy a condition, leaving their keys. -/
def update (t : Table key) (p : ρ → Bool) (f : ρ → ρ) (hf : ∀ r, key (f r) = key r) : Table key :=
  ⟨t.rows.map fun r => if p r then f r else r, by
    rw [List.map_map]
    have : (key ∘ fun r => if p r then f r else r) = key := by
      funext r; simp only [Function.comp]; split
      · exact hf r
      · rfl
    rw [this]
    exact t.nodup⟩

/-- Write a row: in place of the row with its key, or at the end. -/
def upsert (t : Table key) (r : ρ) : Table key :=
  if h : key r ∈ t.rows.map key then
    ⟨t.rows.map fun r' => if key r' = key r then r else r', by
      rw [List.map_map]
      have : (key ∘ fun r' => if key r' = key r then r else r') = key := by
        funext r'
        simp only [Function.comp]
        split
        · exact Eq.symm ‹_›
        · rfl
      rw [this]
      exact t.nodup⟩
  else ⟨t.rows ++ [r], by
    rw [List.map_append, List.map_singleton]
    exact List.nodup_append.mpr ⟨t.nodup, List.nodup_singleton _, fun a ha b hb => by
      rw [List.mem_singleton.mp hb]; rintro rfl; exact h ha⟩⟩

/-- The same rows in another order, if they are the same rows. -/
def reorder [DecidableEq ρ] (t : Table key) (rows : List ρ) : Table key :=
  if h : rows.Perm t.rows then ⟨rows, (h.map key).nodup_iff.mpr t.nodup⟩ else t

/-- The rows that satisfy a condition. -/
def select (t : Table key) (p : ρ → Bool) : List ρ := t.rows.filter p

/-- Only the rows that satisfy a condition. -/
def filter (t : Table key) (p : ρ → Bool) : Table key :=
  ⟨t.rows.filter p, t.nodup.sublist (List.filter_sublist.map key)⟩

theorem find_eq_some {t : Table key} {k : κ} {r : ρ} :
    t.find k = some r ↔ r ∈ t.rows ∧ key r = k := by
  constructor
  · intro h
    exact ⟨List.mem_of_find?_eq_some h, by simpa using List.find?_some h⟩
  · rintro ⟨hm, rfl⟩
    obtain ⟨rows, hn⟩ := t
    simp only [find] at hm ⊢
    induction rows with
    | nil => simp at hm
    | cons x rows ih =>
      obtain ⟨hx, hn⟩ := List.nodup_cons.mp hn
      rcases List.mem_cons.mp hm with rfl | hm
      · simp
      · have hne : key x ≠ key r := fun he => hx (he ▸ List.mem_map_of_mem hm)
        rw [List.find?_cons_of_neg (by simpa using hne)]
        exact ih hn hm

theorem find_key {t : Table key} {k : κ} {r : ρ} (h : t.find k = some r) : key r = k :=
  (find_eq_some.mp h).2

theorem find_mem {t : Table key} {k : κ} {r : ρ} (h : t.find k = some r) : r ∈ t.rows :=
  (find_eq_some.mp h).1

theorem find_of_mem {t : Table key} {r : ρ} (h : r ∈ t.rows) : t.find (key r) = some r :=
  find_eq_some.mpr ⟨h, rfl⟩

theorem find_eq_none {t : Table key} {k : κ} : t.find k = none ↔ ∀ r ∈ t.rows, key r ≠ k := by
  simp [find]

@[simp] theorem find_empty (k : κ) : (empty : Table key).find k = none := rfl

/-- A scan sees the row of a key at most once. -/
theorem eq_of_key_eq {t : Table key} {r r' : ρ} (h : r ∈ t.rows) (h' : r' ∈ t.rows)
    (hk : key r = key r') : r = r' := by
  have := find_of_mem h
  rw [hk, find_of_mem h'] at this
  exact (Option.some.inj this).symm

/-- Tables with the same rows under the same keys differ in the order of a scan. -/
theorem rows_perm {t t' : Table key} (h : ∀ k, t.find k = t'.find k) : t.rows.Perm t'.rows := by
  apply (List.perm_ext_iff_of_nodup (List.Nodup.of_map _ t.nodup) (List.Nodup.of_map _ t'.nodup)).mpr
  intro r
  constructor
  · intro hr
    exact find_mem ((h (key r)).symm.trans (find_of_mem hr))
  · intro hr
    exact find_mem ((h (key r)).trans (find_of_mem hr))

theorem insert?_eq_some {t t' : Table key} {r : ρ} (h : t.insert? r = some t') :
    t.find (key r) = none ∧ t'.rows = t.rows ++ [r] := by
  unfold insert? at h
  split at h
  · cases h
  · rename_i hk
    cases Option.some.inj h
    refine ⟨find_eq_none.mpr fun r' hr' he => hk ?_, rfl⟩
    exact he ▸ List.mem_map_of_mem hr'

theorem insert?_eq_none {t : Table key} {r : ρ} (h : t.insert? r = none) :
    ∃ r', t.find (key r) = some r' := by
  unfold insert? at h
  split at h
  · rename_i hk
    obtain ⟨r', hr', he⟩ := List.mem_map.mp hk
    exact ⟨r', he ▸ find_of_mem hr'⟩
  · cases h

theorem find_insert {t t' : Table key} {r : ρ} (h : t.insert? r = some t') (k : κ) :
    t'.find k = if key r = k then some r else t.find k := by
  obtain ⟨hnone, hrows⟩ := insert?_eq_some h
  unfold find
  rw [hrows, List.find?_append]
  by_cases hk : key r = k
  · have hnone : t.rows.find? (fun r' => decide (key r' = k)) = none := hk ▸ hnone
    rw [hnone]
    simp [hk]
  · simp [hk]

theorem find_upsert (t : Table key) (r : ρ) (k : κ) :
    (t.upsert r).find k = if key r = k then some r else t.find k := by
  have hmem : r ∈ (t.upsert r).rows := by
    unfold upsert
    split
    · rename_i h
      obtain ⟨r', hr', he⟩ := List.mem_map.mp h
      exact List.mem_map.mpr ⟨r', hr', if_pos he⟩
    · exact List.mem_append_right _ List.mem_cons_self
  by_cases hk : key r = k
  · rw [if_pos hk, ← hk]
    exact find_of_mem hmem
  · rw [if_neg hk]
    ext r'
    rw [find_eq_some, find_eq_some]
    refine and_congr_left fun hk' => ?_
    have hne : key r' ≠ key r := fun he => hk (he ▸ hk')
    unfold upsert
    split
    · constructor
      · intro hr'
        obtain ⟨r₀, hr₀, he⟩ := List.mem_map.mp hr'
        split at he
        · exact absurd (congrArg key he).symm hne
        · exact he ▸ hr₀
      · exact fun hr' => List.mem_map.mpr ⟨r', hr', if_neg hne⟩
    · constructor
      · intro hr'
        rcases List.mem_append.mp hr' with hr' | hr'
        · exact hr'
        · exact absurd (congrArg key (List.mem_singleton.mp hr')) hne
      · exact fun hr' => List.mem_append_left _ hr'

section Update
variable {p : ρ → Bool} {f : ρ → ρ} (hf : ∀ r, key (f r) = key r)

omit [DecidableEq κ] in
theorem mem_update {t : Table key} {r : ρ} :
    r ∈ (t.update p f hf).rows ↔ ∃ r₀ ∈ t.rows, (if p r₀ then f r₀ else r₀) = r := by
  simp [update]

theorem find_update (t : Table key) (k : κ) :
    (t.update p f hf).find k = (t.find k).map fun r => if p r then f r else r := by
  cases h : t.find k with
  | none =>
    rw [Option.map_none, find_eq_none]
    intro r hr
    obtain ⟨r₀, hr₀, rfl⟩ := (mem_update hf).mp hr
    have := find_eq_none.mp h r₀ hr₀
    split
    · rwa [hf]
    · exact this
  | some r =>
    rw [Option.map_some, find_eq_some]
    refine ⟨(mem_update hf).mpr ⟨r, find_mem h, rfl⟩, ?_⟩
    split
    · rw [hf, find_key h]
    · exact find_key h

end Update

theorem mem_upsert {t : Table key} {r r' : ρ} (h : r' ∈ (t.upsert r).rows) :
    r' = r ∨ r' ∈ t.rows := by
  have hfind := find_of_mem h
  rw [find_upsert] at hfind
  split at hfind
  · exact .inl (Option.some.inj hfind).symm
  · exact .inr (find_mem hfind)

theorem mem_upsert_of_ne {t : Table key} {r r' : ρ} (h : r' ∈ t.rows) (hne : key r ≠ key r') :
    r' ∈ (t.upsert r).rows := by
  apply find_mem (k := key r')
  rw [find_upsert, if_neg hne]
  exact find_of_mem h

theorem length_upsert_le (t : Table key) (r : ρ) :
    (t.upsert r).rows.length ≤ t.rows.length + 1 := by
  unfold upsert
  split
  · simp
  · simp

omit [DecidableEq κ] in
theorem reorder_perm [DecidableEq ρ] (t : Table key) (rows : List ρ) :
    (t.reorder rows).rows.Perm t.rows := by
  unfold reorder
  split
  · assumption
  · exact List.Perm.refl _

theorem find_reorder [DecidableEq ρ] (t : Table key) (rows : List ρ) (k : κ) :
    (t.reorder rows).find k = t.find k := by
  ext r
  rw [find_eq_some, find_eq_some, (reorder_perm t rows).mem_iff]

omit [DecidableEq κ] in
theorem mem_select {t : Table key} {p : ρ → Bool} {r : ρ} :
    r ∈ t.select p ↔ r ∈ t.rows ∧ p r = true := List.mem_filter

omit [DecidableEq κ] in
theorem select_filter (t : Table key) (p q : ρ → Bool) (h : ∀ r, p r = true → q r = true) :
    (t.filter q).select p = t.select p := by
  unfold select filter
  rw [List.filter_filter]
  apply List.filter_congr
  intro r _
  cases hp : p r with
  | true => simp [h r hp]
  | false => simp

omit [DecidableEq κ] in
theorem select_nodup (t : Table key) (p : ρ → Bool) : ((t.select p).map key).Nodup :=
  t.nodup.sublist (List.filter_sublist.map key)

end Table
end Store
