import ProviderPlatform.Store.Table

/-! # Updates in batches

An update that takes the rows out of a condition, made for a bounded number of
them at a time. Whichever rows a batch picks, as long as it is full or takes
them all: the condition holds of that many rows less, and updating the rest
comes to the same as updating all at once. -/
namespace Store.Table
variable {ρ κ τ : Type} {key : ρ → κ} [DecidableEq κ] {t : Table key} {p : ρ → Bool} {f g : ρ → ρ}
  {limit : Nat} {ks : List κ}

/-- The keys of at most `limit` rows that satisfy a condition: of all if they are
fewer. -/
structure Batch (t : Table key) (p : ρ → Bool) (limit : Nat) (ks : List κ) : Prop where
  nodup : ks.Nodup
  among : ∀ k ∈ ks, k ∈ (t.select p).map key
  length : ks.length = min limit (t.select p).length

omit [DecidableEq κ] in
theorem batch_take {rows : List ρ} (h : rows.Perm (t.select p)) (limit : Nat) :
    t.Batch p limit ((rows.take limit).map key) where
  nodup := by
    have hnodup : (rows.map key).Nodup := (h.map key).nodup_iff.mpr (t.select_nodup p)
    exact hnodup.sublist ((List.take_sublist limit rows).map key)
  among k hk := by
    obtain ⟨r, hr, hkey⟩ := List.mem_map.mp hk
    exact List.mem_map.mpr ⟨r, h.mem_iff.mp (List.mem_of_mem_take hr), hkey⟩
  length := by rw [List.length_map, List.length_take, h.length_eq]

theorem Batch.satisfies (h : t.Batch p limit ks) {r : ρ} (hr : r ∈ t.rows)
    (hk : ks.contains (key r) = true) : p r = true := by
  obtain ⟨r', hr', hkey⟩ := List.mem_map.mp (h.among _ (by simpa using hk))
  obtain ⟨hr', hp⟩ := mem_select.mp hr'
  exact eq_of_key_eq hr' hr hkey ▸ hp

/-- The rows of the batch. -/
theorem Batch.select_perm (h : t.Batch p limit ks) :
    ((t.select fun r => ks.contains (key r)).map key).Perm ks := by
  refine (List.perm_ext_iff_of_nodup (t.select_nodup _) h.nodup).mpr fun k => ?_
  constructor
  · intro hk
    obtain ⟨r, hr, hkey⟩ := List.mem_map.mp hk
    have hin := (mem_select.mp hr).2
    rw [hkey] at hin
    simpa using hin
  · intro hk
    obtain ⟨r, hr, hkey⟩ := List.mem_map.mp (h.among k hk)
    refine List.mem_map.mpr ⟨r, mem_select.mpr ⟨(mem_select.mp hr).1, ?_⟩, hkey⟩
    rw [hkey]
    simpa using hk

theorem Batch.select_length (h : t.Batch p limit ks) :
    (t.select fun r => ks.contains (key r)).length = min limit (t.select p).length := by
  have hlength := h.select_perm.length_eq
  rwa [List.length_map, h.length] at hlength

/-- What satisfies the condition after the update is what the batch left out. -/
theorem Batch.select_update (h : t.Batch p limit ks) (hf : ∀ r, key (f r) = key r)
    (hout : ∀ r, p (f r) = false) :
    (t.select fun r => ks.contains (key r)).length +
      ((t.update (fun r => ks.contains (key r)) f hf).select p).length = (t.select p).length := by
  have hin : t.select (fun r => ks.contains (key r)) =
      (t.select p).filter fun r => ks.contains (key r) := by
    unfold select
    rw [List.filter_filter]
    refine List.filter_congr fun r hr => ?_
    cases hk : ks.contains (key r) with
    | true => rw [h.satisfies hr hk]; rfl
    | false => rfl
  have hrest : ((t.update (fun r => ks.contains (key r)) f hf).select p).length =
      ((t.select p).filter fun r => !ks.contains (key r)).length := by
    unfold select update
    rw [List.filter_map, List.length_map, List.filter_filter]
    refine congrArg List.length (List.filter_congr fun r _ => ?_)
    by_cases hk : key r ∈ ks
    · simp [hk, hout]
    · simp [hk]
  rw [hin, hrest, ← List.length_append]
  exact (List.filter_append_perm _ _).length_eq

/-- Updating the rest as well comes to the same as updating all at once, by what
cannot tell the two updates apart. -/
theorem Batch.update_rest (h : t.Batch p limit ks) (hf : ∀ r, key (f r) = key r)
    (hout : ∀ r, p (f r) = false) (u : ρ → τ) (hu : ∀ r, u (f r) = u (g r)) :
    ((t.update (fun r => ks.contains (key r)) f hf).rows.map fun r => u (if p r then g r else r)) =
      t.rows.map fun r => u (if p r then g r else r) := by
  unfold update
  rw [List.map_map]
  refine List.map_congr_left fun r hr => ?_
  by_cases hk : key r ∈ ks
  · have hp := h.satisfies hr (by simpa using hk)
    simp [hk, hp, hout, hu]
  · simp [hk]

omit [DecidableEq κ] in
/-- Where no row satisfies the condition. -/
theorem map_of_select_nil (h : t.select p = []) (u : ρ → τ) :
    (t.rows.map fun r => u (if p r then g r else r)) = t.rows.map u := by
  refine List.map_congr_left fun r hr => ?_
  have hp := List.filter_eq_nil_iff.mp h r hr
  rw [if_neg hp]

end Store.Table
