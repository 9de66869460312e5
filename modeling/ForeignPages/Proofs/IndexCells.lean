import ForeignPages.Index

namespace ForeignPages.Index

variable {κ ν : Type}

/-- Two indices with the same cells, in whatever order. -/
def Reordered (t u : Index κ ν) : Prop := t.cells.Perm u.cells

theorem Reordered.values_perm {t u : Index κ ν} (same : t.Reordered u) : t.values.Perm u.values :=
  same.map Prod.snd

variable [DecidableEq κ]

/-- No key occurs twice, so a look-up finds a value exactly when its cell is there. -/
theorem find?_eq_some_iff {t : Index κ ν} {k : κ} {v : ν} : t.find? k = some v ↔ (k, v) ∈ t.cells := by
  obtain ⟨cells, nodup⟩ := t
  unfold find?
  induction cells with
  | nil => simp
  | cons cell rest ih =>
    obtain ⟨key, value⟩ := cell
    obtain ⟨new, nodup⟩ := List.nodup_cons.mp nodup
    rw [lookup_cons_ite, List.mem_cons]
    by_cases same : k = key
    · subst same
      have other : (k, v) ∉ rest := fun member => new (List.mem_map.mpr ⟨_, member, rfl⟩)
      simp [other, eq_comm]
    · simpa [same] using ih nodup

theorem mem_values {t : Index κ ν} {v : ν} : v ∈ t.values ↔ ∃ k, t.find? k = some v := by
  simp only [values, List.mem_map, find?_eq_some_iff, Prod.exists, exists_eq_right]

theorem mem_keys {t : Index κ ν} {k : κ} : k ∈ t.keys ↔ ∃ v, t.find? k = some v := by
  simp only [keys, List.mem_map, find?_eq_some_iff, Prod.exists, exists_and_right, exists_eq_right]

theorem erase_of_missing {t : Index κ ν} {k : κ} (missing : t.find? k = none) : t.erase k = t := by
  simp [erase, contains, missing]

/-- With a key its value goes, and no other. -/
theorem values_perm_erase {t : Index κ ν} {k : κ} {v : ν} (found : t.find? k = some v) :
    t.values.Perm (v :: (t.erase k).values) := by
  have member := find?_eq_some_iff.mp found
  unfold values
  rw [cells_erase]
  obtain ⟨cells, nodup⟩ := t
  change (k, v) ∈ cells at member
  change (cells.map Prod.snd).Perm (v :: (cells.filter (·.1 ≠ k)).map Prod.snd)
  induction cells with
  | nil => simp at member
  | cons cell rest ih =>
    obtain ⟨new, nodup⟩ := List.nodup_cons.mp nodup
    by_cases same : cell.1 = k
    · have untouched : rest.filter (·.1 ≠ k) = rest := by
        refine List.filter_eq_self.mpr fun other inside => decide_eq_true fun twice => new ?_
        rw [same, ← twice]
        exact List.mem_map_of_mem inside
      have value : cell.2 = v := by
        rcases List.mem_cons.mp member with rfl | inside
        · rfl
        · exact absurd (List.mem_map_of_mem inside) (same ▸ new)
      rw [List.filter_cons_of_neg (by simpa using same), untouched, List.map_cons, value]
    · have inside : (k, v) ∈ rest := by
        rcases List.mem_cons.mp member with rfl | inside
        · exact absurd rfl same
        · exact inside
      rw [List.filter_cons_of_pos (by simpa using same)]
      exact ((ih nodup (find?_eq_some_iff.mpr inside) inside).cons cell.2).trans (.swap ..)

theorem values_insert (t : Index κ ν) (k : κ) (v : ν) :
    (t.insert k v).values = v :: (t.erase k).values := rfl

/-- A change of a value cannot be told from what it keeps. -/
theorem map_values_change {α : Type} {t : Index κ ν} {k : κ} {f : ν → ν} (g : ν → α)
    (keeps : ∀ v, t.find? k = some v → g (f v) = g v) : (t.change k f).values.map g = t.values.map g := by
  unfold values change
  rw [List.map_map, List.map_map, List.map_map]
  refine List.map_congr_left fun cell member => ?_
  by_cases same : cell.1 = k
  · simp only [Function.comp_apply, changeCell, if_pos same]
    exact keeps cell.2 (same ▸ find?_eq_some_iff.mpr member)
  · simp only [Function.comp_apply, changeCell, if_neg same]

theorem Reordered.find?_eq {t u : Index κ ν} (same : t.Reordered u) (k : κ) : u.find? k = t.find? k := by
  refine Option.ext fun v => ?_
  rw [find?_eq_some_iff, find?_eq_some_iff, same.mem_iff]

end ForeignPages.Index
