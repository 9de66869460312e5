namespace ForeignPages

/-- A finite index: a list of cells in which no key occurs twice. The order of the cells carries no
meaning; what an index says is what its look-ups answer. -/
structure Index (κ ν : Type) where
  cells : List (κ × ν)
  nodup : (cells.map Prod.fst).Nodup

namespace Index

variable {κ ν : Type} [DecidableEq κ]

def empty : Index κ ν := ⟨[], List.nodup_nil⟩

def size (t : Index κ ν) : Nat := t.cells.length

def keys (t : Index κ ν) : List κ := t.cells.map Prod.fst

def values (t : Index κ ν) : List ν := t.cells.map Prod.snd

/-- The value under a key. -/
def find? (t : Index κ ν) (k : κ) : Option ν := t.cells.lookup k

def contains (t : Index κ ν) (k : κ) : Bool := (t.find? k).isSome

/-- The index without a key. -/
def erase (t : Index κ ν) (k : κ) : Index κ ν :=
  if t.contains k then
    ⟨t.cells.filter (·.1 ≠ k), t.nodup.sublist ((List.filter_sublist).map _)⟩
  else t

/-- Erasing a key keeps the cells of all others, in their order. -/
theorem cells_erase (t : Index κ ν) (k : κ) : (t.erase k).cells = t.cells.filter (·.1 ≠ k) := by
  unfold erase
  split
  · rfl
  · next missing =>
    have unknown : ∀ cell ∈ t.cells, (k != cell.1) = true :=
      List.lookup_eq_none_iff.mp (Option.not_isSome_iff_eq_none.mp missing)
    refine (List.filter_eq_self.mpr fun cell member => ?_).symm
    have other := bne_iff_ne.mp (unknown cell member)
    exact decide_eq_true (Ne.symm other)

theorem notMem_erase (t : Index κ ν) (k : κ) : k ∉ (t.erase k).cells.map Prod.fst := by
  simp [cells_erase]

/-- The index with a new value under a key, which replaces an old one. -/
def insert (t : Index κ ν) (k : κ) (v : ν) : Index κ ν :=
  ⟨(k, v) :: (t.erase k).cells, List.nodup_cons.mpr ⟨t.notMem_erase k, (t.erase k).nodup⟩⟩

/-- A cell whose value is changed if its key is the given one. -/
def changeCell (k : κ) (f : ν → ν) (cell : κ × ν) : κ × ν :=
  if cell.1 = k then (cell.1, f cell.2) else cell

theorem changeCell_fst (k : κ) (f : ν → ν) (cell : κ × ν) : (changeCell k f cell).1 = cell.1 := by
  unfold changeCell
  split <;> rfl

/-- The index with the value under a key changed, if there is one. -/
def change (t : Index κ ν) (k : κ) (f : ν → ν) : Index κ ν :=
  ⟨t.cells.map (changeCell k f), by
    have keys : (t.cells.map (changeCell k f)).map Prod.fst = t.cells.map Prod.fst := by
      rw [List.map_map]
      exact List.map_congr_left fun cell _ => changeCell_fst k f cell
    rw [keys]
    exact t.nodup⟩

theorem lookup_cons_ite (k j : κ) (v : ν) (rest : List (κ × ν)) :
    ((k, v) :: rest).lookup j = if j = k then some v else rest.lookup j := by
  by_cases same : j = k
  · subst same
    simp
  · rw [List.lookup_cons, if_neg same, beq_false_of_ne same]

theorem lookup_filter_ne (cells : List (κ × ν)) (k j : κ) :
    (cells.filter (·.1 ≠ k)).lookup j = if j = k then none else cells.lookup j := by
  induction cells with
  | nil => simp
  | cons cell rest ih =>
    obtain ⟨key, value⟩ := cell
    by_cases same : key = k
    · subst same
      rw [List.filter_cons_of_neg (by simp), ih, lookup_cons_ite]
      split <;> rfl
    · rw [List.filter_cons_of_pos (by simpa using same), lookup_cons_ite, lookup_cons_ite, ih]
      grind

@[simp] theorem find?_erase (t : Index κ ν) (k j : κ) :
    (t.erase k).find? j = if j = k then none else t.find? j := by
  rw [find?, cells_erase]
  exact lookup_filter_ne t.cells k j

@[simp] theorem find?_insert (t : Index κ ν) (k j : κ) (v : ν) :
    (t.insert k v).find? j = if j = k then some v else t.find? j := by
  rw [find?, insert, lookup_cons_ite]
  split
  · rfl
  · next other => exact (t.find?_erase k j).trans (if_neg other)

theorem lookup_map_changeCell (cells : List (κ × ν)) (k j : κ) (f : ν → ν) :
    (cells.map (changeCell k f)).lookup j =
      if j = k then (cells.lookup j).map f else cells.lookup j := by
  induction cells with
  | nil => simp
  | cons cell rest ih =>
    obtain ⟨key, value⟩ := cell
    rw [List.map_cons, changeCell, lookup_cons_ite, lookup_cons_ite, ih]
    grind

@[simp] theorem find?_change (t : Index κ ν) (k j : κ) (f : ν → ν) :
    (t.change k f).find? j = if j = k then (t.find? j).map f else t.find? j :=
  lookup_map_changeCell t.cells k j f

@[simp] theorem size_change (t : Index κ ν) (k : κ) (f : ν → ν) : (t.change k f).size = t.size :=
  List.length_map _

end Index

end ForeignPages
