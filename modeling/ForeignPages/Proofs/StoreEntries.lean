import ForeignPages.Store
import ForeignPages.Proofs.IndexCells

namespace ForeignPages

variable {Page : Type}

theorem toNat_sub_one {n : UInt32} (positive : 0 < n.toNat) : (n - 1).toNat = n.toNat - 1 :=
  UInt32.toNat_sub_of_le n 1 (UInt32.le_iff_toNat_le.mpr positive)

theorem Entry.references?_eq_zero {e : Entry Page} :
    e.references? = some 0 ↔ e.refs = 0 ∧ e.guards = 0 := by
  rw [Entry.references?, add32?_eq_some, ← UInt32.toNat_inj, ← UInt32.toNat_inj]
  simp only [UInt32.toNat_zero]
  omega

/-- A reference is taken by one of the two counters, and nothing else changes. -/
theorem Entry.pin?_handle {e pinned : Entry Page} (room : e.pin? .handle = some pinned) :
    ∃ refs : UInt32, refs.toNat = e.refs.toNat + 1 ∧ pinned = { e with refs } := by
  obtain ⟨refs, sum, rfl⟩ := Option.map_eq_some_iff.mp room
  exact ⟨refs, add32?_eq_some.mp sum, rfl⟩

theorem Entry.pin?_guard {e pinned : Entry Page} (room : e.pin? .guard = some pinned) :
    ∃ guards : UInt32, guards.toNat = e.guards.toNat + 1 ∧ pinned = { e with guards } := by
  obtain ⟨guards, sum, rfl⟩ := Option.map_eq_some_iff.mp room
  exact ⟨guards, add32?_eq_some.mp sum, rfl⟩

theorem Entry.pin?_keeps {e pinned : Entry Page} {holder : Holder} (room : e.pin? holder = some pinned) :
    pinned.gfn = e.gfn ∧ pinned.handle = e.handle ∧ pinned.page = e.page ∧ pinned.lastUse = e.lastUse := by
  cases holder with
  | handle => obtain ⟨_, _, rfl⟩ := Entry.pin?_handle room; exact ⟨rfl, rfl, rfl, rfl⟩
  | guard => obtain ⟨_, _, rfl⟩ := Entry.pin?_guard room; exact ⟨rfl, rfl, rfl, rfl⟩

namespace Store

theorem mem_entries {s : Store Page} {e : Entry Page} : e ∈ s.entries ↔ ∃ gfn, s.find? gfn = some e :=
  Index.mem_values

theorem remove_of_missing {s : Store Page} {gfn : Gfn} (missing : s.find? gfn = none) :
    s.remove gfn = (none, s) := by
  have absent : s.byGfn.find? gfn = none := missing
  simp only [remove, absent]

theorem remove_of_found {s : Store Page} {gfn : Gfn} {e : Entry Page} (found : s.find? gfn = some e) :
    s.remove gfn = (some e, ⟨s.byGfn.erase gfn, s.byHandle.erase e.handle⟩) := by
  have present : s.byGfn.find? gfn = some e := found
  simp only [remove, present]

/-- Removing a page forgets its handle and no other. -/
theorem gfnOf?_remove {s : Store Page} {gfn : Gfn} {e : Entry Page} (found : s.find? gfn = some e)
    (h : Handle) : (s.remove gfn).2.gfnOf? h = if h = e.handle then none else s.gfnOf? h := by
  rw [remove_of_found found]
  exact s.byHandle.find?_erase e.handle h

theorem entries_perm_remove (s : Store Page) (gfn : Gfn) :
    s.entries.Perm ((s.remove gfn).1.toList ++ (s.remove gfn).2.entries) := by
  cases found : s.find? gfn with
  | none => rw [remove_of_missing found]; exact .refl _
  | some e => rw [remove_of_found found]; exact Index.values_perm_erase found

/-- Removals give back every page that they take out of the store, and no other. -/
theorem entries_perm_removeAll (s : Store Page) (gfns : List Gfn) :
    s.entries.Perm ((s.removeAll gfns).1 ++ (s.removeAll gfns).2.entries) := by
  induction gfns generalizing s with
  | nil => exact .refl _
  | cons gfn rest ih =>
    have first := s.entries_perm_remove gfn
    have others := ih (s.remove gfn).2
    simp only [removeAll, List.append_assoc]
    exact first.trans (others.append_left _)

theorem find?_removeAll (s : Store Page) (gfns : List Gfn) (other : Gfn) :
    (s.removeAll gfns).2.find? other = if other ∈ gfns then none else s.find? other := by
  induction gfns generalizing s with
  | nil => simp [removeAll]
  | cons gfn rest ih =>
    simp only [removeAll, ih, find?_remove, List.mem_cons]
    split <;> split <;> simp_all

/-- What removing one page keeps, removing several keeps. -/
theorem removeAll_induction {P : Store Page → Prop} (keeps : ∀ s gfn, P s → P (s.remove gfn).2)
    {s : Store Page} (start : P s) (gfns : List Gfn) : P (s.removeAll gfns).2 := by
  induction gfns generalizing s with
  | nil => exact start
  | cons gfn rest ih => exact ih (keeps s gfn start)

theorem gfnOf?_of_removeAll {s : Store Page} {gfns : List Gfn} {h : Handle} {gfn : Gfn}
    (leads : (s.removeAll gfns).2.gfnOf? h = some gfn) : s.gfnOf? h = some gfn := by
  refine removeAll_induction (P := fun t => t.gfnOf? h = some gfn → s.gfnOf? h = some gfn) ?_ id gfns leads
  intro t other before leads
  refine before ?_
  cases found : t.find? other with
  | none => rwa [remove_of_missing found] at leads
  | some e =>
    rw [gfnOf?_remove found] at leads
    split at leads
    · cases leads
    · exact leads

theorem insert_of_known {s : Store Page} {e : Entry Page} {gfn : Gfn}
    (known : s.gfnOf? e.handle = some gfn) :
    s.insert e = (.handleKnown, { s with byHandle := s.byHandle.insert e.handle e.gfn }) := by
  have found : s.byHandle.find? e.handle = some gfn := known
  simp only [insert, found]

theorem insert_of_fresh {s : Store Page} {e : Entry Page} (new : s.gfnOf? e.handle = none)
    (absent : s.find? e.gfn = none) :
    s.insert e = (.fresh, ⟨s.byGfn.insert e.gfn e, s.byHandle.insert e.handle e.gfn⟩) := by
  have unknown : s.byHandle.find? e.handle = none := new
  have missing : s.byGfn.find? e.gfn = none := absent
  simp only [insert, unknown, missing]

theorem entries_insert_of_fresh {s : Store Page} {e : Entry Page} (new : s.gfnOf? e.handle = none)
    (absent : s.find? e.gfn = none) : (s.insert e).2.entries = e :: s.entries := by
  rw [insert_of_fresh new absent, entries, Index.values_insert, Index.erase_of_missing absent]
  rfl

/-- When every sum fits its type, the unused entries are those whose counts are both zero. -/
theorem unused?_eq_some {s : Store Page} {unused : List (Entry Page)} (summed : s.unused? = some unused) :
    unused = s.entries.filter (·.references? = some 0) := by
  unfold unused? at summed
  split at summed
  · exact (Option.some.inj summed).symm
  · simp at summed

theorem mem_victims {limit : Nat} {unused : List (Entry Page)} {gfn : Gfn}
    (chosen : gfn ∈ victims limit unused) : ∃ e ∈ unused, e.gfn = gfn := by
  obtain ⟨e, taken, rfl⟩ := List.mem_map.mp chosen
  exact ⟨e, (List.mergeSort_perm ..).mem_iff.mp (List.mem_of_mem_take taken), rfl⟩

/-- What holds between the indices even of a driver that maps two pages to one address: every page
is found under its own number, no two pages have one handle, and exactly the handles of pages are
known. To which page a known handle leads is left open. -/
structure Indexed (s : Store Page) : Prop where
  keyed : ∀ gfn e, s.find? gfn = some e → e.gfn = gfn
  apart : ∀ gfn other e f, s.find? gfn = some e → s.find? other = some f → e.handle = f.handle → gfn = other
  known : ∀ h, (s.gfnOf? h).isSome ↔ ∃ gfn e, s.find? gfn = some e ∧ e.handle = h

namespace Indexed

theorem empty : (Store.empty : Store Page).Indexed where
  keyed := by simp
  apart := by simp
  known := by simp

theorem handle_ne {s : Store Page} {gfn : Gfn} {e : Entry Page} {h : Handle} (indexed : s.Indexed)
    (unknown : s.gfnOf? h = none) (found : s.find? gfn = some e) : e.handle ≠ h := by
  intro same
  have isKnown := (indexed.known h).mpr ⟨gfn, e, found, same⟩
  simp [unknown] at isKnown

theorem handles_nodup {s : Store Page} (indexed : s.Indexed) : (s.entries.map (·.handle)).Nodup := by
  have cells := List.pairwise_map.mp s.byGfn.nodup
  unfold entries Index.values
  rw [List.map_map]
  refine List.pairwise_map.mpr (cells.imp_of_mem fun {a b} atA atB different same => different ?_)
  exact indexed.apart a.1 b.1 a.2 b.2 (Index.find?_eq_some_iff.mpr atA) (Index.find?_eq_some_iff.mpr atB) same

theorem gfns_nodup {s : Store Page} (indexed : s.Indexed) : (s.entries.map (·.gfn)).Nodup := by
  have keys : s.entries.map (·.gfn) = s.byGfn.keys := by
    unfold entries Index.values Index.keys
    rw [List.map_map]
    exact List.map_congr_left fun cell member =>
      indexed.keyed cell.1 cell.2 (Index.find?_eq_some_iff.mpr member)
  rw [keys]
  exact s.byGfn.nodup

theorem handles_perm {s : Store Page} (indexed : s.Indexed) : (s.entries.map (·.handle)).Perm s.byHandle.keys := by
  refine (List.perm_ext_iff_of_nodup indexed.handles_nodup s.byHandle.nodup).mpr fun h => ?_
  have sought : h ∈ s.byHandle.keys ↔ (s.gfnOf? h).isSome := by
    rw [Index.mem_keys, Option.isSome_iff_exists]
    rfl
  refine Iff.trans ?_ sought.symm
  rw [indexed.known h]
  simp only [List.mem_map, mem_entries]
  exact ⟨fun ⟨e, ⟨gfn, found⟩, same⟩ => ⟨gfn, e, found, same⟩,
    fun ⟨gfn, e, found, same⟩ => ⟨e, ⟨gfn, found⟩, same⟩⟩

/-- The size check of an indexed store passes and answers the number of its entries. -/
theorem size?_eq {s : Store Page} (indexed : s.Indexed) : s.size? = .ok s.entries.length := by
  have entries : s.byGfn.size = s.entries.length := (List.length_map _).symm
  have handles := indexed.handles_perm.length_eq
  unfold Index.keys at handles
  rw [List.length_map, List.length_map] at handles
  have same : s.byGfn.size = s.byHandle.size := entries.trans handles
  rw [size?, if_pos same, entries]

theorem change {s : Store Page} {gfn : Gfn} {f : Entry Page → Entry Page} (indexed : s.Indexed)
    (keeps : ∀ e, s.find? gfn = some e → (f e).gfn = e.gfn ∧ (f e).handle = e.handle) :
    (s.change gfn f).Indexed := by
  have origin : ∀ other e, (s.change gfn f).find? other = some e →
      ∃ old, s.find? other = some old ∧ e.gfn = old.gfn ∧ e.handle = old.handle := by
    intro other e found
    rw [find?_change] at found
    split at found
    · next same =>
      obtain ⟨old, atOld, rfl⟩ := Option.map_eq_some_iff.mp found
      exact ⟨old, atOld, keeps old (same ▸ atOld)⟩
    · exact ⟨e, found, rfl, rfl⟩
  refine ⟨?_, ?_, fun h => ?_⟩
  · intro other e found
    obtain ⟨old, atOld, sameGfn, _⟩ := origin other e found
    exact sameGfn.trans (indexed.keyed other old atOld)
  · intro first second e d foundE foundD same
    obtain ⟨oldE, atE, _, handleE⟩ := origin first e foundE
    obtain ⟨oldD, atD, _, handleD⟩ := origin second d foundD
    exact indexed.apart first second oldE oldD atE atD (handleE.symm.trans (same.trans handleD))
  · rw [gfnOf?_change, indexed.known h]
    constructor
    · rintro ⟨other, e, found, rfl⟩
      by_cases same : other = gfn
      · subst same
        exact ⟨other, f e, by rw [find?_change, if_pos rfl, found]; rfl, (keeps e found).2⟩
      · exact ⟨other, e, by rw [find?_change, if_neg same, found], rfl⟩
    · rintro ⟨other, e, found, rfl⟩
      obtain ⟨old, atOld, _, sameHandle⟩ := origin other e found
      exact ⟨other, old, atOld, sameHandle.symm⟩

theorem remove {s : Store Page} (gfn : Gfn) (indexed : s.Indexed) : (s.remove gfn).2.Indexed := by
  cases atGfn : s.find? gfn with
  | none => rw [remove_of_missing atGfn]; exact indexed
  | some e =>
    have origin : ∀ other d, (s.remove gfn).2.find? other = some d → other ≠ gfn ∧ s.find? other = some d := by
      intro other d found
      rw [find?_remove] at found
      split at found
      · simp at found
      · next different => exact ⟨different, found⟩
    refine ⟨fun other d found => indexed.keyed other d (origin other d found).2, ?_, fun h => ?_⟩
    · intro first second d d' found found'
      exact indexed.apart first second d d' (origin _ _ found).2 (origin _ _ found').2
    · rw [gfnOf?_remove atGfn]
      constructor
      · intro isKnown
        split at isKnown
        · simp at isKnown
        · next different =>
          obtain ⟨other, d, found, rfl⟩ := (indexed.known h).mp isKnown
          have apart : other ≠ gfn := by
            rintro rfl
            exact different (congrArg Entry.handle (Option.some.inj (found.symm.trans atGfn)))
          exact ⟨other, d, by rw [find?_remove, if_neg apart, found], rfl⟩
      · rintro ⟨other, d, found, rfl⟩
        obtain ⟨different, atOther⟩ := origin other d found
        have apart : d.handle ≠ e.handle := fun same => different (indexed.apart _ _ d e atOther atGfn same)
        rw [if_neg apart, indexed.known]
        exact ⟨other, d, atOther, rfl⟩

theorem removeAll {s : Store Page} (gfns : List Gfn) (indexed : s.Indexed) : (s.removeAll gfns).2.Indexed :=
  removeAll_induction (fun _ gfn held => held.remove gfn) indexed gfns

/-- Evictions of other pages leave the handle of a page alone. -/
theorem gfnOf?_removeAll {s : Store Page} {gfns : List Gfn} {gfn : Gfn} {e : Entry Page} (indexed : s.Indexed)
    (found : s.find? gfn = some e) (kept : gfn ∉ gfns) :
    (s.removeAll gfns).2.gfnOf? e.handle = s.gfnOf? e.handle := by
  induction gfns generalizing s with
  | nil => rfl
  | cons other rest ih =>
    have different : gfn ≠ other := fun same => kept (same ▸ List.mem_cons_self)
    have others : gfn ∉ rest := fun chosen => kept (List.mem_cons_of_mem _ chosen)
    have stays : (s.remove other).2.find? gfn = some e := by rw [find?_remove, if_neg different, found]
    have rest := ih (indexed.remove other) stays others
    have first : (s.remove other).2.gfnOf? e.handle = s.gfnOf? e.handle := by
      cases atOther : s.find? other with
      | none => rw [remove_of_missing atOther]
      | some d =>
        rw [gfnOf?_remove atOther, if_neg]
        exact fun same => different (indexed.apart gfn other e d found atOther same)
    exact rest.trans first

/-- An insertion that is refused leaves the handles as they were: the one it redirects was known. -/
theorem insert_of_known {s : Store Page} {e : Entry Page} {gfn : Gfn} (indexed : s.Indexed)
    (known : s.gfnOf? e.handle = some gfn) : (s.insert e).2.Indexed where
  keyed other d found := indexed.keyed other d (by rwa [find?_insert_of_known known] at found)
  apart first second d d' found found' := by
    rw [find?_insert_of_known known] at found found'
    exact indexed.apart first second d d' found found'
  known h := by
    simp only [find?_insert_of_known known, gfnOf?_insert]
    rw [← indexed.known h]
    split
    · next same => simp [same, known]
    · rfl

/-- An absent page with a handle nothing knows keeps the indices in step. -/
theorem insert_of_new {s : Store Page} {e : Entry Page} (indexed : s.Indexed) (new : s.gfnOf? e.handle = none)
    (absent : s.find? e.gfn = none) : (s.insert e).2.Indexed where
  keyed other d found := by
    rw [find?_insert_of_new new] at found
    split at found
    · next same => cases Option.some.inj found; exact same.symm
    · exact indexed.keyed other d found
  apart first second d d' found found' := by
    intro same
    rw [find?_insert_of_new new] at found found'
    split at found <;> split at found'
    · next first' second' => exact first'.trans second'.symm
    · cases Option.some.inj found; exact absurd same.symm (indexed.handle_ne new found')
    · cases Option.some.inj found'; exact absurd same (indexed.handle_ne new found)
    · exact indexed.apart first second d d' found found' same
  known h := by
    simp only [find?_insert_of_new new, gfnOf?_insert]
    constructor
    · intro isKnown
      split at isKnown
      · next same => exact ⟨e.gfn, e, if_pos rfl, same.symm⟩
      · obtain ⟨other, d, found, atHandle⟩ := (indexed.known h).mp isKnown
        have different : other ≠ e.gfn := by rintro rfl; simp [absent] at found
        exact ⟨other, d, by rw [if_neg different, found], atHandle⟩
    · rintro ⟨other, d, found, rfl⟩
      split at found
      · cases Option.some.inj found; simp
      · rw [if_neg (indexed.handle_ne new found), indexed.known]
        exact ⟨other, d, found, rfl⟩

end Indexed

end Store

end ForeignPages
