import Mathlib.Algebra.Group.Nat.Defs
import ForeignPages.Proofs.Links
import ForeignPages.Proofs.RecencyOrder

namespace ForeignPages

variable {World Driver Probe Page : Type} {host : Host World Driver Probe Page}

/-- What the list knows of an entry: all but the clock at its last use. -/
def Entry.slot (e : Entry Page) : Slot Page where
  gfn := e.gfn
  handle := e.handle
  refs := e.refs.toNat
  guards := e.guards.toNat
  page := e.page

/-- All references to a page fit one word. -/
def Entry.Small (e : Entry Page) : Prop := e.refs.toNat + e.guards.toNat < 2 ^ 32

theorem Entry.Small.references?_eq {e : Entry Page} (small : e.Small) :
    ∃ n, e.references? = some n ∧ n.toNat = e.refs.toNat + e.guards.toNat := by
  refine ⟨e.refs + e.guards, if_pos small, ?_⟩
  rw [UInt32.toNat_add, Nat.mod_eq_of_lt small]

theorem Entry.slot_unpinned (e : Entry Page) : e.slot.unpinned = decide (e.references? = some 0) := by
  rw [Bool.eq_iff_iff, decide_eq_true_eq, Entry.references?_eq_zero, ← UInt32.toNat_inj, ← UInt32.toNat_inj]
  simp only [Slot.unpinned, Entry.slot, Bool.and_eq_true, beq_iff_eq, UInt32.toNat_zero]

/-- A list of slots shows the pages of a cache in the order of their last use. The tokens of the pages
are distinct, the clock is past all of them, and the indices agree. -/
structure Cache.Lines (host : Host World Driver Probe Page) (c : Cache Driver Probe Page)
    (slots : List (Slot Page)) : Prop where
  indexed : c.store.Indexed
  linked : c.store.Linked host
  small : ∀ gfn e, c.store.find? gfn = some e → e.Small
  order : ∃ es : List (Entry Page), es.Perm c.store.entries ∧ es.Pairwise Entry.UsedBefore ∧
    (∀ e ∈ es, e.lastUse.toNat < c.clock.toNat) ∧ slots = es.map Entry.slot

namespace Store

/-- A change of one entry leaves all others where they are. -/
theorem Indexed.entries_change {s : Store Page} (indexed : s.Indexed) (gfn : Gfn) (f : Entry Page → Entry Page) :
    (s.change gfn f).entries = s.entries.map fun e => if e.gfn = gfn then f e else e := by
  change (List.map (Index.changeCell gfn f) s.byGfn.cells).map Prod.snd = (s.byGfn.cells.map Prod.snd).map _
  rw [List.map_map, List.map_map]
  refine List.map_congr_left fun cell member => ?_
  have keyed := indexed.keyed cell.1 cell.2 (Index.find?_eq_some_iff.mpr member)
  simp only [Function.comp_apply, Index.changeCell, keyed]
  split <;> rfl

/-- A page stands beside all others. -/
theorem Indexed.entries_perm_of_found {s : Store Page} {gfn : Gfn} {e : Entry Page} (indexed : s.Indexed)
    (found : s.find? gfn = some e) : s.entries.Perm (e :: s.entries.filter fun d => d.gfn ≠ gfn) := by
  have others : (s.byGfn.erase gfn).values = s.entries.filter fun d => d.gfn ≠ gfn := by
    unfold entries Index.values
    rw [Index.cells_erase, List.filter_map]
    refine congrArg _ (List.filter_congr fun cell member => ?_)
    have keyed := indexed.keyed cell.1 cell.2 (Index.find?_eq_some_iff.mpr member)
    simp only [Function.comp_apply, keyed]
  exact others ▸ Index.values_perm_erase found

theorem Indexed.entries_change_perm {s : Store Page} {gfn : Gfn} {e : Entry Page} (indexed : s.Indexed)
    (found : s.find? gfn = some e) (d : Entry Page) :
    (s.change gfn fun _ => d).entries.Perm (d :: s.entries.filter fun other => other.gfn ≠ gfn) := by
  have keyed := indexed.keyed gfn e found
  have replaced := (indexed.entries_perm_of_found found).map fun other => if other.gfn = gfn then d else other
  rw [indexed.entries_change]
  refine replaced.trans (List.Perm.of_eq ?_)
  rw [List.map_cons, if_pos keyed]
  refine congrArg _ ((List.map_congr_left fun other member => ?_).trans (List.map_id _))
  have different : other.gfn ≠ gfn := of_decide_eq_true (List.mem_filter.mp member).2
  rw [if_neg different]
  rfl

theorem Indexed.find?_of_mem {s : Store Page} {e : Entry Page} (indexed : s.Indexed) (cached : e ∈ s.entries) :
    s.find? e.gfn = some e := by
  obtain ⟨gfn, found⟩ := mem_entries.mp cached
  rw [indexed.keyed gfn e found, found]

end Store

namespace Cache.Lines

theorem empty {c : Cache Driver Probe Page} (none : c.store = .empty) : c.Lines host [] where
  indexed := none ▸ .empty
  linked := none ▸ .empty
  small gfn e found := by simp [none] at found
  order := ⟨[], by rw [none]; exact .refl _, .nil, fun e member => absurd member List.not_mem_nil, rfl⟩

theorem of_same {c d : Cache Driver Probe Page} {slots : List (Slot Page)} (lines : c.Lines host slots)
    (store : d.store = c.store) (clock : d.clock = c.clock) :
    d.Lines host slots where
  indexed := store ▸ lines.indexed
  linked := store ▸ lines.linked
  small := store ▸ lines.small
  order := by rw [store, clock]; exact lines.order

theorem reorder {c : Cache Driver Probe Page} {slots : List (Slot Page)} {store : Store Page}
    (lines : c.Lines host slots) (same : c.store.Reordered store) :
    Cache.Lines host { c with store } slots where
  indexed := same.indexed lines.indexed
  linked := lines.linked.reorder same
  small gfn e found := lines.small gfn e (by rwa [same.find?_eq] at found)
  order := by
    obtain ⟨es, perm, rest⟩ := lines.order
    exact ⟨es, perm.trans same.entries_perm, rest⟩

theorem length_eq {c : Cache Driver Probe Page} {slots : List (Slot Page)} (lines : c.Lines host slots) :
    slots.length = c.store.entries.length := by
  obtain ⟨es, perm, _, _, rfl⟩ := lines.order
  rw [List.length_map, perm.length_eq]

/-- A look-up in the list of slots finds the entry with a property, if there is exactly one. -/
theorem find?_slot {c : Cache Driver Probe Page} {slots : List (Slot Page)} {p : Slot Page → Bool}
    {found : Option (Entry Page)} (lines : c.Lines host slots)
    (unique : ∀ e ∈ c.store.entries, p e.slot = true ↔ found = some e)
    (cached : ∀ e, found = some e → e ∈ c.store.entries) : slots.find? p = found.map Entry.slot := by
  obtain ⟨es, perm, _, _, rfl⟩ := lines.order
  rw [List.find?_map]
  refine congrArg _ ?_
  cases seen : es.find? (p ∘ Entry.slot) with
  | some e =>
    have member := perm.mem_iff.mp (List.mem_of_find?_eq_some seen)
    have has : (p ∘ Entry.slot) e = true := List.find?_some seen
    exact ((unique e member).mp has).symm
  | none =>
    cases sought : found with
    | none => rfl
    | some e =>
      have member := cached e sought
      have unseen := List.find?_eq_none.mp seen e (perm.mem_iff.mpr member)
      exact absurd ((unique e member).mpr sought) unseen

/-- A page is found in the list as in the cache. -/
theorem find?_gfn {c : Cache Driver Probe Page} {slots : List (Slot Page)} (lines : c.Lines host slots) (gfn : Gfn) :
    slots.find? (fun slot => slot.gfn = gfn) = (c.store.find? gfn).map Entry.slot := by
  refine lines.find?_slot (fun e cached => ?_) fun e found => Store.mem_entries.mpr ⟨gfn, found⟩
  rw [decide_eq_true_eq]
  constructor
  · rintro rfl
    exact lines.indexed.find?_of_mem cached
  · exact lines.indexed.keyed gfn e

/-- So it is by its handle. -/
theorem find?_handle {c : Cache Driver Probe Page} {slots : List (Slot Page)} (lines : c.Lines host slots)
    (h : Handle) :
    slots.find? (fun slot => slot.handle = h) =
      ((c.store.gfnOf? h).bind c.store.find?).map Entry.slot := by
  refine lines.find?_slot (fun e cached => ?_) fun e found => ?_
  · rw [decide_eq_true_eq, Option.bind_eq_some_iff]
    constructor
    · rintro rfl
      have found := lines.indexed.find?_of_mem cached
      exact ⟨e.gfn, (lines.linked.gfnOf?_iff lines.indexed).mpr ⟨e, found, rfl⟩, found⟩
    · rintro ⟨gfn, known, found⟩
      obtain ⟨d, found', handle⟩ := lines.linked.faithful h gfn known
      rw [found'] at found
      cases found
      exact handle
  · obtain ⟨gfn, _, found⟩ := Option.bind_eq_some_iff.mp found
    exact Store.mem_entries.mpr ⟨gfn, found⟩

/-- A change of counters changes one slot, and the order of none. -/
theorem change {c : Cache Driver Probe Page} {slots : List (Slot Page)} {gfn : Gfn} {f : Entry Page → Entry Page}
    {g : Slot Page → Slot Page} (lines : c.Lines host slots)
    (shown : ∀ e, c.store.find? gfn = some e → (f e).slot = g e.slot)
    (keeps : ∀ e, (f e).gfn = e.gfn ∧ (f e).handle = e.handle ∧ (f e).page = e.page ∧ (f e).lastUse = e.lastUse)
    (small : ∀ e, c.store.find? gfn = some e → (f e).Small) :
    Cache.Lines host { c with store := c.store.change gfn f }
      (slots.map fun slot => if slot.gfn = gfn then g slot else slot) where
  indexed := lines.indexed.change fun e _ => ⟨(keeps e).1, (keeps e).2.1⟩
  linked := lines.linked.change fun e _ => ⟨(keeps e).2.1, (keeps e).2.2.1⟩
  small other e found := by
    rw [Store.find?_change] at found
    split at found
    · next same =>
      obtain ⟨old, atOld, rfl⟩ := Option.map_eq_some_iff.mp found
      exact small old (same ▸ atOld)
    · exact lines.small other e found
  order := by
    obtain ⟨es, perm, sorted, past, rfl⟩ := lines.order
    have token : ∀ e : Entry Page, (if e.gfn = gfn then f e else e).lastUse = e.lastUse := by
      intro e
      split
      · exact (keeps e).2.2.2
      · rfl
    refine ⟨es.map fun e => if e.gfn = gfn then f e else e, ?_, ?_, ?_, ?_⟩
    · rw [lines.indexed.entries_change]
      exact perm.map _
    · refine List.pairwise_map.mpr (sorted.imp fun {a b} before => ?_)
      rw [Entry.UsedBefore, token, token]
      exact before
    · intro e member
      obtain ⟨old, listed, rfl⟩ := List.mem_map.mp member
      rw [token]
      exact past old listed
    · rw [List.map_map, List.map_map]
      refine List.map_congr_left fun e listed => ?_
      simp only [Function.comp_apply]
      by_cases same : e.gfn = gfn
      · have found := lines.indexed.find?_of_mem (perm.mem_iff.mp listed)
        rw [if_pos same, if_pos (show e.slot.gfn = gfn from same)]
        exact (shown e (same ▸ found)).symm
      · rw [if_neg same, if_neg (show ¬ e.slot.gfn = gfn from same)]

/-- A page that is used goes to the end of the list. -/
theorem touch {c : Cache Driver Probe Page} {slots : List (Slot Page)} {gfn : Gfn} {e pinned : Entry Page}
    {next : UInt64} (lines : c.Lines host slots) (found : c.store.find? gfn = some e)
    (given : next.toNat = c.clock.toNat + 1)
    (keeps : pinned.gfn = e.gfn ∧ pinned.handle = e.handle ∧ pinned.page = e.page ∧ pinned.lastUse = c.clock)
    (small : pinned.Small) :
    Cache.Lines host { c with clock := next, store := c.store.change gfn fun _ => pinned }
      (slots.filter (fun slot => slot.gfn ≠ gfn) ++ [pinned.slot]) where
  indexed := lines.indexed.change fun d again => by
    cases Option.some.inj (found.symm.trans again)
    exact ⟨keeps.1, keeps.2.1⟩
  linked := lines.linked.change fun d again => by
    cases Option.some.inj (found.symm.trans again)
    exact ⟨keeps.2.1, keeps.2.2.1⟩
  small other d there := by
    rw [Store.find?_change] at there
    split at there
    · obtain ⟨_, _, rfl⟩ := Option.map_eq_some_iff.mp there
      exact small
    · exact lines.small other d there
  order := by
    obtain ⟨es, perm, sorted, past, rfl⟩ := lines.order
    obtain ⟨sorted', past'⟩ := Entry.usedBefore_append (sorted.filter fun d => d.gfn ≠ gfn)
      (fun d member => past d (List.mem_filter.mp member).1) keeps.2.2.2 given
    -- The clock is past all other pages, so the one with its token comes last.
    refine ⟨_, ?_, sorted', past', ?_⟩
    · refine List.perm_append_comm.trans ?_
      exact ((perm.filter _).cons pinned).trans (lines.indexed.entries_change_perm found pinned).symm
    · rw [List.map_append, List.filter_map]
      rfl

/-- A new page comes to the end of the list. -/
theorem append {c : Cache Driver Probe Page} {slots : List (Slot Page)} {e : Entry Page} {next : UInt64}
    (lines : c.Lines host slots) (unknown : c.store.gfnOf? e.handle = none) (missing : c.store.find? e.gfn = none)
    (given : next.toNat = c.clock.toNat + 1) (used : e.lastUse = c.clock) (addressed : e.handle = host.address e.page)
    (small : e.Small) :
    Cache.Lines host { c with clock := next, store := (c.store.insert e).2 } (slots ++ [e.slot]) where
  indexed := lines.indexed.insert_of_new unknown missing
  linked := lines.linked.insert_of_new unknown missing addressed
  small other d found := by
    rw [Store.find?_insert_of_new unknown] at found
    split at found
    · cases found; exact small
    · exact lines.small other d found
  order := by
    obtain ⟨es, perm, sorted, past, rfl⟩ := lines.order
    obtain ⟨sorted', past'⟩ := Entry.usedBefore_append sorted past used given
    refine ⟨es ++ [e], ?_, sorted', past', ?_⟩
    · rw [Store.entries_insert_of_fresh unknown missing]
      exact List.perm_append_comm.trans (perm.cons e)
    · rw [List.map_append]
      rfl

theorem unused?_eq {c : Cache Driver Probe Page} {slots : List (Slot Page)} (lines : c.Lines host slots) :
    c.store.unused? = some (c.store.entries.filter fun e => e.references? = some 0) := by
  refine if_pos (List.all_eq_true.mpr fun e cached => ?_)
  obtain ⟨n, sum, _⟩ := (lines.small e.gfn e (lines.indexed.find?_of_mem cached)).references?_eq
  rw [sum]
  rfl

/-- An eviction takes the first unpinned slots out of the list, in its order. -/
theorem evict {c : Cache Driver Probe Page} {slots : List (Slot Page)} {unused : List (Entry Page)}
    (lines : c.Lines host slots) (summed : c.store.unused? = some unused) (limit : Nat) :
    unused.length = slots.countP Slot.unpinned ∧
      (c.store.removeAll (Store.victims limit unused)).1.map Entry.slot =
        (takeFirst Slot.unpinned (limit / 2) slots).1 ∧
      Cache.Lines host { c with store := (c.store.removeAll (Store.victims limit unused)).2 }
        (takeFirst Slot.unpinned (limit / 2) slots).2 := by
  obtain ⟨es, perm, sorted, past, rfl⟩ := lines.order
  have unpinned : (fun e : Entry Page => e.slot.unpinned) = fun e => decide (e.references? = some 0) :=
    funext Entry.slot_unpinned
  have same : (es.filter fun e => e.references? = some 0).Perm unused := by
    rw [Store.unused?_eq_some summed]
    exact perm.filter _
  -- The store chooses its victims by sorting, the list by going through it: both find the same ones.
  have taken := takeFirst_fst (fun e : Entry Page => e.references? = some 0) (limit / 2) es
  have chosen : Store.victims limit unused =
      (takeFirst (fun e : Entry Page => e.references? = some 0) (limit / 2) es).1.map (·.gfn) := by
    rw [taken]
    exact Store.victims_eq (sorted.filter _) same limit
  have split := takeFirst_perm (fun e : Entry Page => e.references? = some 0) (limit / 2) es
  have kept := takeFirst_snd_sublist (fun e : Entry Page => e.references? = some 0) (limit / 2) es
  have evicted : (c.store.removeAll (Store.victims limit unused)).1 =
      (takeFirst (fun e : Entry Page => e.references? = some 0) (limit / 2) es).1 := by
    rw [chosen]
    refine Store.removeAll_fst (fun e member => ?_) ?_
    · have listed := split.symm.subset (List.mem_append_left _ member)
      exact lines.indexed.find?_of_mem (perm.mem_iff.mp listed)
    · have apart := (perm.map Entry.gfn).symm.nodup lines.indexed.gfns_nodup
      have apart' := (split.map Entry.gfn).nodup apart
      rw [List.map_append] at apart'
      exact (List.nodup_append.mp apart').1
  rw [takeFirst_map, unpinned]
  refine ⟨?_, congrArg _ evicted, lines.indexed.removeAll _, lines.linked.removeAll _, ?_, ?_⟩
  · rw [← same.length_eq, List.countP_map, List.countP_eq_length_filter]
    exact congrArg (fun p => (es.filter p).length) unpinned.symm
  · intro gfn e found
    rw [Store.find?_removeAll] at found
    split at found
    · cases found
    · exact lines.small gfn e found
  · refine ⟨_, ?_, sorted.sublist kept, fun e member => past e (kept.subset member), rfl⟩
    have whole := c.store.entries_perm_removeAll (Store.victims limit unused)
    rw [evicted] at whole
    exact (List.perm_append_left_iff _).mp (split.symm.trans (perm.trans whole))

end Cache.Lines

end ForeignPages
