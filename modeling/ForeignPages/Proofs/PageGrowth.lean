import ForeignPages.Proofs.SessionReach

namespace ForeignPages

variable {World Driver Probe Page : Type} {host : Host World Driver Probe Page}

/-- Somebody holds the page. -/
def Entry.held (e : Entry Page) : Bool := decide (e.refs ≠ 0) || decide (e.guards ≠ 0)

theorem Entry.free_of_not_held {e : Entry Page} (free : e.held = false) : e.references? = some 0 := by
  simp only [held, Bool.or_eq_false_iff, decide_eq_false_iff_not, Decidable.not_not] at free
  exact Entry.references?_eq_zero.mpr free

/-- The number of pages that somebody holds. -/
def Cache.held (c : Cache Driver Probe Page) : Nat := c.store.entries.countP Entry.held

namespace Store

theorem length_change (s : Store Page) (gfn : Gfn) (f : Entry Page → Entry Page) :
    (s.change gfn f).entries.length = s.entries.length := by
  have size := s.byGfn.size_change gfn f
  simp only [Index.size] at size
  simp only [entries, Index.values, List.length_map, change, size]

theorem length_removeAll (s : Store Page) (gfns : List Gfn) :
    (s.removeAll gfns).1.length + (s.removeAll gfns).2.entries.length = s.entries.length := by
  have same := (s.entries_perm_removeAll gfns).length_eq
  rw [List.length_append] at same
  exact same.symm

/-- Evictions of which one meets a cached page leave fewer pages. -/
theorem Indexed.removeAll_lt {s : Store Page} {gfns : List Gfn} {gfn : Gfn} {e : Entry Page} (indexed : s.Indexed)
    (chosen : gfn ∈ gfns) (found : s.find? gfn = some e) : (s.removeAll gfns).2.entries.length < s.entries.length := by
  have total := s.length_removeAll gfns
  have taken : (s.removeAll gfns).1 ≠ [] := by
    intro nothing
    have same := s.entries_perm_removeAll gfns
    rw [nothing, List.nil_append] at same
    obtain ⟨other, there⟩ := mem_entries.mp (same.mem_iff.mp (mem_entries.mpr ⟨gfn, found⟩))
    rw [find?_removeAll] at there
    split at there
    · cases there
    · next kept =>
      have keyed := indexed.keyed other e there
      rw [indexed.keyed gfn e found] at keyed
      exact kept (keyed ▸ chosen)
  have positive := List.length_pos_iff.mpr taken
  omega

theorem victims_ne_nil {limit : Nat} {unused : List (Entry Page)} (fits : 2 ≤ limit) (some : unused ≠ []) :
    victims limit unused ≠ [] := by
  intro none
  have length := congrArg List.length none
  have positive := List.length_pos_iff.mpr some
  simp only [victims, List.length_map, List.length_take, List.length_mergeSort, List.length_nil] at length
  omega

end Store

theorem Cache.Shrinks.length_le {c d : Cache Driver Probe Page} (shrinks : c.Shrinks d) :
    d.store.entries.length ≤ c.store.entries.length := by
  obtain ⟨gfns, rfl, _⟩ := shrinks
  have total := c.store.length_removeAll gfns
  exact Nat.le.intro ((Nat.add_comm _ _).trans total)

theorem Cache.Recounts.length_eq {c d : Cache Driver Probe Page} (recounts : c.Recounts d) :
    d.store.entries.length = c.store.entries.length := by
  rcases recounts with rfl | ⟨gfn, f, rfl, _⟩
  · rfl
  · exact c.store.length_change gfn f

theorem Cache.Recounts.limit_eq {c d : Cache Driver Probe Page} (recounts : c.Recounts d) : d.limit = c.limit := by
  rcases recounts with rfl | ⟨_, _, rfl, _⟩ <;> rfl

namespace Machine

/-- Room is made, or was there before, unless all pages are held. -/
theorem makeRoom_length {m room : Machine World Driver Probe Page}
    (indexed : m.cache.store.Indexed) (fits : 2 ≤ m.cache.limit) (made : m.makeRoom host = (.ok (), room)) :
    m.cache.store.entries.length < m.cache.limit ∨
      room.cache.store.entries.length < m.cache.store.entries.length ∨
      room.cache.store = m.cache.store ∧ ∀ e ∈ m.cache.store.entries, e.held = true := by
  rw [makeRoom_eq indexed] at made
  split at made
  · obtain ⟨unused, summed, rfl⟩ := cleanUp_ok indexed made
    have evicted := Store.unused?_eq_some summed
    rw [tell_cache, unmapAll_cache]
    by_cases nobody : unused = []
    · have nothing : m.cache.store.removeAll (Store.victims m.cache.limit unused) = ([], m.cache.store) := by
        simp [nobody, Store.victims, Store.removeAll]
      refine .inr (.inr ⟨congrArg Prod.snd nothing, fun e cached => ?_⟩)
      cases free : e.held with
      | true => rfl
      | false =>
        have member : e ∈ unused := by
          rw [evicted]
          exact List.mem_filter.mpr ⟨cached, decide_eq_true (Entry.free_of_not_held free)⟩
        rw [nobody] at member
        cases member
    · obtain ⟨victim, chosen⟩ := List.exists_mem_of_ne_nil _ (Store.victims_ne_nil fits nobody)
      obtain ⟨e, member, rfl⟩ := Store.mem_victims chosen
      rw [evicted] at member
      obtain ⟨gfn, found⟩ := Store.mem_entries.mp (List.mem_filter.mp member).1
      have keyed := indexed.keyed gfn e found
      exact .inr (.inl (indexed.removeAll_lt chosen (keyed ▸ found)))
  · next below =>
    cases made
    exact .inl (Nat.lt_of_not_le below)

theorem firstEntry_held (host : Host World Driver Probe Page) (gfn : Gfn) (page : Page) (token : UInt64)
    (holder : Holder) : (firstEntry host gfn page token holder).held = true := by
  cases holder <;> rfl

/-- An acquisition that brings one page more into a cache, below the limit or since all others are held. -/
structure Grows (m : Machine World Driver Probe Page) (gfn : Gfn) (cache : Cache Driver Probe Page) : Prop where
  missing : m.cache.store.find? gfn = none
  found : ∃ e, cache.store.find? gfn = some e
  length : cache.store.entries.length ≤ m.cache.store.entries.length + 1
  needed : m.cache.store.entries.length < m.cache.limit ∨
    (∀ e ∈ m.cache.store.entries, e.held = true) ∧ cache.held = cache.store.entries.length

/-- An acquisition makes a cache longer only below its limit, or if there is nothing to evict. -/
theorem Acquired.length_le {m : Machine World Driver Probe Page} {gfn : Gfn} {holder : Holder}
    {outcome : Outcome Lease} {cache : Cache Driver Probe Page} (acquired : m.Acquired host gfn holder outcome cache)
    (indexed : m.cache.store.Indexed) (fits : 2 ≤ m.cache.limit) :
    cache.store.entries.length ≤ m.cache.store.entries.length ∨ m.Grows gfn cache := by
  cases acquired with
  | failed _ roomy => exact .inl roomy.length_le
  | touched | pinned => exact .inl (Nat.le_of_eq (m.cache.store.length_change gfn _))
  | @aliased room page token other ticked answers _ known =>
    have same : (room.cache.store.insert (firstEntry host gfn page token holder)).2.entries =
        room.cache.store.entries := by
      rw [Store.insert_of_known known]
      rfl
    have roomy := (answers.shrinks indexed).length_le
    exact .inl (by rw [same]; exact roomy)
  | @placed room page token size ticked answers _ unknown =>
    have missing := answers.missing indexed
    have entries : (room.cache.store.insert (firstEntry host gfn page token holder)).2.entries =
        firstEntry host gfn page token holder :: room.cache.store.entries :=
      Store.entries_insert_of_fresh unknown missing
    have stored : (room.cache.store.insert (firstEntry host gfn page token holder)).2.find? gfn =
        some (firstEntry host gfn page token holder) := by
      rw [Store.find?_insert_of_new unknown]
      exact if_pos rfl
    have roomy := (answers.shrinks indexed).length_le
    obtain ⟨driver, counted, bound, uncached, made, rest⟩ := answers
    rcases makeRoom_length indexed fits made with below | evicted | ⟨same, full⟩
    · refine .inr ⟨uncached, ⟨_, stored⟩, ?_, .inl below⟩
      rw [entries, List.length_cons]
      omega
    · refine .inl ?_
      rw [entries, List.length_cons]
      omega
    · refine .inr ⟨uncached, ⟨_, stored⟩, ?_, .inr ⟨full, ?_⟩⟩
      · rw [entries, List.length_cons]
        omega
      · refine List.countP_eq_length.mpr fun e member => ?_
        rw [entries, same] at member
        rcases List.mem_cons.mp member with rfl | old
        · exact firstEntry_held host gfn page token holder
        · exact full e old

end Machine

end ForeignPages
