import ForeignPages.Proofs.RecencyLines
import ForeignPages.Proofs.RecencyTokens
import ForeignPages.Proofs.Tellings

namespace ForeignPages

variable {World Driver Probe Page : Type} {host : Host World Driver Probe Page}

/-- The pages that make room for another one: none below the limit, and from it on those of the free ones that
were not used for the longest time, at most half as many as the limit allows. -/
def Cache.GivesUp (c : Cache Driver Probe Page) (evicted : List (Entry Page)) : Prop :=
  ∃ order : List (Entry Page), order.Perm (c.store.entries.filter (!·.held)) ∧ order.Pairwise Entry.UsedBefore ∧
    evicted = if c.limit ≤ c.store.entries.length then order.take (c.limit / 2) else []

/-- A cache without some of its pages, of which nothing else was changed. -/
structure Cache.Without (c : Cache Driver Probe Page) (evicted : List (Entry Page)) (d : Cache Driver Probe Page) :
    Prop where
  settings : ∃ store, d = { c with store }
  entries : c.store.entries.Perm (evicted ++ d.store.entries)
  find?_eq : ∀ gfn, d.store.find? gfn = if gfn ∈ evicted.map (·.gfn) then none else c.store.find? gfn
  gfnOf?_eq : ∀ h, d.store.gfnOf? h = if h ∈ evicted.map (·.handle) then none else c.store.gfnOf? h

/-- The outside after pages were given back, one after another. -/
def Host.unmapAll (host : Host World Driver Probe Page) (entries : List (Entry Page)) (world : World) : World :=
  entries.foldl (fun world e => host.unmap e.page world) world

/-- The handles of the pages that go are forgotten, and no others. -/
theorem Store.gfnOf?_removeAll {s : Store Page} {chosen : List (Entry Page)}
    (cached : ∀ e ∈ chosen, s.find? e.gfn = some e) (apart : (chosen.map (·.gfn)).Nodup) (h : Handle) :
    (s.removeAll (chosen.map (·.gfn))).2.gfnOf? h = if h ∈ chosen.map (·.handle) then none else s.gfnOf? h := by
  induction chosen generalizing s with
  | nil => rfl
  | cons e rest ih =>
    obtain ⟨new, apart⟩ := List.nodup_cons.mp apart
    have later := Store.found_after_remove new fun d member => cached d (List.mem_cons_of_mem _ member)
    have others := ih later apart
    rw [Store.gfnOf?_remove (cached e List.mem_cons_self)] at others
    simp only [List.map_cons, List.mem_cons, Store.removeAll]
    rw [others]
    by_cases first : h = e.handle
    · rw [if_pos first, ite_self, if_pos (.inl first)]
    · simp only [first, if_false, false_or]

namespace Cache

theorem Without.refl (c : Cache Driver Probe Page) : c.Without [] c :=
  ⟨⟨c.store, rfl⟩, .refl _, fun _ => rfl, fun _ => rfl⟩

theorem without_removeAll {c : Cache Driver Probe Page} {evicted : List (Entry Page)} (indexed : c.store.Indexed)
    (cached : ∀ e ∈ evicted, e ∈ c.store.entries) (apart : (evicted.map (·.gfn)).Nodup) :
    c.Without evicted { c with store := (c.store.removeAll (evicted.map (·.gfn))).2 } := by
  have found : ∀ e ∈ evicted, c.store.find? e.gfn = some e := fun e member => indexed.find?_of_mem (cached e member)
  have parts := c.store.entries_perm_removeAll (evicted.map (·.gfn))
  rw [Store.removeAll_fst found apart] at parts
  exact ⟨⟨_, rfl⟩, parts, c.store.find?_removeAll _, Store.gfnOf?_removeAll found apart⟩

/-- The free pages are told apart by their last use, so that there is only one order to go by. -/
theorem Clocked.givesUp {c : Cache Driver Probe Page} (clocked : c.Clocked) (indexed : c.store.Indexed) :
    ∃ evicted, c.GivesUp evicted := by
  have perm := List.mergeSort_perm (c.store.entries.filter (!·.held)) Entry.evictedBefore
  have free := c.store.entries.filter_sublist (p := (!·.held))
  have sorted := List.pairwise_mergeSort Entry.evictedBefore_trans Entry.evictedBefore_total
    (c.store.entries.filter (!·.held))
  have apart := (perm.map (·.gfn)).nodup_iff.mpr (indexed.gfns_nodup.sublist (free.map _))
  refine ⟨_, _, perm, ?_, rfl⟩
  refine (sorted.and (List.pairwise_map.mp apart)).imp_of_mem fun {e f} atE atF before => ?_
  have there := indexed.find?_of_mem (free.subset (perm.mem_iff.mp atE))
  have there' := indexed.find?_of_mem (free.subset (perm.mem_iff.mp atF))
  rcases Entry.evictedBefore_iff.mp before.1 with earlier | ⟨same, _⟩
  · exact earlier
  · exact absurd (clocked.apart _ _ e f there there' (UInt64.toNat_inj.mp same)) before.2

namespace GivesUp

theorem sublist {c : Cache Driver Probe Page} {evicted : List (Entry Page)} (gives : c.GivesUp evicted) :
    ∃ order, order.Perm (c.store.entries.filter (!·.held)) ∧ evicted.Sublist order := by
  obtain ⟨order, perm, _, rfl⟩ := gives
  refine ⟨order, perm, ?_⟩
  split
  · exact List.take_sublist _ _
  · exact List.nil_sublist _

theorem free {c : Cache Driver Probe Page} {evicted : List (Entry Page)} (gives : c.GivesUp evicted) {e : Entry Page}
    (member : e ∈ evicted) : e ∈ c.store.entries ∧ e.held = false := by
  obtain ⟨order, perm, part⟩ := gives.sublist
  have kept := List.mem_filter.mp (perm.mem_iff.mp (part.subset member))
  exact ⟨kept.1, Bool.not_eq_true' _ ▸ kept.2⟩

theorem apart {c : Cache Driver Probe Page} {evicted : List (Entry Page)} (gives : c.GivesUp evicted)
    (indexed : c.store.Indexed) : (evicted.map (·.gfn)).Nodup := by
  obtain ⟨order, perm, part⟩ := gives.sublist
  have distinct := indexed.gfns_nodup.sublist ((List.filter_sublist (p := fun e => !e.held)).map _)
  exact (((perm.map (·.gfn)).nodup_iff).mpr distinct).sublist (part.map _)

/-- As many pages go as the limit calls for: half of it, if so many are free, and none below the limit. -/
theorem length_eq {c : Cache Driver Probe Page} {evicted : List (Entry Page)} (gives : c.GivesUp evicted) :
    evicted.length = if c.limit ≤ c.store.entries.length then min (c.limit / 2) c.free else 0 := by
  obtain ⟨order, perm, _, rfl⟩ := gives
  split
  · rw [List.length_take, perm.length_eq, ← List.countP_eq_length_filter]
    rfl
  · rfl

/-- Sorting all free pages by their last use finds these. -/
theorem victims_eq {c : Cache Driver Probe Page} {evicted : List (Entry Page)} (gives : c.GivesUp evicted)
    {unused : List (Entry Page)} (full : c.limit ≤ c.store.entries.length) (summed : c.store.unused? = some unused) :
    Store.victims c.limit unused = evicted.map (·.gfn) := by
  obtain ⟨order, perm, sorted, rfl⟩ := gives
  have same : order.Perm unused := by
    rw [Store.unused?_eq_some summed]
    refine perm.trans (List.Perm.of_eq (List.filter_congr fun e _ => ?_))
    rw [Bool.eq_iff_iff, decide_eq_true_eq, Entry.free_iff_not_held, Bool.not_eq_true']
  rw [Store.victims_eq sorted same, if_pos full]

theorem removed {c : Cache Driver Probe Page} {evicted : List (Entry Page)} (gives : c.GivesUp evicted)
    (indexed : c.store.Indexed) : (c.store.removeAll (evicted.map (·.gfn))).1 = evicted :=
  Store.removeAll_fst (fun _ member => indexed.find?_of_mem (gives.free member).1) (gives.apart indexed)

theorem without {c : Cache Driver Probe Page} {evicted : List (Entry Page)} (gives : c.GivesUp evicted)
    (indexed : c.store.Indexed) :
    c.Without evicted { c with store := (c.store.removeAll (evicted.map (·.gfn))).2 } :=
  without_removeAll indexed (fun _ member => (gives.free member).1) (gives.apart indexed)

end GivesUp

/-- What passes while room is made is the cleanup of a full cache, which is told of after it. -/
theorem Roomed.acts_eq {c : Cache Driver Probe Page} {evicted : List (Entry Page)}
    {acts : List (Act Driver Probe Page)} (roomed : c.Roomed acts) (indexed : c.store.Indexed)
    (gives : c.GivesUp evicted) :
    acts = if c.limit ≤ c.store.entries.length then .told c.cleanup :: returns evicted else [] := by
  cases roomed with
  | spare below => rw [if_neg (Nat.not_le.mpr below)]
  | cleaned full summed =>
    have count := gives.length_eq
    rw [if_pos full] at count
    rw [if_pos full, Store.unused_length summed, gives.victims_eq full summed, gives.removed indexed, count]
    rfl

namespace Without

theorem length_eq {c d : Cache Driver Probe Page} {evicted : List (Entry Page)} (without : c.Without evicted d) :
    evicted.length + d.store.entries.length = c.store.entries.length := by
  rw [without.entries.length_eq, List.length_append]

theorem limit_eq {c d : Cache Driver Probe Page} {evicted : List (Entry Page)} (without : c.Without evicted d) :
    d.limit = c.limit := by
  obtain ⟨_, rfl⟩ := without.settings
  rfl

/-- A held page is spared. -/
theorem held_stays {c d : Cache Driver Probe Page} {evicted : List (Entry Page)} (without : c.Without evicted d)
    (gives : c.GivesUp evicted) (indexed : c.store.Indexed) {gfn : Gfn} {e : Entry Page}
    (found : c.store.find? gfn = some e) (held : e.held = true) : d.store.find? gfn = some e := by
  rw [without.find?_eq, if_neg, found]
  intro chosen
  obtain ⟨f, member, same⟩ := List.mem_map.mp chosen
  obtain ⟨cached, free⟩ := gives.free member
  have there := indexed.find?_of_mem cached
  rw [same, found] at there
  cases there
  cases held.symm.trans free

theorem half_le {c d : Cache Driver Probe Page} {evicted : List (Entry Page)} (without : c.Without evicted d)
    (gives : c.GivesUp evicted) (enough : (c.limit + 1) / 2 ≤ c.store.entries.length) :
    (c.limit + 1) / 2 ≤ d.store.entries.length := by
  have parts := without.length_eq
  have count := gives.length_eq
  split at count <;> omega

end Without

end Cache

namespace Machine

/-- Making room evicts these pages and does nothing else to the cache. -/
theorem makeRoom_without {m room : Machine World Driver Probe Page} {evicted : List (Entry Page)}
    (indexed : m.cache.store.Indexed) (gives : m.cache.GivesUp evicted) (made : m.makeRoom host = (.ok (), room)) :
    m.cache.Without evicted room.cache ∧
      room.world = host.unmapAll evicted m.world := by
  have without := gives.without indexed
  rw [makeRoom_eq indexed] at made
  split at made
  · next full =>
    obtain ⟨unused, summed, rfl⟩ := cleanUp_ok indexed made
    rw [gives.victims_eq full summed, gives.removed indexed]
    refine ⟨?_, unmapAll_world host _ evicted⟩
    rw [tell_cache, unmapAll_cache]
    exact without
  · next spare =>
    have none : evicted = [] := by
      obtain ⟨_, _, _, rfl⟩ := gives
      exact if_neg spare
    cases made
    subst none
    exact ⟨.refl _, rfl⟩

/-- Where the references of every page add up, there is nothing that could keep room from being made. -/
theorem makeRoom_of_small {m : Machine World Driver Probe Page} (host : Host World Driver Probe Page)
    (indexed : m.cache.store.Indexed) (small : ∀ gfn e, m.cache.store.find? gfn = some e → e.Small) :
    ∃ room, m.makeRoom host = (.ok (), room) := by
  have summed : m.cache.store.entries.all (·.references?.isSome) = true := by
    refine List.all_eq_true.mpr fun e cached => ?_
    obtain ⟨n, sum, _⟩ := (small e.gfn e (indexed.find?_of_mem cached)).references?_eq
    rw [sum]
    rfl
  rw [makeRoom_eq indexed]
  split
  · rw [cleanUp, indexed.size?_eq, Store.unused?, if_pos summed]
    exact ⟨_, rfl⟩
  · exact ⟨m, rfl⟩

end Machine

end ForeignPages
