import ForeignPages.Proofs.GuardCount
import ForeignPages.Proofs.HandleIndex
import ForeignPages.Proofs.SessionReplies

namespace ForeignPages

variable {World Driver Probe Page : Type} {host : Host World Driver Probe Page}

/-- A cleanup takes away the key of every page that it evicts, and leaves the keys of all others alone. -/
theorem Machine.makeRoom_key {m : Machine World Driver Probe Page} {gfn : Gfn} {e : Entry Page}
    (host : Host World Driver Probe Page) (indexed : m.cache.store.Indexed)
    (found : m.cache.store.find? gfn = some e) :
    (m.makeRoom host).2.cache.store.find? gfn = none ∧ (m.makeRoom host).2.cache.store.gfnOf? e.handle = none ∨
      (m.makeRoom host).2.cache.store.find? gfn = some e ∧
        (m.makeRoom host).2.cache.store.gfnOf? e.handle = m.cache.store.gfnOf? e.handle := by
  cases made : m.makeRoom host with
  | mk result room => cases result with
    | error fault =>
      obtain ⟨_, rfl⟩ := makeRoom_error indexed made
      exact .inr ⟨found, rfl⟩
    | ok _ =>
      obtain ⟨gfns, roomy, _⟩ := makeRoom_shrinks indexed made
      rw [roomy, Store.find?_removeAll]
      by_cases chosen : gfn ∈ gfns
      · refine .inl ⟨if_pos chosen, Option.not_isSome_iff_eq_none.mp fun isKnown => ?_⟩
        -- A page that is left with this handle would have been a second one with it before.
        obtain ⟨other, d, there, handle⟩ := ((indexed.removeAll gfns).known e.handle).mp isKnown
        rw [Store.find?_removeAll] at there
        split at there
        · cases there
        · next kept => exact kept (indexed.apart gfn other e d found there handle.symm ▸ chosen)
      · exact .inr ⟨(if_neg chosen).trans found, indexed.gfnOf?_removeAll found chosen⟩

namespace Session

/-- What the two indices of a session have in common, even if handles lead to other pages than those that
have them. -/
structure KnowsHandles (host : Host World Driver Probe Page) (s : Session World Driver Probe Page) : Prop where
  distinct : ∀ cache, s.cache = some cache → (cache.store.entries.map (·.handle)).Nodup
  /-- The known handles are those of the cached pages. -/
  keys : ∀ cache h, s.cache = some cache →
    (h ∈ cache.store.byHandle.keys ↔ h ∈ cache.store.entries.map (·.handle))
  sizes : ∀ cache, s.cache = some cache → cache.store.byGfn.size = cache.store.byHandle.size ∧
    cache.store.size? = .ok cache.store.entries.length
  /-- Neither do the sizes of the indices ever differ, nor is a page mapped that is cached already. -/
  unbroken : ∀ op f, (s.step host op).1 = .broken f → f ≠ .pageTaken ∧ ∀ pages handles, f ≠ .sizesDiffer pages handles
  /-- A page that is evicted takes its own key with it, and no other, wherever its handle leads. -/
  evicts : ∀ cache gfn e, s.cache = some cache → cache.store.find? gfn = some e →
    ((s.machine cache).makeRoom host).2.cache.store.find? gfn = none ∧
        ((s.machine cache).makeRoom host).2.cache.store.gfnOf? e.handle = none ∨
      ((s.machine cache).makeRoom host).2.cache.store.find? gfn = some e ∧
        ((s.machine cache).makeRoom host).2.cache.store.gfnOf? e.handle = cache.store.gfnOf? e.handle
  /-- After an operation that took a page away, its handle leads nowhere, unless another page has it now. -/
  forgets : ∀ op gfn e, s.cached? gfn = some e →
    (∀ other d, (s.step host op).2.cached? other = some d → d.handle ≠ e.handle) →
    (s.step host op).2.gfnOf? e.handle = none

/-- The indices of a cache never come apart: of all faults, only four have a cause. -/
theorem step_unbroken {s : Session World Driver Probe Page} {op : Op World Driver Probe} {f : Fault}
    (indexed : ∀ cache, s.cache = some cache → cache.store.Indexed) (broken : (s.step host op).1 = .broken f) :
    f = .additionOverflow ∨ f = .handleTaken ∨ (∃ gfn, f = .overReleased gfn) ∨ ∃ gfn, f = .guardMissing gfn := by
  obtain ⟨_, cache, _, present, outcome, _⟩ | ⟨_, _, _, outcome⟩ | ⟨_, _, g, _, _, outcome⟩ := step_broken broken
  · rcases Machine.acquire_broken (m := s.machine cache) (indexed cache present) outcome with same | same
    · exact .inl same
    · exact .inr (.inl same)
  · exact .inr (.inr (.inl (Machine.release_broken outcome)))
  · refine .inr (.inr (.inr ⟨g.gfn, ?_⟩))
    unfold Machine.releaseGuard at outcome
    split at outcome
    · cases outcome
    · split at outcome
      · cases outcome; rfl
      · cases outcome

end Session

/-- Whatever drivers do, and after any faults, the two indices of a session speak of the same pages, although
a handle may lead to a page that does not have it. -/
theorem Session.Reach.knows_handles {allowed : Session World Driver Probe Page → Op World Driver Probe → Prop}
    {world : World} {past : List (Op World Driver Probe × Reply)} {s : Session World Driver Probe Page}
    (reach : Session.Reach host allowed world past s) : s.KnowsHandles host where
  distinct _ present := (reach.indexed present).handles_nodup
  keys _ _ present := (reach.indexed present).handles_perm.mem_iff.symm
  sizes cache present := by
    have indexed := reach.indexed present
    have pages : cache.store.entries.length = cache.store.byGfn.size := List.length_map _
    have handles := indexed.handles_perm.length_eq
    unfold Index.keys at handles
    rw [List.length_map, List.length_map] at handles
    exact ⟨pages.symm.trans handles, indexed.size?_eq⟩
  unbroken op f broken := by
    rcases step_unbroken (fun _ => reach.indexed) broken with rfl | rfl | ⟨_, rfl⟩ | ⟨_, rfl⟩ <;> exact ⟨nofun, nofun⟩
  evicts cache gfn e present found :=
    Machine.makeRoom_key (m := s.machine cache) host (reach.indexed present) found
  forgets op gfn e _ nobody := by
    have next := (Machine.guarded_lasting host).step reach.guarded op (s.heeds_of_always op fun _ _ => trivial)
    exact next.gfnOf?_eq_none nobody

/-- A run in which the fifty-first page comes to lie at the address of the first, which nobody holds. When
room has to be made, the first page is evicted, and the next page runs into the second one. -/
def duplicatePair : List (Op Nat Unit Unit) :=
  .create (some ()) :: (List.range 50).map (fun n => .acquire ⟨UInt64.ofNat n⟩) ++
    [.release (recycled.address 0), .acquire ⟨50⟩, .setLimit 50, .acquire ⟨51⟩]

/-- The page that is evicted takes its handle along, and the handle of the next one leads to a page that is not
cached. -/
theorem knows_handles_duplicatePair :
    unmappings (Session.run recycled (.start 0) duplicatePair).journal = [51, 0, 50] ∧
      (Session.run recycled (.start 0) duplicatePair).gfnOf? (recycled.address 0) = none ∧
      (Session.run recycled (.start 0) duplicatePair).gfnOf? (recycled.address 1) = some ⟨51⟩ ∧
      ((Session.run recycled (.start 0) duplicatePair).cached? ⟨51⟩).isNone = true ∧
      (Session.run recycled (.start 0) duplicatePair).KnowsHandles recycled := by
  have begun : Session.Reach recycled (fun _ _ => True) 0 [] (.start 0) := .start
  have permitted : (Session.start 0).Permits recycled (fun _ _ => True) duplicatePair := by decide +kernel
  obtain ⟨_, reach⟩ := begun.run permitted
  exact ⟨by decide +kernel, by decide +kernel, by decide +kernel, by decide +kernel, reach.knows_handles⟩

end ForeignPages
