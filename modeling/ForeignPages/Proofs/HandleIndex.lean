import ForeignPages.Proofs.Accounting
import ForeignPages.Proofs.Links

namespace ForeignPages

variable {World Driver Probe Page : Type} {host : Host World Driver Probe Page}

namespace Session

/-- If the operation maps a page, it comes to lie apart from all pages that are cached at that moment. -/
def MapsApart (host : Host World Driver Probe Page) (s : Session World Driver Probe Page)
    (op : Op World Driver Probe) : Prop :=
  s.Heeds (fun m gfn => m.MapsApart host.Apart host gfn) op

/-- What the numbers and the handles of a session say about each other. -/
structure InverseIndices (host : Host World Driver Probe Page) (s : Session World Driver Probe Page) : Prop where
  keyed : ∀ gfn e, s.cached? gfn = some e → e.gfn = gfn
  /-- A handle leads to a number exactly if the page is cached under that handle. -/
  inverse : ∀ h gfn, s.gfnOf? h = some gfn ↔ ∃ e, s.cached? gfn = some e ∧ e.handle = h
  apart : ∀ gfn other e f, s.cached? gfn = some e → s.cached? other = some f → e.handle = f.handle → gfn = other
  /-- The handle of a page that was given back leads nowhere until its address is mapped again. -/
  forgotten : ∀ newer page older, s.journal = newer ++ .unmapped page :: older →
    (∀ act ∈ newer, ∀ again, act.mapped? = some again → host.address again ≠ host.address page) →
    s.gfnOf? (host.address page) = none
  /-- A cache without a driver is empty, and so are both indices. -/
  driverless : ∀ cache, s.cache = some cache → cache.driver = none → cache.store.size? = .ok 0 ∧
    (∀ gfn, s.cached? gfn = none) ∧ ∀ h, s.gfnOf? h = none

end Session

/-- The index of handles is right in every session that such a run leads to. -/
theorem Session.Reach.linked {world : World} {past : List (Op World Driver Probe × Reply)}
    {s : Session World Driver Probe Page} (reach : Session.Reach host (Session.MapsApart host) world past s) :
    s.Sustains (fun m _ => m.cache.store.Linked host) (fun _ => True) :=
  (Machine.linked_lasting host).reach (fun _ _ far => far) reach

/-- A handle leads to a page if and only if that page is cached under it. -/
theorem Session.Reach.gfnOf?_iff {world : World} {past : List (Op World Driver Probe × Reply)}
    {s : Session World Driver Probe Page} (reach : Session.Reach host (Session.MapsApart host) world past s)
    (h : Handle) (gfn : Gfn) : s.gfnOf? h = some gfn ↔ ∃ e, s.cached? gfn = some e ∧ e.handle = h := by
  have linked := reach.linked
  cases present : s.cache with
  | none => simp [gfnOf?, cached?, present]
  | some cache =>
    simp only [Sustains, present] at linked
    simp only [gfnOf?, cached?, present, Option.bind_some]
    exact linked.2.gfnOf?_iff linked.1

/-- A handle whose page was given back leads nowhere until another page comes to its address. -/
theorem Session.Reach.forgotten {world : World} {past : List (Op World Driver Probe × Reply)}
    {s : Session World Driver Probe Page} {newer older : List (Act Driver Probe Page)} {page : Page}
    (reach : Session.Reach host (Session.MapsApart host) world past s)
    (split : s.journal = newer ++ .unmapped page :: older)
    (since : ∀ act ∈ newer, ∀ again, act.mapped? = some again → host.address again ≠ host.address page) :
    s.gfnOf? (host.address page) = none := by
  -- A cached page under that handle would be one that the journal still holds at this address, and
  -- the journal holds only pages that lie elsewhere.
  have ledger : Ledger host.Apart s.journal s.holdings := reach.ledger fun _ _ far => far
  have far := (split ▸ ledger).apart_of_unmapped (fun _ _ => Ne.symm)
    fun act member again mapped => (since act member again mapped).symm
  refine Option.eq_none_iff_forall_ne_some.mpr fun gfn known => ?_
  obtain ⟨e, found, handle⟩ := (reach.gfnOf?_iff _ gfn).mp known
  obtain ⟨cache, present, found⟩ := cached?_eq_some.mp found
  have linked := reach.linked
  simp only [Sustains, present] at linked
  have member : e.holding ∈ s.holdings := by
    simp only [holdings, present]
    exact List.mem_map_of_mem (Store.mem_entries.mpr ⟨gfn, found⟩)
  exact far e.holding member (handle.symm.trans (linked.2.addressed gfn e found))

/-- A cache without a driver has no page, and knows no handle. -/
theorem Session.Reach.driverless {world : World} {past : List (Op World Driver Probe × Reply)}
    {s : Session World Driver Probe Page} {cache : Cache Driver Probe Page}
    (reach : Session.Reach host (Session.MapsApart host) world past s) (present : s.cache = some cache)
    (unbound : cache.driver = none) :
    cache.store.size? = .ok 0 ∧ (∀ gfn, s.cached? gfn = none) ∧ ∀ h, s.gfnOf? h = none := by
  have empty := (Machine.driverless_lasting host).always reach
  simp only [Sustains, present] at empty
  have missing : ∀ gfn, cache.store.find? gfn = none := empty.2 unbound
  have nothing : cache.store.entries = [] := by
    refine List.eq_nil_iff_forall_not_mem.mpr fun e member => ?_
    obtain ⟨gfn, found⟩ := Store.mem_entries.mp member
    rw [missing gfn] at found
    cases found
  have uncached : ∀ gfn, s.cached? gfn = none := by
    intro gfn
    simp only [cached?, present]
    exact missing gfn
  refine ⟨by rw [empty.1.size?_eq, nothing]; rfl, uncached, fun h => ?_⟩
  refine Option.eq_none_iff_forall_ne_some.mpr fun gfn known => ?_
  obtain ⟨e, found, _⟩ := (reach.gfnOf?_iff h gfn).mp known
  rw [uncached gfn] at found
  cases found

/-- Both indices agree in every reachable session, over all evictions, failed acquisitions, drivers and
reused addresses. -/
theorem Session.Reach.inverse_indices {world : World} {past : List (Op World Driver Probe × Reply)}
    {s : Session World Driver Probe Page} (reach : Session.Reach host (Session.MapsApart host) world past s) :
    s.InverseIndices host where
  keyed gfn e found := by
    obtain ⟨cache, present, found⟩ := cached?_eq_some.mp found
    have linked := reach.linked
    simp only [Sustains, present] at linked
    exact linked.1.keyed gfn e found
  inverse := reach.gfnOf?_iff
  apart gfn other e f found found' same := by
    have known := (reach.gfnOf?_iff e.handle gfn).mpr ⟨e, found, rfl⟩
    have known' := (reach.gfnOf?_iff e.handle other).mpr ⟨f, found', same.symm⟩
    exact Option.some.inj (known.symm.trans known')
  forgotten _ _ _ split since := reach.forgotten split since
  driverless _ present unbound := reach.driverless present unbound

/-- An outside whose pages share fifty addresses, one after another. -/
def recycled : Host Nat Unit Unit Nat :=
  { shelf with address := fun page => ⟨UInt64.ofNat (4096 * (page % 50 + 1))⟩ }

/-- A run that fills a cache up to its limit, so that the first page has to make room for another one,
which comes to lie at its address. -/
def reusedAddress : List (Op Nat Unit Unit) :=
  [.create (some ()), .setLimit 50] ++ (List.range 50).map (fun n => .acquire ⟨UInt64.ofNat n⟩) ++
    [.release (recycled.address 0), .acquire ⟨50⟩]

/-- The address of the page that was evicted leads to the one that came there. -/
theorem inverse_indices_reusedAddress :
    unmappings (Session.run recycled (.start 0) reusedAddress).journal = [0] ∧
      (Session.run recycled (.start 0) reusedAddress).gfnOf? (recycled.address 0) = some ⟨50⟩ ∧
      (Session.run recycled (.start 0) reusedAddress).InverseIndices recycled := by
  have begun : Session.Reach recycled (Session.MapsApart recycled) 0 [] (.start 0) := .start
  have permitted : (Session.start 0).Permits recycled (Session.MapsApart recycled) reusedAddress := by
    unfold Session.MapsApart
    decide +kernel
  obtain ⟨_, reach⟩ := begun.run permitted
  exact ⟨by decide +kernel, by decide +kernel, reach.inverse_indices⟩

end ForeignPages
