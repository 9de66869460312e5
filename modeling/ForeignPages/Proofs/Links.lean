import ForeignPages.Proofs.Holdings

namespace ForeignPages

variable {World Driver Probe Page : Type} {host : Host World Driver Probe Page}

/-- Two pages at different addresses. -/
def Host.Apart (host : Host World Driver Probe Page) (p q : Page) : Prop := host.address p ≠ host.address q

/-- Every page has the handle of its own address, and every known handle leads to the page with it. -/
structure Store.Linked (host : Host World Driver Probe Page) (s : Store Page) : Prop where
  addressed : ∀ gfn e, s.find? gfn = some e → e.handle = host.address e.page
  faithful : ∀ h gfn, s.gfnOf? h = some gfn → ∃ e, s.find? gfn = some e ∧ e.handle = h

namespace Store.Linked

theorem empty : (Store.empty : Store Page).Linked host := ⟨by simp, by simp⟩

theorem reorder {s t : Store Page} (linked : s.Linked host) (same : s.Reordered t) : t.Linked host where
  addressed gfn e found := linked.addressed gfn e (by rwa [same.find?_eq] at found)
  faithful h gfn known := by
    rw [same.gfnOf?_eq] at known
    simpa only [same.find?_eq] using linked.faithful h gfn known

/-- Both directions of the link: a handle leads to a number exactly if the page is cached under it. -/
theorem gfnOf?_iff {s : Store Page} (linked : s.Linked host) (indexed : s.Indexed) {h : Handle} {gfn : Gfn} :
    s.gfnOf? h = some gfn ↔ ∃ e, s.find? gfn = some e ∧ e.handle = h := by
  constructor
  · exact linked.faithful h gfn
  · rintro ⟨e, found, handle⟩
    obtain ⟨other, known⟩ := Option.isSome_iff_exists.mp ((indexed.known h).mpr ⟨gfn, e, found, handle⟩)
    obtain ⟨d, there, seen⟩ := linked.faithful h other known
    have same := indexed.apart other gfn d e there found (seen.trans handle.symm)
    rw [known, same]

theorem change {s : Store Page} {gfn : Gfn} {f : Entry Page → Entry Page} (linked : s.Linked host)
    (keeps : ∀ e, s.find? gfn = some e → (f e).handle = e.handle ∧ (f e).page = e.page) :
    (s.change gfn f).Linked host where
  addressed other e found := by
    rw [find?_change] at found
    split at found
    · next same =>
      obtain ⟨old, atOld, rfl⟩ := Option.map_eq_some_iff.mp found
      obtain ⟨handle, page⟩ := keeps old (same ▸ atOld)
      rw [handle, page]
      exact linked.addressed other old atOld
    · exact linked.addressed other e found
  faithful h other known := by
    obtain ⟨e, found, handle⟩ := linked.faithful h other known
    rw [find?_change]
    split
    · next same => exact ⟨f e, by rw [found]; rfl, ((keeps e (same ▸ found)).1).trans handle⟩
    · exact ⟨e, found, handle⟩

/-- A page leaves together with the key of its handle, so no key is left that leads to nothing. -/
theorem remove {s : Store Page} (gfn : Gfn) (linked : s.Linked host) : (s.remove gfn).2.Linked host := by
  cases atGfn : s.find? gfn with
  | none => rw [remove_of_missing atGfn]; exact linked
  | some e =>
    refine ⟨fun other d found => ?_, fun h other known => ?_⟩
    · rw [find?_remove] at found
      split at found
      · cases found
      · exact linked.addressed other d found
    · rw [gfnOf?_remove atGfn] at known
      split at known
      · cases known
      · next different =>
        obtain ⟨d, found, handle⟩ := linked.faithful h other known
        have elsewhere : other ≠ gfn := by
          rintro rfl
          rw [atGfn] at found
          cases found
          exact different handle.symm
        exact ⟨d, by rw [find?_remove, if_neg elsewhere, found], handle⟩

theorem removeAll {s : Store Page} (gfns : List Gfn) (linked : s.Linked host) : (s.removeAll gfns).2.Linked host :=
  removeAll_induction (fun _ gfn held => held.remove gfn) linked gfns

/-- A page under a handle of its own hides no other. -/
theorem insert_of_new {s : Store Page} {e : Entry Page} (linked : s.Linked host) (new : s.gfnOf? e.handle = none)
    (absent : s.find? e.gfn = none) (addressed : e.handle = host.address e.page) :
    (s.insert e).2.Linked host where
  addressed other d found := by
    rw [find?_insert_of_new new] at found
    split at found
    · cases found; exact addressed
    · exact linked.addressed other d found
  faithful h other known := by
    rw [gfnOf?_insert] at known
    rw [find?_insert_of_new new]
    split at known
    · next same => cases known; exact ⟨e, if_pos rfl, same.symm⟩
    · obtain ⟨d, found, handle⟩ := linked.faithful h other known
      have elsewhere : other ≠ e.gfn := by
        rintro rfl
        rw [absent] at found
        cases found
      exact ⟨d, by rw [if_neg elsewhere, found], handle⟩

end Store.Linked

/-- Counters do not matter to the handles. -/
theorem Cache.Recounts.linked {c d : Cache Driver Probe Page} (recounts : c.Recounts d)
    (linked : c.store.Linked host) : d.store.Linked host := by
  rcases recounts with rfl | ⟨_, f, rfl, keeps⟩
  · exact linked
  · refine linked.change fun e _ => ?_
    obtain ⟨refs, guards, same⟩ := keeps e
    rw [same]
    exact ⟨rfl, rfl⟩

/-- A cache that has no pages while it has no driver. -/
def Cache.Driverless (c : Cache Driver Probe Page) : Prop :=
  c.driver = none → ∀ gfn, c.store.find? gfn = none

theorem Cache.Recounts.driverless {c d : Cache Driver Probe Page} (recounts : c.Recounts d)
    (empty : c.Driverless) : d.Driverless := by
  intro unbound gfn
  have missing := empty (recounts.driver_eq ▸ unbound) gfn
  obtain same | ⟨e, _, _, found, _⟩ := recounts.find?_eq gfn
  · rw [same, missing]
  · rw [missing] at found
    cases found

namespace Machine

/-- The handle of a page that is mapped apart from all cached ones is not known yet. -/
theorem MapsApart.unknown {m : Machine World Driver Probe Page} {gfn : Gfn} {room : Machine World Driver Probe Page}
    {page : Page} (calm : m.MapsApart host.Apart host gfn) (answers : m.Answers host gfn room page)
    (indexed : room.cache.store.Indexed) (linked : room.cache.store.Linked host) :
    room.cache.store.gfnOf? (host.address page) = none := by
  refine Option.eq_none_iff_forall_ne_some.mpr fun some known => ?_
  obtain ⟨other, e, found, handle⟩ := (indexed.known _).mp (Option.isSome_of_eq_some known)
  have far : host.address e.page ≠ host.address page := calm room page answers other e found
  exact far ((linked.addressed other e found).symm.trans handle)

/-- An acquisition under a driver that maps apart keeps the handles right. -/
theorem Acquired.linked {m : Machine World Driver Probe Page} {gfn : Gfn} {holder : Holder} {outcome : Outcome Lease}
    {cache : Cache Driver Probe Page} (acquired : m.Acquired host gfn holder outcome cache)
    (indexed : m.cache.store.Indexed) (calm : m.MapsApart host.Apart host gfn) (linked : m.cache.store.Linked host) :
    cache.store.Linked host := by
  cases acquired with
  | failed _ roomy =>
    obtain ⟨gfns, rfl, _⟩ := roomy
    exact linked.removeAll gfns
  | touched found _ _ =>
    refine linked.change fun e again => ?_
    cases Option.some.inj (found.symm.trans again)
    exact ⟨rfl, rfl⟩
  | pinned found _ room =>
    refine linked.change fun e again => ?_
    cases Option.some.inj (found.symm.trans again)
    exact ⟨(Entry.pin?_keeps room).2.1, (Entry.pin?_keeps room).2.2.1⟩
  | placed answers _ unknown =>
    obtain ⟨gfns, roomy, _⟩ := answers.shrinks indexed
    have kept : _ := linked.removeAll gfns
    have missing := answers.missing indexed
    rw [roomy] at unknown missing ⊢
    exact kept.insert_of_new unknown missing rfl
  | aliased answers _ known =>
    obtain ⟨gfns, roomy, _⟩ := answers.shrinks indexed
    have unknown := calm.unknown answers (roomy ▸ indexed.removeAll gfns) (roomy ▸ linked.removeAll gfns)
    rw [unknown] at known
    cases known

/-- So does every other kind of work on a cache. -/
theorem linked_lasting (host : Host World Driver Probe Page) :
    Lasting host (fun m gfn => m.MapsApart host.Apart host gfn) (fun m _ => m.cache.store.Linked host)
      (fun _ => True) where
  start := trivial
  unbound _ _ _ _ := .empty
  guards linked _ := linked
  reorder linked same := linked.reorder same
  retune linked tuned := tuned.store ▸ linked
  bind driver _ _ := by rw [bind_store]; exact .empty
  destroy _ _ := trivial
  acquire gfn holder indexed calm linked :=
    (acquire_acquired host indexed gfn holder).linked indexed calm linked
  release h _ linked := (release_recounts _ h).linked linked
  releaseGuard _ linked := (releaseGuard_recounts _ _).linked linked

/-- Without a driver no page comes. -/
theorem Acquired.driverless {m : Machine World Driver Probe Page} {gfn : Gfn} {holder : Holder}
    {outcome : Outcome Lease} {cache : Cache Driver Probe Page} (acquired : m.Acquired host gfn holder outcome cache)
    (indexed : m.cache.store.Indexed) (empty : m.cache.Driverless) : cache.Driverless := by
  intro unbound other
  cases acquired with
  | failed _ roomy =>
    obtain ⟨gfns, rfl, _⟩ := roomy
    rw [Store.find?_removeAll, empty unbound other, ite_self]
  | touched found given _ =>
    obtain ⟨_, next, _, rfl⟩ := Cache.tick?_eq_some given
    rw [empty unbound gfn] at found
    cases found
  | pinned found given _ =>
    obtain ⟨_, next, _, rfl⟩ := Cache.tick?_eq_some given
    rw [empty unbound gfn] at found
    cases found
  | placed answers given _ =>
    obtain ⟨_, next, _, rfl⟩ := Cache.tick?_eq_some given
    obtain ⟨gfns, roomy, _⟩ := answers.shrinks indexed
    obtain ⟨driver, _, bound, _⟩ := answers
    rw [roomy] at unbound
    cases bound.symm.trans unbound
  | aliased answers given _ =>
    obtain ⟨_, next, _, rfl⟩ := Cache.tick?_eq_some given
    obtain ⟨gfns, roomy, _⟩ := answers.shrinks indexed
    obtain ⟨driver, _, bound, _⟩ := answers
    rw [roomy] at unbound
    cases bound.symm.trans unbound

/-- A cache without a driver stays empty, whatever its callers try. -/
theorem driverless_lasting (host : Host World Driver Probe Page) :
    Lasting host (fun _ _ => True) (fun m _ => m.cache.Driverless) (fun _ => True) where
  start := trivial
  unbound _ _ _ _ _ _ := rfl
  guards empty _ := empty
  reorder empty same unbound gfn := (same.find?_eq gfn).trans (empty unbound gfn)
  retune empty tuned unbound gfn := by
    rw [tuned.store]
    exact empty (tuned.driver.symm.trans unbound) gfn
  bind driver _ _ unbound := nomatch unbound
  destroy _ _ := trivial
  acquire gfn holder indexed _ empty :=
    (acquire_acquired host indexed gfn holder).driverless indexed empty
  release h _ empty := (release_recounts _ h).driverless empty
  releaseGuard _ empty := (releaseGuard_recounts _ _).driverless empty

end Machine

end ForeignPages
