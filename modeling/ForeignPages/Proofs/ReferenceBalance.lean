import ForeignPages.Proofs.Courses
import ForeignPages.Proofs.HandleIndex
import ForeignPages.Proofs.References

namespace ForeignPages

variable {World Driver Probe Page : Type}

namespace Moment

/-- The page is acquired, and its handle is handed out. -/
def acquires (host : Host World Driver Probe Page) (gfn : Gfn) (t : Moment World Driver Probe Page) : Bool :=
  t.op.takes gfn (t.reply host)

/-- The handle is released, and finds the page with a reference that was acquired through a handle. -/
def releases (gfn : Gfn) (h : Handle) (t : Moment World Driver Probe Page) : Bool :=
  t.op.gives h && (t.session.cached? gfn).any fun e => e.refs ≠ 0

/-- The page is not cached before, and is cached afterwards. -/
def maps (host : Host World Driver Probe Page) (gfn : Gfn) (t : Moment World Driver Probe Page) : Bool :=
  (t.session.cached? gfn).isNone && ((t.after host).cached? gfn).isSome

end Moment

/-- The moments since a page was mapped the last time, with the one that mapped it. -/
def sinceMapped (host : Host World Driver Probe Page) (gfn : Gfn) :
    List (Moment World Driver Probe Page) → List (Moment World Driver Probe Page)
  | [] => []
  | t :: older => if t.maps host gfn then [t] else t :: sinceMapped host gfn older

theorem countP_cons_toNat {α : Type} (p : α → Bool) (a : α) (rest : List α) :
    (a :: rest).countP p = rest.countP p + (p a).toNat := by
  rw [List.countP_cons]
  cases p a <;> rfl

/-- The same page under the same handle, after a reference was taken or given back through it. -/
structure Entry.Passes (e d : Entry Page) (taken given : Bool) : Prop where
  handle : d.handle = e.handle
  page : d.page = e.page
  refs : d.refs.toNat + given.toNat = e.refs.toNat + taken.toNat

variable {host : Host World Driver Probe Page}

theorem Cache.Unguards.find?_of_found {c d : Cache Driver Probe Page} {gfn : Gfn} {e : Entry Page}
    (unguards : c.Unguards d) (found : c.store.find? gfn = some e) :
    ∃ guards, d.store.find? gfn = some { e with guards } := by
  rcases unguards with rfl | ⟨other, rfl⟩
  · exact ⟨e.guards, found⟩
  · rw [Store.find?_change, found]
    split
    · exact ⟨e.guards - 1, rfl⟩
    · exact ⟨e.guards, rfl⟩

theorem Cache.Unguards.find?_of_missing {c d : Cache Driver Probe Page} {gfn : Gfn}
    (unguards : c.Unguards d) (missing : c.store.find? gfn = none) : d.store.find? gfn = none := by
  rcases unguards with rfl | ⟨other, rfl⟩
  · exact missing
  · rw [Store.find?_change, missing]
    exact ite_self none

namespace Session

/-- An operation that neither acquires nor releases leaves the references alone that were taken through a
handle. -/
theorem passes_of_idle {op : Op World Driver Probe} {reply : Reply} {gfn : Gfn} {e d : Entry Page}
    (acquires : op.acquires? = none) (releases : op.releases? = none) (handle : d.handle = e.handle)
    (page : d.page = e.page) (refs : d.refs = e.refs) :
    e.Passes d (op.takes gfn reply) (op.gives e.handle && decide (e.refs ≠ 0)) := by
  rw [Op.takes_of_idle acquires, Op.gives_of_idle releases, Bool.false_and]
  exact ⟨handle, page, by rw [refs]⟩

/-- An acquisition counts a reference of the page that it is for, and of no other. -/
theorem acquired_passes {s : Session World Driver Probe Page} {op : Op World Driver Probe}
    {cache : Cache Driver Probe Page} {gfn : Gfn} {e : Entry Page} {d : Cache Driver Probe Page} {asked : Gfn}
    {holder : Holder} (asks : op.acquires? = some (asked, holder)) (indexed : cache.store.Indexed)
    (unguards : ((s.machine cache).acquire host asked holder).2.cache.Unguards d)
    (found : cache.store.find? gfn = some e) :
    d.store.find? gfn = none ∧ e.references? = some 0 ∨ ∃ after, d.store.find? gfn = some after ∧
      e.Passes after (op.takes gfn (.ofAcquired ((s.machine cache).acquire host asked holder).1 holder))
        (op.gives e.handle && decide (e.refs ≠ 0)) := by
  have takes := Op.takes_of_acquires asks ((s.machine cache).acquire host asked holder).1 gfn
  rw [Op.gives_of_acquires asks, Bool.false_and]
  have acquired := Machine.acquire_acquired host (m := s.machine cache) indexed asked holder
  rcases acquired.find?_of_found indexed found with ⟨gone, free⟩ | ⟨stayed, fails⟩ | ⟨hit, d, stayed, gains⟩
  · exact .inl ⟨unguards.find?_of_missing gone, free⟩
  · obtain ⟨guards, stored⟩ := unguards.find?_of_found stayed
    refine .inr ⟨{ e with guards }, stored, rfl, rfl, ?_⟩
    rw [takes]
    split
    · next hit => rw [(fails hit).taken_eq_zero, Bool.toNat_false]
    · rfl
  · obtain ⟨guards, stored⟩ := unguards.find?_of_found stayed
    refine .inr ⟨{ d with guards }, stored, gains.handle, gains.page, ?_⟩
    rw [takes, if_pos hit, Bool.toNat_false]
    exact gains.refs

/-- A release takes a reference of the page that its handle leads to, and of no other. -/
theorem released_passes {s : Session World Driver Probe Page} {reply : Reply} {cache : Cache Driver Probe Page}
    {gfn : Gfn} {e : Entry Page} {h : Handle} (indexed : cache.store.Indexed) (linked : cache.store.Linked host)
    (found : cache.store.find? gfn = some e) :
    ∃ d, ((s.machine cache).release h).2.cache.store.find? gfn = some d ∧
      e.Passes d ((Op.release h : Op World Driver Probe).takes gfn reply)
        ((Op.release h : Op World Driver Probe).gives e.handle && decide (e.refs ≠ 0)) := by
  have stored := (s.machine cache).release_find? h gfn
  rw [show (s.machine cache).cache.store.find? gfn = some e from found] at stored
  have known : (s.machine cache).cache.store.gfnOf? h = some gfn ↔ h = e.handle := by
    refine (linked.gfnOf?_iff indexed).trans ⟨?_, fun same => ⟨e, found, same.symm⟩⟩
    rintro ⟨d, there, handle⟩
    cases found.symm.trans there
    exact handle.symm
  have takes : (Op.release h : Op World Driver Probe).takes gfn reply = false := Op.takes_of_idle rfl gfn reply
  by_cases mine : h = e.handle
  · have gives : (Op.release h : Op World Driver Probe).gives e.handle = true := decide_eq_true mine
    rw [if_pos (known.mpr mine)] at stored
    rw [takes, gives, Bool.true_and]
    exact ⟨e.giveBack, stored, rfl, rfl, e.giveBack_refs⟩
  · have gives : (Op.release h : Op World Driver Probe).gives e.handle = false := decide_eq_false mine
    rw [if_neg fun leads => mine (known.mp leads)] at stored
    rw [takes, gives, Bool.false_and]
    exact ⟨e, stored, rfl, rfl, rfl⟩

/-- What one operation does to a cached page: it goes if nobody holds it or all goes, or its references move as the
operation says. -/
theorem Effect.find?_of_found {s : Session World Driver Probe Page} {op : Op World Driver Probe} {reply : Reply}
    {cache : Cache Driver Probe Page} {after : Option (Cache Driver Probe Page)} {gfn : Gfn} {e : Entry Page}
    (effect : s.Effect host op reply after) (present : s.cache = some cache) (indexed : cache.store.Indexed)
    (linked : cache.store.Linked host) (found : cache.store.find? gfn = some e) :
    (after.bind fun c => c.store.find? gfn) = none ∧ (op.ends = true ∨ e.references? = some 0) ∨
      ∃ d, (after.bind fun c => c.store.find? gfn) = some d ∧
        e.Passes d (op.takes gfn reply) (op.gives e.handle && decide (e.refs ≠ 0)) := by
  cases effect with
  | gone ends =>
    rcases ends with none | ends
    · cases none.symm.trans present
    · exact .inl ⟨rfl, .inl ends⟩
  | emptied ends empty _ =>
    refine .inl ⟨?_, .inl ends⟩
    rw [Option.bind_some, empty]
    exact Store.find?_empty gfn
  | settled same acquires releases store _ =>
    cases same.symm.trans present
    refine .inr ⟨e, ?_, passes_of_idle acquires releases rfl rfl rfl⟩
    rw [Option.bind_some, store]
    exact found
  | unguarded same acquires releases unguards =>
    cases same.symm.trans present
    obtain ⟨guards, stored⟩ := unguards.find?_of_found found
    exact .inr ⟨{ e with guards }, stored, passes_of_idle acquires releases rfl rfl rfl⟩
  | acquired same asks unguards =>
    cases same.symm.trans present
    rcases acquired_passes asks indexed unguards found with ⟨gone, free⟩ | stayed
    · exact .inl ⟨gone, .inr free⟩
    · exact .inr stayed
  | released same asked =>
    cases same.symm.trans present
    subst asked
    exact .inr (released_passes indexed linked found)

/-- A page that comes has the one reference that it came for. -/
theorem Effect.find?_of_missing {s : Session World Driver Probe Page} {op : Op World Driver Probe} {reply : Reply}
    {after : Option (Cache Driver Probe Page)} {gfn : Gfn} {d : Entry Page} (effect : s.Effect host op reply after)
    (indexed : ∀ cache, s.cache = some cache → cache.store.Indexed) (missing : s.cached? gfn = none)
    (found : (after.bind fun c => c.store.find? gfn) = some d) : d.refs.toNat = (op.takes gfn reply).toNat := by
  have absent : ∀ c, s.cache = some c → c.store.find? gfn = none := by
    intro c present
    rw [cached?, present] at missing
    exact missing
  cases effect with
  | gone => cases found
  | emptied _ empty _ =>
    rw [Option.bind_some, empty] at found
    cases found
  | settled present _ _ store _ =>
    rw [Option.bind_some, store, absent _ present] at found
    cases found
  | unguarded present _ _ unguards =>
    cases (unguards.find?_of_missing (absent _ present)).symm.trans found
  | @released c h present _ =>
    have stored := (s.machine c).release_find? h gfn
    rw [show (s.machine c).cache.store.find? gfn = none from absent c present, Option.map_none, ite_self] at stored
    cases stored.symm.trans found
  | @acquired c _ acquiredGfn holder present asks unguards =>
    have takes := Op.takes_of_acquires asks ((s.machine c).acquire host acquiredGfn holder).1 gfn
    have sound := indexed c present
    have acquired := Machine.acquire_acquired host (m := s.machine c) sound acquiredGfn holder
    cases there : ((s.machine c).acquire host acquiredGfn holder).2.cache.store.find? gfn with
    | none => cases (unguards.find?_of_missing there).symm.trans found
    | some e =>
      obtain ⟨guards, stored⟩ := unguards.find?_of_found there
      cases Option.some.inj (stored.symm.trans found)
      obtain ⟨same, refs, _⟩ := acquired.find?_of_missing sound (absent c present) there
      rw [takes, if_pos same]
      exact refs

/-- A page that is cached before an operation stays under its handle, and its references through handles
change only when one is acquired or released, or it leaves the cache, held only if all pages leave. -/
theorem step_of_cached {s : Session World Driver Probe Page} {gfn : Gfn} {e : Entry Page}
    (held : s.Sustains (fun m _ => m.cache.store.Linked host) (fun _ => True)) (found : s.cached? gfn = some e)
    (op : Op World Driver Probe) :
    (s.step host op).2.cached? gfn = none ∧ (op.ends = true ∨ e.references? = some 0) ∨
      ∃ d, (s.step host op).2.cached? gfn = some d ∧
        e.Passes d (Moment.acquires host gfn ⟨s, op⟩) (Moment.releases gfn e.handle ⟨s, op⟩) := by
  obtain ⟨cache, present, atGfn⟩ := cached?_eq_some.mp found
  obtain ⟨indexed, linked⟩ := sustains_of_cache held present
  have moved := (s.step_effect host op).find?_of_found present indexed linked atGfn
  have releases : Moment.releases gfn e.handle ⟨s, op⟩ = (op.gives e.handle && decide (e.refs ≠ 0)) := by
    rw [Moment.releases, found]
    rfl
  rw [releases]
  exact moved

theorem step_of_uncached {s : Session World Driver Probe Page} {gfn : Gfn} {d : Entry Page}
    (held : s.Sustains (fun m _ => m.cache.store.Linked host) (fun _ => True)) (missing : s.cached? gfn = none)
    (op : Op World Driver Probe) (found : (s.step host op).2.cached? gfn = some d) :
    d.refs.toNat = (Moment.acquires host gfn ⟨s, op⟩).toNat := by
  have indexed : ∀ cache, s.cache = some cache → cache.store.Indexed := fun cache present =>
    (sustains_of_cache held present).1
  exact (s.step_effect host op).find?_of_missing indexed missing found

end Session

/-- The index of handles is right all along such a course. -/
theorem Session.Course.linked {first s : Session World Driver Probe Page}
    {moments : List (Moment World Driver Probe Page)}
    (course : Session.Course host (Session.MapsApart host) first moments s)
    (held : first.Sustains (fun m _ => m.cache.store.Linked host) (fun _ => True)) :
    s.Sustains (fun m _ => m.cache.store.Linked host) (fun _ => True) :=
  (Machine.linked_lasting host).course (fun _ _ far => far) held course

/-- A page counts the acquisitions since it was mapped, except those that were released. -/
theorem Session.Course.balanced {first s : Session World Driver Probe Page}
    {moments : List (Moment World Driver Probe Page)}
    (course : Session.Course host (Session.MapsApart host) first moments s)
    (held : first.Sustains (fun m _ => m.cache.store.Linked host) (fun _ => True)) (fresh : first.Fresh) {gfn : Gfn}
    {e : Entry Page} (found : s.cached? gfn = some e) :
    e.refs.toNat + (sinceMapped host gfn moments).countP (Moment.releases gfn e.handle) =
      (sinceMapped host gfn moments).countP (Moment.acquires host gfn) := by
  induction course generalizing e with
  | start =>
    rw [fresh gfn] at found
    cases found
  | @reorder moments s cache store _ present same ih =>
    refine ih ?_
    rw [cached?, present]
    exact (same.find?_eq gfn).symm.trans found
  | @step moments s op course _ ih =>
    have sustained := course.linked held
    cases before : s.cached? gfn with
    | none =>
      -- The page was mapped just now, so this moment is all that counts.
      have maps : Moment.maps host gfn ⟨s, op⟩ = true := by
        rw [Moment.maps, before, show (Moment.after host ⟨s, op⟩).cached? gfn = some e from found]
        rfl
      have releases : Moment.releases gfn e.handle ⟨s, op⟩ = false := by
        rw [Moment.releases, before]
        exact Bool.and_false _
      have taken := step_of_uncached sustained before op found
      rw [sinceMapped, if_pos maps, countP_cons_toNat, countP_cons_toNat, releases, taken]
      simp
    | some old =>
      have maps : Moment.maps host gfn ⟨s, op⟩ = false := by
        rw [Moment.maps, before]
        rfl
      have counted := ih before
      rcases step_of_cached sustained before op with ⟨gone, _⟩ | ⟨d, stayed, passes⟩
      · cases gone.symm.trans found
      · cases Option.some.inj (stayed.symm.trans found)
        have moved := passes.refs
        rw [sinceMapped, maps, if_neg Bool.false_ne_true, countP_cons_toNat, countP_cons_toNat, passes.handle]
        omega

end ForeignPages
