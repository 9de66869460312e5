import ForeignPages.Proofs.GuardCount
import ForeignPages.Proofs.RecencySteps
import ForeignPages.Proofs.ReferenceBalance
import ForeignPages.Proofs.SessionReplies
import ForeignPages.Proofs.Shelf

namespace ForeignPages

variable {World Driver Probe Page : Type} {host : Host World Driver Probe Page}

/-- The counter for a kind of holder. -/
def Entry.count (e : Entry Page) : Holder → UInt32
  | .handle => e.refs
  | .guard => e.guards

theorem Entry.pin?_of_lt {e : Entry Page} {holder : Holder} (fits : (e.count holder).toNat + 1 < 2 ^ 32) :
    ∃ pinned, e.pin? holder = some pinned := by
  cases holder with
  | handle => exact ⟨{ e with refs := e.refs + 1 }, congrArg (Option.map _) (if_pos fits)⟩
  | guard => exact ⟨{ e with guards := e.guards + 1 }, congrArg (Option.map _) (if_pos fits)⟩

/-- The references that a cache reports for a page are those of both kinds, if they fit one word. -/
theorem Cache.references?_iff {c : Cache Driver Probe Page} {gfn : Gfn} {e : Entry Page} {n : UInt32}
    (found : c.store.find? gfn = some e) :
    c.references? gfn = .ok (some n) ↔ n.toNat = e.refs.toNat + e.guards.toNat := by
  unfold references?
  rw [found, ← add32?_eq_some, ← Entry.references?]
  dsimp only
  cases e.references? <;> simp

namespace Machine

theorem acquire_of_found {m : Machine World Driver Probe Page} {gfn : Gfn} {e : Entry Page}
    (host : Host World Driver Probe Page) {driver : Driver} (bound : m.cache.driver = some driver)
    (found : m.cache.store.find? gfn = some e) (holder : Holder) :
    m.acquire host gfn holder = m.acquireCached host gfn e holder := by
  simp only [acquire, bound, found]

/-- Where its counters have room, a cached page is handed out under its handle, and nothing passes outside. -/
theorem acquireCached_of_fits {m : Machine World Driver Probe Page} {e : Entry Page}
    (host : Host World Driver Probe Page) (gfn : Gfn) (holder : Holder) (runs : m.cache.clock.toNat + 1 < 2 ^ 64)
    (fits : (e.count holder).toNat + 1 < 2 ^ 32) :
    (m.acquireCached host gfn e holder).1 = .done ⟨e.handle, host.size e.page m.world⟩ ∧
      (m.acquireCached host gfn e holder).2.journal = m.journal := by
  obtain ⟨next, _, given⟩ := Cache.tick?_of_lt runs
  have same : ({ e with lastUse := m.cache.clock } : Entry Page).count holder = e.count holder := by
    cases holder <;> rfl
  obtain ⟨pinned, room⟩ := Entry.pin?_of_lt (e := { e with lastUse := m.cache.clock }) (same ▸ fits)
  unfold acquireCached
  rw [given]
  dsimp only
  rw [room]
  exact ⟨rfl, rfl⟩

theorem releaseGuard_journal (m : Machine World Driver Probe Page) (gfn : Gfn) :
    (m.releaseGuard gfn).2.journal = m.journal := by
  unfold releaseGuard
  split
  · rfl
  · split <;> rfl

/-- A release moves no page. At most it tells of itself. -/
theorem release_journal (m : Machine World Driver Probe Page) (h : Handle) :
    (m.release h).2.journal = m.journal ∨ ∃ event, (m.release h).2.journal = .told event :: m.journal := by
  unfold release
  split
  · exact .inl rfl
  · split
    · exact .inl rfl
    · split
      · split
        · exact .inl rfl
        · exact .inr ⟨_, rfl⟩
      · exact .inl rfl

end Machine

namespace Session

/-- What holds of a session between the references to its pages and everything that happened since the
first of the moments. -/
structure HoldsPages (host : Host World Driver Probe Page) (moments : List (Moment World Driver Probe Page))
    (s : Session World Driver Probe Page) : Prop where
  /-- A page counts the references that were acquired through its handle since it was mapped, and were
  not released. -/
  balanced : ∀ gfn e, s.cached? gfn = some e →
    e.refs.toNat + (sinceMapped host gfn moments).countP (Moment.releases gfn e.handle) =
      (sinceMapped host gfn moments).countP (Moment.acquires host gfn)
  /-- Together with the live guards these are all references to the page. -/
  total : ∀ cache gfn e n, s.cache = some cache → s.cached? gfn = some e →
    (cache.references? gfn = .ok (some n) ↔ n.toNat = e.refs.toNat + s.guards.values.countP (·.gfn = gfn))
  /-- No other operation changes that count. -/
  steady : ∀ op gfn e d, s.cached? gfn = some e → (s.step host op).2.cached? gfn = some d → d.refs ≠ e.refs →
    Moment.acquires host gfn ⟨s, op⟩ = true ∨ Moment.releases gfn e.handle ⟨s, op⟩ = true
  /-- A held page leaves only with all others. -/
  pinned : ∀ op gfn e, s.cached? gfn = some e → e.refs ≠ 0 ∨ e.guards ≠ 0 → op.ends = false →
    ∃ d, (s.step host op).2.cached? gfn = some d ∧ d.handle = e.handle ∧ d.page = e.page
  /-- A cached page is acquired again under the same handle, and the driver is not asked. -/
  again : ∀ cache gfn e, s.cache = some cache → s.cached? gfn = some e → cache.clock.toNat + 1 < 2 ^ 64 →
    (e.refs.toNat + 1 < 2 ^ 32 → (s.step host (.acquire gfn)).1 = .handle e.handle ∧
      (s.step host (.acquire gfn)).2.journal = s.journal) ∧
    ∀ name, e.guards.toNat + 1 < 2 ^ 32 → ∃ size, (s.step host (.get gfn name)).1 = .lease ⟨e.handle, size⟩ ∧
      (s.step host (.get gfn name)).2.journal = s.journal
  /-- A release changes at most one counter of the page with the handle. No page is mapped, given back or
  used more recently than before. -/
  apart : ∀ h, (∀ gfn, (s.step host (.release h)).2.cached? gfn =
      if s.gfnOf? h = some gfn then (s.cached? gfn).map Entry.giveBack else s.cached? gfn) ∧
    (∀ other, (s.step host (.release h)).2.gfnOf? other = s.gfnOf? other) ∧
    ((s.step host (.release h)).2.journal = s.journal ∨
      ∃ event, (s.step host (.release h)).2.journal = .told event :: s.journal)
  /-- A page that is acquired stays under its handle, until more references were released through it than
  were acquired since. -/
  kept : ∀ gfn h later t, s.MapsApart host (.acquire gfn) → (s.step host (.acquire gfn)).1 = .handle h →
    Course host (MapsApart host) (s.step host (.acquire gfn)).2 later t → (∀ moment ∈ later, moment.op.ends = false) →
    (∀ part, part <:+ later → part.countP (Moment.releases gfn h) ≤ part.countP (Moment.acquires host gfn)) →
    ∃ e, t.cached? gfn = some e ∧ e.handle = h ∧ e.refs ≠ 0

/-- A page that is acquired again has the same handle, and no driver is asked for it. -/
theorem acquire_again {s : Session World Driver Probe Page} {cache : Cache Driver Probe Page} {gfn : Gfn}
    {driver : Driver} {e : Entry Page} (present : s.cache = some cache) (bound : cache.driver = some driver)
    (found : s.cached? gfn = some e) (runs : cache.clock.toNat + 1 < 2 ^ 64) (fits : e.refs.toNat + 1 < 2 ^ 32) :
    (s.step host (.acquire gfn)).1 = .handle e.handle ∧ (s.step host (.acquire gfn)).2.journal = s.journal := by
  rw [cached?, present] at found
  have hit := (s.machine cache).acquire_of_found host bound found .handle
  obtain ⟨done, journal⟩ := (s.machine cache).acquireCached_of_fits host gfn .handle runs fits
  simp only [step, onCache, present, hit, done]
  exact ⟨rfl, journal⟩

/-- The same holds for a guard. -/
theorem get_again {s : Session World Driver Probe Page} {cache : Cache Driver Probe Page} {gfn : Gfn}
    {driver : Driver} {e : Entry Page} (present : s.cache = some cache) (bound : cache.driver = some driver)
    (found : s.cached? gfn = some e) (name : String) (runs : cache.clock.toNat + 1 < 2 ^ 64)
    (fits : e.guards.toNat + 1 < 2 ^ 32) :
    ∃ size, (s.step host (.get gfn name)).1 = .lease ⟨e.handle, size⟩ ∧
      (s.step host (.get gfn name)).2.journal = s.journal := by
  rw [cached?, present] at found
  have hit := (s.machine cache).acquire_of_found host bound found .guard
  obtain ⟨done, journal⟩ := (s.machine cache).acquireCached_of_fits host gfn .guard runs fits
  refine ⟨host.size e.page s.world, ?_⟩
  cases acquired : (s.machine cache).acquireCached host gfn e .guard with
  | mk outcome m =>
    rw [acquired] at hit done journal
    cases done
    simp only [step, get, present, hit]
    refine ⟨rfl, ?_⟩
    cases s.guards.find? name with
    | none => exact journal
    | some old => exact (m.releaseGuard_journal old.gfn).trans journal

/-- The references through a handle change only when the page is acquired or its handle released. -/
theorem refs_steady {s : Session World Driver Probe Page} {gfn : Gfn} {op : Op World Driver Probe} {e d : Entry Page}
    (held : s.Sustains (fun m _ => m.cache.store.Linked host) (fun _ => True)) (found : s.cached? gfn = some e)
    (stays : (s.step host op).2.cached? gfn = some d) (changed : d.refs ≠ e.refs) :
    Moment.acquires host gfn ⟨s, op⟩ = true ∨ Moment.releases gfn e.handle ⟨s, op⟩ = true := by
  rcases step_of_cached held found op with ⟨gone, _⟩ | ⟨d', stayed, passes⟩
  · cases gone.symm.trans stays
  · cases stayed.symm.trans stays
    have moved := passes.refs
    cases taken : Moment.acquires host gfn ⟨s, op⟩ with
    | true => exact .inl rfl
    | false =>
      cases given : Moment.releases gfn e.handle ⟨s, op⟩ with
      | true => exact .inr rfl
      | false =>
        rw [taken, given] at moved
        exact absurd (UInt32.toNat_inj.mp (by simpa using moved)) changed

/-- A page in use stays through any operation that does not end its cache or driver. -/
theorem held_stays {s : Session World Driver Probe Page} {gfn : Gfn} {op : Op World Driver Probe} {e : Entry Page}
    (held : s.Sustains (fun m _ => m.cache.store.Linked host) (fun _ => True)) (found : s.cached? gfn = some e)
    (pinned : e.refs ≠ 0 ∨ e.guards ≠ 0) (lasts : op.ends = false) :
    ∃ d, (s.step host op).2.cached? gfn = some d ∧ d.handle = e.handle ∧ d.page = e.page := by
  rcases step_of_cached held found op with ⟨_, ends | free⟩ | ⟨d, stayed, passes⟩
  · exact absurd (lasts.symm.trans ends) Bool.false_ne_true
  · exact absurd free (Entry.references?_ne_zero pinned)
  · exact ⟨d, stayed, passes.handle, passes.page⟩

/-- Whoever holds a page keeps it as long as the releases of others match their acquisitions. -/
theorem Course.kept {gfn : Gfn} {first t : Session World Driver Probe Page}
    {later : List (Moment World Driver Probe Page)} {h : Handle} (course : Course host (MapsApart host) first later t)
    (held : first.Sustains (fun m _ => m.cache.store.Linked host) (fun _ => True))
    (acquired : ∃ e, first.cached? gfn = some e ∧ e.handle = h ∧ 1 ≤ e.refs.toNat)
    (lasts : ∀ moment ∈ later, moment.op.ends = false)
    (matched : ∀ part, part <:+ later → part.countP (Moment.releases gfn h) ≤ part.countP (Moment.acquires host gfn)) :
    ∃ e, t.cached? gfn = some e ∧ e.handle = h ∧
      later.countP (Moment.acquires host gfn) + 1 ≤ e.refs.toNat + later.countP (Moment.releases gfn h) := by
  induction course with
  | start =>
    obtain ⟨e, found, handle, positive⟩ := acquired
    exact ⟨e, found, handle, by simpa using positive⟩
  | @reorder later s cache store _ present same ih =>
    obtain ⟨e, found, rest⟩ := ih lasts matched
    refine ⟨e, ?_, rest⟩
    rw [cached?, present] at found
    exact (same.find?_eq gfn).trans found
  | @step later s op course _ ih =>
    obtain ⟨e, found, handle, count⟩ := ih (fun moment member => lasts moment (List.mem_cons_of_mem _ member))
      fun part suffix => matched part (suffix.trans (List.suffix_cons _ _))
    -- The releases before this one were matched, so the reference of the holder itself is left.
    have released := matched later (List.suffix_cons _ _)
    have some : e.refs ≠ 0 := by
      rintro zero
      rw [zero, UInt32.toNat_zero] at count
      omega
    have sustained := course.linked held
    rcases step_of_cached sustained found op with ⟨_, ends | free⟩ | ⟨d, stayed, passes⟩
    · have goes := lasts ⟨s, op⟩ List.mem_cons_self
      exact absurd (goes.symm.trans ends) Bool.false_ne_true
    · exact absurd free (Entry.references?_ne_zero (.inl some))
    · refine ⟨d, stayed, passes.handle.trans handle, ?_⟩
      have moved := passes.refs
      rw [handle] at moved
      rw [countP_cons_toNat, countP_cons_toNat]
      omega

/-- A handle that was handed out leads to a page that counts a reference. -/
theorem acquired_found {s : Session World Driver Probe Page} {gfn : Gfn} {h : Handle}
    (indexed : ∀ cache, s.cache = some cache → cache.store.Indexed)
    (done : (s.step host (.acquire gfn)).1 = .handle h) :
    ∃ e, (s.step host (.acquire gfn)).2.cached? gfn = some e ∧ e.handle = h ∧ 1 ≤ e.refs.toNat := by
  obtain ⟨cache, present, answer⟩ := of_onCache done nofun
  have acquired := Machine.acquire_acquired host (m := s.machine cache) (indexed cache present) gfn .handle
  cases run : (s.machine cache).acquire host gfn .handle with
  | mk outcome m =>
    rw [run] at acquired answer
    cases outcome with
    | done lease =>
      cases answer
      obtain ⟨d, found, handle, counted⟩ := acquired.find?_of_done
      refine ⟨d, ?_, handle, counted⟩
      simp only [step, onCache, present, run]
      exact found
    | refused e => cases answer
    | broken f => cases answer

end Session

/-- Where nothing is cached, the index of handles is right. -/
theorem Session.Reach.linked_of_fresh {world : World} {past : List (Op World Driver Probe × Reply)}
    {first : Session World Driver Probe Page} (reach : Session.Reach host (fun _ _ => True) world past first)
    (fresh : first.Fresh) : first.Sustains (fun m _ => m.cache.store.Linked host) (fun _ => True) := by
  have guarded := reach.guarded
  cases present : first.cache with
  | none =>
    simp only [Sustains, present] at guarded ⊢
    exact guarded
  | some cache =>
    have indexed := reach.indexed present
    simp only [Sustains, present]
    have missing : ∀ gfn, cache.store.find? gfn = none := by
      intro gfn
      have uncached := fresh gfn
      rwa [cached?, present] at uncached
    refine ⟨indexed, fun gfn e found => ?_, fun h gfn known => ?_⟩
    · cases (missing gfn).symm.trans found
    · obtain ⟨other, e, found, _⟩ := (indexed.known h).mp (Option.isSome_of_eq_some known)
      cases (missing other).symm.trans found

/-- In every run that starts with an empty cache, for instance when a driver has just been attached, and in
which no page is mapped to the address of a cached one, the references to the pages balance, and a page that
is held stays where it is. -/
theorem Session.Course.holds_pages {world : World} {past : List (Op World Driver Probe × Reply)}
    {first s : Session World Driver Probe Page} {moments : List (Moment World Driver Probe Page)}
    (reach : Session.Reach host (fun _ _ => True) world past first) (fresh : first.Fresh)
    (course : Session.Course host (Session.MapsApart host) first moments s) :
    s.HoldsPages host moments := by
  have start := reach.linked_of_fresh fresh
  have linked := course.linked start
  have reached := reach.followed (course.imp fun _ _ _ => trivial)
  refine ⟨fun gfn e => course.balanced start fresh, ?_, fun op gfn e d => refs_steady linked,
    fun op gfn e => held_stays linked, ?_, fun h => ⟨s.release_cached? host h, ?_⟩, ?_⟩
  · intro cache gfn e n present found
    have guarded := (sustains_of_cache reached.guarded present).2
    rw [cached?, present] at found
    rw [Cache.references?_iff found, guarded.counted gfn e found]
  · intro cache gfn e present found runs
    have driverless := (sustains_of_cache ((Machine.driverless_lasting host).always reached) present).2
    cases bound : cache.driver with
    | none =>
      rw [cached?, present] at found
      cases (driverless bound gfn).symm.trans found
    | some driver =>
      exact ⟨acquire_again present bound found runs, fun name => get_again present bound found name runs⟩
  · cases present : s.cache with
    | none =>
      simp only [Session.step, onCache, present, gfnOf?, Option.bind_none]
      exact ⟨fun _ => trivial, .inl trivial⟩
    | some cache =>
      simp only [Session.step, onCache, present, gfnOf?, Option.bind_some]
      exact ⟨(s.machine cache).release_gfnOf? h, (s.machine cache).release_journal h⟩
  · intro gfn h later t far done future lasts matched
    have after := (Machine.linked_lasting host).step linked (.acquire gfn) far
    obtain ⟨e, found, handle, count⟩ := future.kept after (acquired_found (fun _ => reached.indexed) done) lasts matched
    refine ⟨e, found, handle, fun zero => ?_⟩
    have released := matched later (List.suffix_refl later)
    rw [zero, UInt32.toNat_zero] at count
    omega

/-- A run in which the pages that a first driver left are given back by a second one, whose fifty pages
fill the cache. One of them makes room for another one, which comes to lie at its address. -/
def reboundDriver : List (Op Nat Unit Unit) :=
  .setLimit 50 :: (List.range 50).map (fun n => .acquire ⟨UInt64.ofNat n⟩) ++
    [.release (recycled.address 1), .acquire ⟨50⟩, .acquire ⟨50⟩, .get ⟨50⟩ "guard",
      .release (recycled.address 1)]

/-- The session in which the second driver is attached. -/
def rebound : Session Nat Unit Unit Nat :=
  ((Session.start 0).run recycled [.create (some ()), .acquire ⟨9⟩]).step recycled (.bind ()) |>.2

/-- Under the second driver the page counts one reference of each kind. -/
theorem holds_pages_reboundDriver :
    ((rebound.run recycled reboundDriver).cached? ⟨50⟩).map (fun e => (e.handle, e.refs, e.guards)) =
      some (recycled.address 1, 1, 1) ∧
    (rebound.run recycled reboundDriver).HoldsPages recycled (rebound.moments recycled reboundDriver) := by
  have begun : Session.Reach recycled (fun _ _ => True) 0 [] (.start 0) := .start
  have free : (Session.start 0).Permits recycled (fun _ _ => True)
      [.create (some ()), .acquire ⟨9⟩, .bind ()] := ⟨trivial, trivial, trivial, trivial⟩
  obtain ⟨_, reach⟩ := begun.run free
  have fresh : rebound.Fresh := Session.fresh_of_bind (by decide +kernel)
  have permitted : rebound.Permits recycled (Session.MapsApart recycled) reboundDriver := by
    unfold Session.MapsApart
    decide +kernel
  exact ⟨by decide +kernel, Session.Course.holds_pages reach fresh permitted.course⟩

end ForeignPages
