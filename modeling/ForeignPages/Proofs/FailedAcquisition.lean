import ForeignPages.Proofs.Accounting
import ForeignPages.Proofs.GuardCount
import ForeignPages.Proofs.References
import ForeignPages.Proofs.SessionReplies

namespace ForeignPages

variable {World Driver Probe Page : Type} {host : Host World Driver Probe Page}

/-- A reply that brings no page. -/
def Reply.failed : Reply → Bool
  | .refused _ | .broken _ => true
  | _ => false

namespace Machine

/-- The driver answers an acquisition with a page at an address. -/
def AnswersAt (host : Host World Driver Probe Page) (m : Machine World Driver Probe Page) (gfn : Gfn)
    (h : Handle) : Prop :=
  ∃ room page, m.Answers host gfn room page ∧ host.address page = h

/-- A machine gets one answer to its question for a page. -/
theorem Answers.unique {m : Machine World Driver Probe Page} {gfn : Gfn}
    {room room' : Machine World Driver Probe Page} {page page' : Page} (answers : m.Answers host gfn room page)
    (again : m.Answers host gfn room' page') :
    room' = room ∧ page' = page := by
  obtain ⟨driver, counted, bound, _, made, count, called⟩ := answers
  obtain ⟨driver', counted', bound', _, made', count', called'⟩ := again
  cases Option.some.inj (bound.symm.trans bound')
  cases made.symm.trans made'
  cases Option.some.inj (count.symm.trans count')
  exact ⟨rfl, Except.ok.inj (called'.symm.trans called)⟩

/-- Without a collision, a failed acquisition leaves the handles of all pages where they lead. -/
theorem Acquired.gfnOf?_of_failed {m : Machine World Driver Probe Page} {gfn other : Gfn} {holder : Holder}
    {outcome : Outcome Lease} {cache : Cache Driver Probe Page} {e d : Entry Page}
    (acquired : m.Acquired host gfn holder outcome cache) (indexed : m.cache.store.Indexed)
    (failed : ∀ lease, outcome ≠ .done lease) (found : m.cache.store.find? other = some e)
    (stayed : cache.store.find? other = some d)
    (apart : outcome = .broken .handleTaken → ¬ m.AnswersAt host gfn e.handle) :
    cache.store.gfnOf? e.handle = m.cache.store.gfnOf? e.handle := by
  have shrunk : ∀ {room : Cache Driver Probe Page}, m.cache.Shrinks room → room.store.find? other = some d →
      room.store.gfnOf? e.handle = m.cache.store.gfnOf? e.handle := by
    rintro _ ⟨gfns, rfl, _⟩ there
    refine indexed.gfnOf?_removeAll found fun chosen => ?_
    rw [Store.find?_removeAll, if_pos chosen] at there
    cases there
  cases acquired with
  | failed _ roomy => exact shrunk roomy stayed
  | touched => rfl
  | pinned | placed => exact absurd rfl (failed _)
  | @aliased room page token owner ticked answers _ known =>
    have there : room.cache.store.find? other = some d :=
      (Store.find?_insert_of_known known other).symm.trans stayed
    have different : e.handle ≠ host.address page := fun same => apart rfl ⟨room, page, answers, same.symm⟩
    have redirected := room.cache.store.gfnOf?_insert (firstEntry host gfn page token holder) e.handle
    rw [if_neg (show e.handle ≠ (firstEntry host gfn page token holder).handle from different)] at redirected
    exact redirected.trans (shrunk (answers.shrinks indexed) there)

/-- A collision orphans the page that has the handle: it stays in the cache as it was, but its handle leads
to the page that was not acquired. -/
theorem Acquired.orphaned {m : Machine World Driver Probe Page} {gfn : Gfn} {holder : Holder}
    {cache : Cache Driver Probe Page} {h : Handle}
    (acquired : m.Acquired host gfn holder (.broken .handleTaken) cache) (indexed : m.cache.store.Indexed)
    (answered : m.AnswersAt host gfn h) :
    cache.store.gfnOf? h = some gfn ∧ cache.store.find? gfn = none ∧ ∃ other e, other ≠ gfn ∧
      m.cache.store.find? other = some e ∧ e.handle = h ∧ cache.store.find? other = some e := by
  obtain ⟨room, page, answers, rfl⟩ := answered
  cases acquired with
  | failed fails _ => cases fails
  | @aliased room' page' token owner ticked answers' _ known =>
    obtain ⟨rfl, rfl⟩ := answers.unique answers'
    have missing := answers.missing indexed
    have handle := room'.cache.store.gfnOf?_insert (firstEntry host gfn page' token holder) (host.address page')
    have kept := Store.find?_insert_of_known (e := firstEntry host gfn page' token holder) known
    have roomy := answers.shrinks indexed
    have sound : room'.cache.store.Indexed := by
      obtain ⟨gfns, removed, _⟩ := roomy
      rw [removed]
      exact indexed.removeAll gfns
    obtain ⟨other, e, there, atHandle⟩ := (sound.known _).mp (Option.isSome_of_eq_some known)
    have before : m.cache.store.find? other = some e := roomy.found_before there
    have different : other ≠ gfn := by
      rintro rfl
      cases missing.symm.trans there
    refine ⟨handle.trans (if_pos rfl), (kept gfn).trans missing, other, e, different, before, atHandle, ?_⟩
    exact (kept other).trans there

end Machine

namespace Session

/-- A failed acquisition ran into a page that is cached under a handle. -/
def Collides (host : Host World Driver Probe Page) (s : Session World Driver Probe Page)
    (op : Op World Driver Probe) (gfn : Gfn) (h : Handle) : Prop :=
  (s.step host op).1 = .broken .handleTaken ∧
    ∃ cache, s.cache = some cache ∧ (s.machine cache).AnswersAt host gfn h

/-- What a failed acquisition of a page leaves behind. -/
structure SurvivesFailure (host : Host World Driver Probe Page) (s : Session World Driver Probe Page)
    (op : Op World Driver Probe) (gfn : Gfn) : Prop where
  /-- Every page is still cached with its references, unless it made room while nobody held it. -/
  stays : ∀ other e, s.cached? other = some e →
    (s.step host op).2.cached? other = none ∧ e.references? = some 0 ∨
      ∃ d, (s.step host op).2.cached? other = some d ∧ d.handle = e.handle ∧ d.page = e.page ∧
        d.refs = e.refs ∧ d.guards = e.guards
  /-- The handle of a page still leads to it, unless the new page has the same. A later release of that
  handle gives back a reference to this page. -/
  leads : ∀ other e d, s.cached? other = some e → (s.step host op).2.cached? other = some d →
    s.gfnOf? e.handle = some other → ¬ s.Collides host op gfn e.handle →
    (s.step host op).2.gfnOf? e.handle = some other ∧
      ∀ any, ((s.step host op).2.step host (.release e.handle)).2.cached? any =
        if any = other then some d.giveBack else (s.step host op).2.cached? any
  /-- Otherwise the handle of a cached page leads to the one that was not acquired, and a release of it is
  ignored. -/
  orphans : ∀ h, s.Collides host op gfn h → (∃ other e, other ≠ gfn ∧ s.cached? other = some e ∧ e.handle = h ∧
      (s.step host op).2.cached? other = some e) ∧
    (s.step host op).2.gfnOf? h = some gfn ∧ (s.step host op).2.cached? gfn = none ∧
    (s.step host op).2.step host (.release h) = (.nothing, (s.step host op).2)

/-- Without a cache, nothing is tried that could fail. -/
theorem cache_of_failed {s : Session World Driver Probe Page} {op : Op World Driver Probe} {gfn : Gfn}
    {holder : Holder} (asks : op.acquires? = some (gfn, holder)) (failed : (s.step host op).1.failed = true) :
    ∃ cache, s.cache = some cache := by
  cases present : s.cache with
  | some cache => exact ⟨cache, rfl⟩
  | none =>
    cases op with
    | acquire =>
      simp only [step, onCache, present] at failed
      cases failed
    | get =>
      simp only [step, get, present] at failed
      cases failed
    | _ => cases asks

/-- A failed acquisition takes no guard, and drops none. -/
theorem step_of_failed {s : Session World Driver Probe Page} {op : Op World Driver Probe}
    {cache : Cache Driver Probe Page} {gfn : Gfn} {holder : Holder} (present : s.cache = some cache)
    (asks : op.acquires? = some (gfn, holder)) (failed : (s.step host op).1.failed = true) :
    (∀ lease, ((s.machine cache).acquire host gfn holder).1 ≠ .done lease) ∧
      s.step host op = (.ofAcquired ((s.machine cache).acquire host gfn holder).1 holder,
        s.resume ((s.machine cache).acquire host gfn holder).2) := by
  cases op with
  | acquire =>
    cases asks
    simp only [step, onCache, present] at failed ⊢
    refine ⟨fun lease done => ?_, rfl⟩
    rw [done] at failed
    cases failed
  | get gfn name =>
    cases asks
    simp only [step, get, present] at failed ⊢
    cases run : (s.machine cache).acquire host gfn .guard with
    | mk outcome m =>
      rw [run] at failed
      cases outcome with
      | done => cases failed
      | refused | broken => exact ⟨fun _ done => (by cases done), rfl⟩
  | _ => cases asks

/-- A page in use outlasts the failure with its references; only a page that nobody holds can be gone. -/
theorem stays_of_failed {s : Session World Driver Probe Page} {op : Op World Driver Probe}
    {cache : Cache Driver Probe Page} {gfn : Gfn} {holder : Holder} {other : Gfn} {e : Entry Page}
    (present : s.cache = some cache) (indexed : cache.store.Indexed) (asks : op.acquires? = some (gfn, holder))
    (failed : (s.step host op).1.failed = true) (found : s.cached? other = some e) :
    (s.step host op).2.cached? other = none ∧ e.references? = some 0 ∨
      ∃ d, (s.step host op).2.cached? other = some d ∧ d.handle = e.handle ∧ d.page = e.page ∧
        d.refs = e.refs ∧ d.guards = e.guards := by
  obtain ⟨unacquired, after⟩ := step_of_failed present asks failed
  have acquired := Machine.acquire_acquired host (m := s.machine cache) indexed gfn holder
  have taken : ∀ kind, ((s.machine cache).acquire host gfn holder).1.taken holder kind = 0 := by
    intro kind
    cases outcome : ((s.machine cache).acquire host gfn holder).1 with
    | done lease => exact absurd outcome (unacquired lease)
    | refused | broken => rfl
  rw [cached?, present] at found
  rw [after]
  rcases acquired.find?_of_found indexed found with evicted | ⟨stayed, _⟩ | ⟨_, d, stayed, gains⟩
  · exact .inl evicted
  · exact .inr ⟨e, stayed, rfl, rfl, rfl, rfl⟩
  · have refs := gains.refs
    have guards := gains.guards
    rw [taken, Nat.add_zero] at refs guards
    exact .inr ⟨d, stayed, gains.handle, gains.page, UInt32.toNat_inj.mp refs, UInt32.toNat_inj.mp guards⟩

/-- A handle leads to its page as before, unless the new page came to the same address. -/
theorem leads_of_failed {s : Session World Driver Probe Page} {op : Op World Driver Probe}
    {cache : Cache Driver Probe Page} {gfn : Gfn} {holder : Holder} {other : Gfn} {e d : Entry Page}
    (present : s.cache = some cache) (indexed : cache.store.Indexed) (asks : op.acquires? = some (gfn, holder))
    (failed : (s.step host op).1.failed = true) (found : s.cached? other = some e)
    (stayed : (s.step host op).2.cached? other = some d) (leads : s.gfnOf? e.handle = some other)
    (apart : ¬ s.Collides host op gfn e.handle) : (s.step host op).2.gfnOf? e.handle = some other := by
  obtain ⟨unacquired, after⟩ := step_of_failed present asks failed
  have acquired := Machine.acquire_acquired host (m := s.machine cache) indexed gfn holder
  have collides : ((s.machine cache).acquire host gfn holder).1 = .broken .handleTaken →
      ¬ (s.machine cache).AnswersAt host gfn e.handle := by
    intro broke answered
    refine apart ⟨?_, cache, present, answered⟩
    rw [after, broke]
    cases holder <;> rfl
  rw [cached?, present] at found
  rw [gfnOf?, present] at leads
  rw [after] at stayed ⊢
  exact (acquired.gfnOf?_of_failed indexed unacquired found stayed collides).trans leads

/-- The page at that address stays cached and has lost its handle, which leads to a page that is not. -/
theorem orphans_of_failed {s : Session World Driver Probe Page} {op : Op World Driver Probe}
    {cache : Cache Driver Probe Page} {gfn : Gfn} {holder : Holder} {h : Handle} (present : s.cache = some cache)
    (indexed : cache.store.Indexed) (asks : op.acquires? = some (gfn, holder))
    (failed : (s.step host op).1.failed = true) (collides : s.Collides host op gfn h) :
    (∃ other e, other ≠ gfn ∧ s.cached? other = some e ∧ e.handle = h ∧
      (s.step host op).2.cached? other = some e) ∧
    (s.step host op).2.gfnOf? h = some gfn ∧ (s.step host op).2.cached? gfn = none := by
  obtain ⟨broke, cache', present', answered⟩ := collides
  cases present.symm.trans present'
  obtain ⟨_, after⟩ := step_of_failed present asks failed
  have acquired := Machine.acquire_acquired host (m := s.machine cache) indexed gfn holder
  rw [after] at broke ⊢
  have taken : ((s.machine cache).acquire host gfn holder).1 = .broken .handleTaken := by
    cases holder with
    | handle => exact Reply.of_ofOutcome_broken broke (by simp)
    | guard => exact Reply.of_ofOutcome_broken broke (by simp)
  rw [taken] at acquired
  obtain ⟨known, missing, other, e, different, found, handle, stayed⟩ := acquired.orphaned indexed answered
  exact ⟨⟨other, e, different, cached?_eq_some.mpr ⟨cache, present, found⟩, handle, stayed⟩, known, missing⟩

/-- A handle that leads to no cached page releases nothing. -/
theorem release_of_orphaned {s : Session World Driver Probe Page} {gfn : Gfn} {h : Handle}
    (known : s.gfnOf? h = some gfn) (missing : s.cached? gfn = none) :
    s.step host (.release h) = (.nothing, s) := by
  obtain ⟨cache, present, known⟩ := Option.bind_eq_some_iff.mp known
  rw [cached?, present, Option.bind_some] at missing
  have ignored : (s.machine cache).release h = (.done (), s.machine cache) := by
    simp only [Machine.release, machine, known, missing]
  simp only [step, onCache, present, ignored, Reply.ofOutcome, resume_machine present]

end Session

/-- Whatever a driver does, an acquisition that fails leaves all pages alone that are in use, and all
handles but that of a cached page to whose address the driver has mapped the new one. -/
theorem Session.Reach.survives_failure {world : World} {past : List (Op World Driver Probe × Reply)}
    {s : Session World Driver Probe Page} {op : Op World Driver Probe} {gfn : Gfn} {holder : Holder}
    (reach : Session.Reach host (fun _ _ => True) world past s) (asks : op.acquires? = some (gfn, holder))
    (failed : (s.step host op).1.failed = true) : s.SurvivesFailure host op gfn := by
  obtain ⟨cache, present⟩ := cache_of_failed asks failed
  have indexed := reach.indexed present
  refine ⟨fun other e => stays_of_failed present indexed asks failed, ?_, ?_⟩
  · intro other e d found stayed leads apart
    have led := leads_of_failed present indexed asks failed found stayed leads apart
    refine ⟨led, fun any => ?_⟩
    rw [release_cached?, led]
    by_cases mine : any = other
    · rw [if_pos (congrArg some mine.symm), if_pos mine, mine, stayed]
      rfl
    · rw [if_neg fun same => mine (Option.some.inj same).symm, if_neg mine]
  · intro h collides
    obtain ⟨owner, known, missing⟩ := orphans_of_failed present indexed asks failed collides
    exact ⟨owner, known, missing, release_of_orphaned known missing⟩

/-- Two pages are mapped to one address, the first of which is held. -/
def crowded : Session Nat Unit Unit Nat := (Session.start 0).run cramped [.create (some ()), .acquire ⟨1⟩]

theorem crowded_reach : ∃ past, Session.Reach cramped (fun _ _ => True) 0 past crowded := by
  have begun : Session.Reach cramped (fun _ _ => True) 0 [] (.start 0) := .start
  have permitted : (Session.start 0).Permits cramped (fun _ _ => True) [.create (some ()), .acquire ⟨1⟩] :=
    ⟨trivial, trivial, trivial⟩
  exact begun.run permitted

/-- The failed page takes over the handle of the held one. -/
theorem survives_failure_crowded :
    (crowded.step cramped (.acquire ⟨2⟩)).1 = .broken .handleTaken ∧
      crowded.SurvivesFailure cramped (.acquire ⟨2⟩) ⟨2⟩ := by
  obtain ⟨_, reach⟩ := crowded_reach
  exact ⟨by decide +kernel, Session.Reach.survives_failure reach rfl (by decide +kernel)⟩

/-- The handle of the first page leads to the second one, which was not acquired, and the first page can no
longer be released. -/
theorem handle_lost_crowded :
    ¬ ∀ world past (s : Session Nat Unit Unit Nat), Session.Reach cramped (fun _ _ => True) world past s →
      ∀ op asked, op.acquires? = some asked → (s.step cramped op).1.failed = true →
      ∀ gfn e d, s.cached? gfn = some e → (s.step cramped op).2.cached? gfn = some d → s.gfnOf? e.handle = some gfn →
      (s.step cramped op).2.gfnOf? e.handle = some gfn ∧
        ((s.step cramped op).2.step cramped (.release e.handle)).2.cached? gfn = some d.giveBack := by
  intro survives
  obtain ⟨past, reach⟩ := crowded_reach
  have lost : (crowded.step cramped (.acquire ⟨2⟩)).2.gfnOf? ⟨4096⟩ = some ⟨2⟩ := by decide +kernel
  have before : (crowded.cached? ⟨1⟩).map Entry.handle = some ⟨4096⟩ := by decide +kernel
  have after : ((crowded.step cramped (.acquire ⟨2⟩)).2.cached? ⟨1⟩).isSome = true := by decide +kernel
  obtain ⟨e, found, handle⟩ := Option.map_eq_some_iff.mp before
  obtain ⟨d, stayed⟩ := Option.isSome_iff_exists.mp after
  have led : crowded.gfnOf? e.handle = some ⟨1⟩ := by
    rw [handle]
    decide +kernel
  have kept := survives 0 past crowded reach (.acquire ⟨2⟩) _ rfl (by decide +kernel) ⟨1⟩ e d found stayed led
  rw [handle, lost] at kept
  exact absurd kept.1 (by decide)

/-- An outside at which the second page comes to the address of the first one. -/
def doubled : Host Nat Unit Unit Nat :=
  { shelf with address := fun page => shelf.address (if page = 1 then 0 else page) }

/-- A run that goes on after a page came to the address of a cached one, until the first holder releases its page. -/
def crossedPages : List (Op Nat Unit Unit) :=
  [.create (some ()), .acquire ⟨1⟩, .acquire ⟨2⟩, .acquire ⟨2⟩, .release (doubled.address 0)]

/-- The first page of that run counts a reference that was released, and the second one misses a reference that
was not: so the holder of the second page is the one who cannot release it. -/
theorem reference_moved_crossedPages :
    ((Session.run doubled (.start 0) crossedPages).cached? ⟨1⟩).bind Entry.references? = some 1 ∧
    ((Session.run doubled (.start 0) crossedPages).cached? ⟨2⟩).bind Entry.references? = some 0 ∧
    ((Session.run doubled (.start 0) crossedPages).step doubled (.release (doubled.address 2))).1 =
      .broken (.overReleased ⟨2⟩) := by
  decide +kernel

end ForeignPages
