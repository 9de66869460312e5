import ForeignPages.Proofs.Evictions
import ForeignPages.Proofs.FailedAcquisition
import ForeignPages.Proofs.MomentActs

namespace ForeignPages

variable {World Driver Probe Page : Type} {host : Host World Driver Probe Page}

/-- Why a page that is not cached cannot be had, and what passes meanwhile, the newest first: its driver fails,
or maps something else than one page, or the residency policy does not let the page pass. Whatever was mapped
is given back. -/
inductive Cache.Rejects (host : Host World Driver Probe Page) (c : Cache Driver Probe Page) (world : World)
    (driver : Driver) (gfn : Gfn) : MapError → List (Act Driver Probe Page) → Prop
  | failed {source : IoError} : (host.map driver gfn .rw world).1 = .error source →
      Rejects host c world driver gfn (.mapFailed gfn source)
        (c.complaint gfn source ++ [.mapped driver gfn .rw (.error source)])
  | misfit {page : Page} {source : IoError} : (host.map driver gfn .rw world).1 = .ok page →
      host.size page (host.map driver gfn .rw world).2 ≠ host.pageSize driver world →
      source = .custom .invalidData ("mapped " ++ toString (host.size page (host.map driver gfn .rw world).2) ++
        " bytes, expected " ++ toString (host.pageSize driver world)) →
      Rejects host c world driver gfn (.mapFailed gfn source)
        (c.complaint gfn source ++ [.unmapped page, .mapped driver gfn .rw (.ok page)])
  | denied {page : Page} {answer : Except IoError Bool} : host.Delivers driver gfn world page →
      c.residency = .probe →
      (host.probe c.probe (host.address page) (host.pageSize driver world)
        (host.map driver gfn .rw world).2).1 = answer → answer ≠ .ok true →
      Rejects host c world driver gfn (.pageNotPresent gfn)
        [.unmapped page, .told (denial gfn answer),
          .probed c.probe (host.address page) (host.pageSize driver world) answer, .mapped driver gfn .rw (.ok page)]

/-- What outlasts failures: everything that is held, and half of what the limit allows. -/
structure Cache.Outlasts (c d : Cache Driver Probe Page) : Prop where
  limit : d.limit = c.limit
  held : ∀ gfn e, c.store.find? gfn = some e → e.held = true →
    d.store.find? gfn = some e ∧ d.store.gfnOf? e.handle = c.store.gfnOf? e.handle
  half : (c.limit + 1) / 2 ≤ c.store.entries.length → (c.limit + 1) / 2 ≤ d.store.entries.length

namespace Session

/-- An acquisition that gets no further than making room, and leaves everything else as it was. The acts are
those that passed after room was made. -/
structure OnlyMakesRoom (host : Host World Driver Probe Page) (s : Session World Driver Probe Page)
    (op : Op World Driver Probe) (cache : Cache Driver Probe Page) (driver : Driver) (gfn : Gfn)
    (evicted : List (Entry Page)) (reply : Reply) (acts : List (Act Driver Probe Page)) : Prop where
  replies : (s.step host op).1 = reply
  left : ∃ after, (s.step host op).2.cache = some after ∧ cache.Without evicted after
  uncached : (s.step host op).2.cached? gfn = none
  guards : (s.step host op).2.guards = s.guards
  passes : Moment.acts host ⟨s, op⟩ = acts ++
    if cache.limit ≤ cache.store.entries.length then .told cache.cleanup :: returns evicted else []
  /-- A sound page that shares no bytes with those that come and go keeps its own. -/
  contents : ∀ apart extent sound, host.Separates apart extent sound → ∀ page, (∀ e ∈ evicted, apart e.page page) →
    (∀ mapped, (host.map driver gfn .rw (host.unmapAll evicted s.world)).1 = .ok mapped → apart mapped page) →
    host.Spares extent sound page s.world (s.step host op).2.world

end Session

/-- An acquisition that was refused, or something that happened outside of the cache. -/
def Moment.Vain (host : Host World Driver Probe Page) (t : Moment World Driver Probe Page) : Prop :=
  (∃ asked e, t.op.acquires? = some asked ∧ t.reply host = .refused e) ∨ ∃ change, t.op = .outside change

/-- Acquisitions that fail cost a session nothing but evictions. -/
structure Session.LosesEvictionsOnly (host : Host World Driver Probe Page) (s : Session World Driver Probe Page) :
    Prop where
  unbound : ∀ (op : Op World Driver Probe) asked cache, op.acquires? = some asked → s.cache = some cache →
    cache.driver = none → s.step host op = (.refused .noSession, s)
  /-- The driver is asked after room was made, unless the attempt cannot be counted. -/
  rejected : ∀ (op : Op World Driver Probe) gfn holder cache driver, op.acquires? = some (gfn, holder) →
    s.cache = some cache → cache.driver = some driver → s.cached? gfn = none →
    (∀ other e, s.cached? other = some e → e.Small) → ∃ evicted, cache.GivesUp evicted ∧
      ((s.machine cache).countMapping? = none →
        s.OnlyMakesRoom host op cache driver gfn evicted (.broken .additionOverflow) []) ∧
      ∀ e acts, (s.machine cache).countMapping?.isSome →
        cache.Rejects host (host.unmapAll evicted s.world) driver gfn e acts →
        s.OnlyMakesRoom host op cache driver gfn evicted (.refused e) acts
  repeated : ∀ moments t cache, Course host (fun _ _ => True) s moments t → (∀ moment ∈ moments, moment.Vain host) →
    s.cache = some cache → ∃ after, t.cache = some after ∧ cache.Outlasts after

namespace Cache

/-- There is only one way in which an attempt can be rejected. -/
theorem Rejects.tried {c d : Cache Driver Probe Page} {driver : Driver} {gfn : Gfn} {holder : Holder} {e : MapError}
    {world : World} {acts acts' : List (Act Driver Probe Page)} {outcome : Outcome Lease}
    (rejects : c.Rejects host world driver gfn e acts) (tried : c.Tried host world driver gfn holder outcome acts' d) :
    outcome = .refused e ∧ acts' = acts ∧ d = c := by
  cases rejects with
  | failed answer =>
    cases tried with
    | failed answer' =>
      cases answer.symm.trans answer'
      exact ⟨rfl, rfl, rfl⟩
    | misfit answer' => cases answer.symm.trans answer'
    | denied delivers | housed delivers => cases answer.symm.trans delivers.1
  | misfit answer different reason =>
    cases tried with
    | failed answer' => cases answer.symm.trans answer'
    | misfit answer' _ reason' =>
      cases answer.symm.trans answer'
      cases reason.trans reason'.symm
      exact ⟨rfl, rfl, rfl⟩
    | denied delivers | housed delivers =>
      cases answer.symm.trans delivers.1
      exact absurd delivers.2 different
  | denied delivers probed asked different =>
    cases tried with
    | failed answer' => cases delivers.1.symm.trans answer'
    | misfit answer' different' =>
      cases delivers.1.symm.trans answer'
      exact absurd delivers.2 different'
    | denied delivers' judged =>
      cases delivers.1.symm.trans delivers'.1
      cases judged with
      | denied _ asked' _ =>
        cases asked.symm.trans asked'
        exact ⟨rfl, rfl, rfl⟩
    | housed delivers' judged =>
      cases delivers.1.symm.trans delivers'.1
      cases judged with
      | trusted trust => cases probed.symm.trans trust
      | resident _ answer => exact absurd (asked.symm.trans answer) different

theorem Tried.cache_of_refused {c d : Cache Driver Probe Page} {driver : Driver} {gfn : Gfn} {holder : Holder}
    {e : MapError} {world : World} {acts : List (Act Driver Probe Page)}
    (tried : c.Tried host world driver gfn holder (.refused e) acts d) : d = c := by
  cases tried with
  | failed | misfit | denied => rfl
  | housed _ _ housed => cases housed

theorem Outlasts.refl (c : Cache Driver Probe Page) : c.Outlasts c := ⟨rfl, fun _ _ found _ => ⟨found, rfl⟩, id⟩

theorem Outlasts.trans {b c d : Cache Driver Probe Page} (first : b.Outlasts c)
    (second : c.Outlasts d) :
    b.Outlasts d where
  limit := second.limit.trans first.limit
  held gfn e found held := by
    obtain ⟨stays, leads⟩ := first.held gfn e found held
    obtain ⟨stays', leads'⟩ := second.held gfn e stays held
    exact ⟨stays', leads'.trans leads⟩
  half enough := by
    have still := second.half (first.limit ▸ first.half enough)
    rwa [first.limit] at still

/-- Held pages outlast an eviction, and so does half of the limit. -/
theorem Without.outlasts {c d : Cache Driver Probe Page} {evicted : List (Entry Page)} (without : c.Without evicted d)
    (gives : c.GivesUp evicted) (indexed : c.store.Indexed) : c.Outlasts d where
  limit := without.limit_eq
  held gfn e found held := by
    refine ⟨without.held_stays gives indexed found held, ?_⟩
    rw [without.gfnOf?_eq, if_neg]
    intro chosen
    obtain ⟨f, member, same⟩ := List.mem_map.mp chosen
    obtain ⟨cached, free⟩ := gives.free member
    have there := indexed.find?_of_mem cached
    cases indexed.apart _ _ f e there found same
    cases there.symm.trans found
    cases held.symm.trans free
  half := without.half_le gives

end Cache

namespace Machine

/-- After room was made, a page that is not cached is either not asked for, or there is one attempt to map it. -/
theorem Dealt.of_room {m room : Machine World Driver Probe Page} {driver : Driver} {gfn : Gfn} {holder : Holder}
    {outcome : Outcome Lease} {acts : List (Act Driver Probe Page)} {after : Cache Driver Probe Page}
    {counters : Counters} (dealt : m.Dealt host gfn holder outcome acts after counters)
    (bound : m.cache.driver = some driver) (missing : m.cache.store.find? gfn = none)
    (made : m.makeRoom host = (.ok (), room)) : ∃ roomed, m.cache.Roomed roomed ∧
      (room.countMapping? = none ∧ outcome = .broken .additionOverflow ∧ acts = roomed ∧ after = room.cache ∨
        room.countMapping?.isSome ∧ ∃ tried, room.cache.Tried host room.world driver gfn holder outcome tried after ∧
          acts = tried ++ roomed) := by
  cases dealt with
  | unbound none => cases bound.symm.trans none
  | hit _ found => cases missing.symm.trans found
  | stuck _ _ stuck => cases made.symm.trans stuck
  | full _ _ made' roomed _ full =>
    cases made.symm.trans made'
    exact ⟨_, roomed, .inl ⟨full, rfl, rfl, rfl⟩⟩
  | tried bound' _ made' roomed _ count tried =>
    cases made.symm.trans made'
    cases bound.symm.trans bound'
    exact ⟨_, roomed, .inr ⟨Option.isSome_of_eq_some count, _, tried, rfl⟩⟩

theorem makeRoom_countMapping? {m room : Machine World Driver Probe Page} (indexed : m.cache.store.Indexed)
    (made : m.makeRoom host = (.ok (), room)) :
    room.countMapping?.isSome = m.countMapping?.isSome := by
  obtain ⟨_, _, _, counters⟩ := makeRoom_roomed indexed made
  obtain ⟨_, cache⟩ := makeRoom_keeps indexed made
  exact countMapping?_isSome (by rw [cache]) counters

/-- An attempt leaves all sound pages alone that lie apart from those that come and go. -/
theorem acquire_contents {m room : Machine World Driver Probe Page} {driver : Driver} {gfn : Gfn} {holder : Holder}
    {evicted : List (Entry Page)} {apart : Page → Page → Prop} {extent : Page → Nat} {sound : Page → World → Prop}
    {page : Page} (separates : host.Separates apart extent sound) (indexed : m.cache.store.Indexed)
    (bound : m.cache.driver = some driver) (gives : m.cache.GivesUp evicted) (made : m.makeRoom host = (.ok (), room))
    (spares : ∀ e ∈ evicted, apart e.page page)
    (answers : ∀ mapped, (host.map driver gfn .rw (host.unmapAll evicted m.world)).1 = .ok mapped → apart mapped page) :
    host.Spares extent sound page m.world (m.acquire host gfn holder).2.world := by
  intro isSound
  obtain ⟨without, world⟩ := makeRoom_without indexed gives made
  refine acquire_world (separates.keeps page fun i => host.byte page i m.world) indexed ?_ ?_ holder
    ⟨isSound, fun _ _ => rfl⟩
  · intro _ _ _ taken split e member
    rw [made] at split
    have same := (List.perm_append_right_iff _).mp (without.entries.symm.trans split)
    exact spares e (same.mem_iff.mpr member)
  · rintro room' mapped ⟨driver', counted, bound', _, made', count, called⟩
    cases bound.symm.trans bound'
    cases made.symm.trans made'
    rw [countMapping?_world count, world] at called
    exact answers mapped called

/-- A page is refused either without any change, or after room was made for it. -/
theorem Dealt.refused_cases {m : Machine World Driver Probe Page} {gfn : Gfn} {holder : Holder}
    {acts : List (Act Driver Probe Page)} {after : Cache Driver Probe Page} {counters : Counters} {e : MapError}
    (dealt : m.Dealt host gfn holder (.refused e) acts after counters) :
    after = m.cache ∨ ∃ room, m.makeRoom host = (.ok (), room) ∧ after = room.cache := by
  generalize attempt : Outcome.refused e = outcome at dealt
  cases dealt with
  | unbound => exact .inl rfl
  | hit => exact absurd attempt.symm (acquireCached_ne_refused _ _ _ _ _ _)
  | stuck | full => cases attempt
  | tried _ _ made _ _ _ tried =>
    cases attempt
    exact .inr ⟨_, made, tried.cache_of_refused⟩

end Machine

namespace Session

/-- An acquisition from which nobody gets a page takes no guard, and drops none. -/
theorem step_of_undone {s : Session World Driver Probe Page} {op : Op World Driver Probe}
    {cache : Cache Driver Probe Page} {gfn : Gfn} {holder : Holder} (host : Host World Driver Probe Page)
    (present : s.cache = some cache) (asks : op.acquires? = some (gfn, holder))
    (undone : ∀ lease, ((s.machine cache).acquire host gfn holder).1 ≠ .done lease) :
    s.step host op = (.ofAcquired ((s.machine cache).acquire host gfn holder).1 holder,
      s.resume ((s.machine cache).acquire host gfn holder).2) := by
  refine (step_of_failed present asks ?_).2
  cases op with
  | acquire =>
    cases asks
    simp only [step, onCache, present]
    cases outcome : ((s.machine cache).acquire host gfn .handle).1 with
    | done lease => exact absurd outcome (undone lease)
    | refused | broken => rfl
  | get gfn name =>
    cases asks
    simp only [step, get, present]
    cases run : (s.machine cache).acquire host gfn .guard with
    | mk outcome m =>
      rw [run] at undone
      cases outcome with
      | done lease => exact absurd rfl (undone lease)
      | refused | broken => rfl
  | _ => cases asks

/-- Without a driver nothing is tried, and nothing changes. -/
theorem step_of_unbound {s : Session World Driver Probe Page} {op : Op World Driver Probe}
    {cache : Cache Driver Probe Page} {asked : Gfn × Holder} (asks : op.acquires? = some asked)
    (present : s.cache = some cache) (unbound : cache.driver = none) : s.step host op = (.refused .noSession, s) := by
  have refused : ∀ gfn holder, (s.machine cache).acquire host gfn holder = (.refused .noSession, s.machine cache) := by
    intro gfn holder
    simp only [Machine.acquire, machine, unbound]
  have undone := step_of_undone host present asks fun lease done => by
    rw [refused] at done
    cases done
  rw [undone, refused, resume_machine present]
  cases asked.2 <;> rfl

/-- An acquisition that ends with the room that was made for it has cost the evicted pages and nothing else. -/
theorem onlyMakesRoom {s : Session World Driver Probe Page} {op : Op World Driver Probe}
    {cache : Cache Driver Probe Page} {driver : Driver} {gfn : Gfn} {holder : Holder} {evicted : List (Entry Page)}
    {room : Machine World Driver Probe Page} {outcome : Outcome Lease} {tried roomed : List (Act Driver Probe Page)}
    (asks : op.acquires? = some (gfn, holder)) (present : s.cache = some cache) (indexed : cache.store.Indexed)
    (bound : cache.driver = some driver) (missing : cache.store.find? gfn = none) (gives : cache.GivesUp evicted)
    (made : (s.machine cache).makeRoom host = (.ok (), room)) (makes : cache.Roomed roomed)
    (ends : ((s.machine cache).acquire host gfn holder).1 = outcome) (undone : ∀ lease, outcome ≠ .done lease)
    (left : ((s.machine cache).acquire host gfn holder).2.cache = room.cache)
    (journal : ((s.machine cache).acquire host gfn holder).2.journal = tried ++ roomed ++ s.journal) :
    s.OnlyMakesRoom host op cache driver gfn evicted (.ofAcquired outcome holder) tried := by
  have after := step_of_undone host present asks (ends ▸ undone)
  obtain ⟨without, _⟩ := Machine.makeRoom_without (m := s.machine cache) indexed gives made
  have shrinks := Machine.makeRoom_shrinks (m := s.machine cache) indexed made
  refine ⟨?_, ⟨room.cache, ?_, without⟩, ?_, ?_, ?_, ?_⟩
  · rw [after, ends]
  · rw [after]
    exact congrArg some left
  · rw [after]
    exact (congrArg (fun c => c.store.find? gfn) left).trans (shrinks.find?_of_missing missing)
  · rw [after]
    rfl
  · rw [← makes.acts_eq indexed gives]
    refine Moment.acts_eq (t := ⟨s, op⟩) ?_
    rw [Moment.after, after]
    exact journal
  · intro apart extent sound separates page spares answers
    rw [after]
    exact Machine.acquire_contents (m := s.machine cache) separates indexed bound gives made spares answers

/-- However a driver rejects a page, this is all that it costs. -/
theorem rejected_of_indexed {s : Session World Driver Probe Page} {op : Op World Driver Probe}
    {cache : Cache Driver Probe Page} {driver : Driver} {gfn : Gfn} {holder : Holder} {evicted : List (Entry Page)}
    (indexed : cache.store.Indexed) (gives : cache.GivesUp evicted) (asks : op.acquires? = some (gfn, holder))
    (present : s.cache = some cache) (bound : cache.driver = some driver) (missing : cache.store.find? gfn = none)
    (small : ∀ other e, cache.store.find? other = some e → e.Small) :
    ((s.machine cache).countMapping? = none →
      s.OnlyMakesRoom host op cache driver gfn evicted (.broken .additionOverflow) []) ∧
    ∀ e acts, (s.machine cache).countMapping?.isSome →
      cache.Rejects host (host.unmapAll evicted s.world) driver gfn e acts →
      s.OnlyMakesRoom host op cache driver gfn evicted (.refused e) acts := by
  obtain ⟨room, made⟩ := Machine.makeRoom_of_small host (m := s.machine cache) indexed small
  obtain ⟨acts, dealt, journal⟩ := Machine.acquire_dealt host (m := s.machine cache) indexed gfn holder
  obtain ⟨roomed, makes, ends⟩ := dealt.of_room bound missing made
  obtain ⟨⟨store, settings⟩, world⟩ := (Machine.makeRoom_without (m := s.machine cache) indexed gives made).imp_left
    Cache.Without.settings
  have counts := Machine.makeRoom_countMapping? (m := s.machine cache) indexed made
  rcases ends with ⟨full, outcome, rfl, left⟩ | ⟨count, tried, tries, rfl⟩
  · rw [full] at counts
    refine ⟨fun _ => ?_, fun _ _ some _ => absurd (counts.trans some) Bool.false_ne_true⟩
    have ended : s.OnlyMakesRoom host op cache driver gfn evicted (.ofAcquired _ holder) [] :=
      onlyMakesRoom asks present indexed bound missing gives made makes outcome nofun left journal
    cases holder <;> exact ended
  · rw [count] at counts
    refine ⟨fun none => ?_, fun e acts _ rejects => ?_⟩
    · rw [none] at counts
      cases counts
    · have again : room.cache.Rejects host room.world driver gfn e acts := by
        rw [world, settings]
        cases rejects with
        | failed answer => exact .failed answer
        | misfit answer different reason => exact .misfit answer different reason
        | denied delivers probed asked different => exact .denied delivers probed asked different
      obtain ⟨refused, rfl, left⟩ := again.tried tries
      have ended := onlyMakesRoom asks present indexed bound missing gives made makes refused nofun left journal
      cases holder <;> exact ended

/-- One failure more costs no held page, and no page of the lower half. -/
theorem outlasts_of_vain {s : Session World Driver Probe Page} {op : Op World Driver Probe}
    {cache : Cache Driver Probe Page} (indexed : cache.store.Indexed) (clocked : cache.Clocked)
    (present : s.cache = some cache) (vain : Moment.Vain host ⟨s, op⟩) :
    ∃ after, (s.step host op).2.cache = some after ∧ cache.Outlasts after := by
  rcases vain with ⟨⟨gfn, holder⟩, e, asks, refused⟩ | ⟨change, outside⟩
  · obtain ⟨acts, dealt, _⟩ := Machine.acquire_dealt host (m := s.machine cache) indexed gfn holder
    have failed : (s.step host op).1.failed = true := by
      rw [show (s.step host op).1 = .refused e from refused]
      rfl
    obtain ⟨undone, after⟩ := step_of_failed present asks failed
    have reply := (congrArg Prod.fst after).symm.trans refused
    rw [after]
    cases ends : ((s.machine cache).acquire host gfn holder).1 with
    | done lease => exact absurd ends (undone lease)
    | broken fault =>
      rw [ends] at reply
      cases holder <;> cases reply
    | refused error =>
      rw [ends] at dealt
      refine ⟨_, rfl, ?_⟩
      rcases dealt.refused_cases with same | ⟨room, made, left⟩
      · rw [same]
        exact .refl _
      · obtain ⟨evicted, gives⟩ := clocked.givesUp indexed
        rw [left]
        exact (Machine.makeRoom_without (m := s.machine cache) indexed gives made).1.outlasts gives indexed
  · cases outside
    exact ⟨cache, present, .refl _⟩

end Session

/-- However often it is tried in vain, no held page is lost, and the cache is not emptied below half of its limit. -/
theorem Session.Course.outlasts {world : World} {past : List (Op World Driver Probe × Reply)}
    {s t : Session World Driver Probe Page} {moments : List (Moment World Driver Probe Page)}
    {cache : Cache Driver Probe Page} (reach : Session.Reach host (fun _ _ => True) world past s)
    (course : Session.Course host (fun _ _ => True) s moments t) (vain : ∀ moment ∈ moments, moment.Vain host)
    (present : s.cache = some cache) : ∃ after, t.cache = some after ∧ cache.Outlasts after := by
  induction course with
  | start => exact ⟨cache, present, .refl _⟩
  | @reorder _ _ old store _ there same ih =>
    obtain ⟨after, left, outlasts⟩ := ih vain
    cases there.symm.trans left
    refine ⟨_, rfl, outlasts.trans ⟨rfl, fun gfn e found _ => ⟨?_, same.gfnOf?_eq _⟩, fun enough => ?_⟩⟩
    · exact (same.find?_eq gfn).trans found
    · exact Nat.le_trans enough (Nat.le_of_eq same.entries_perm.length_eq)
  | @step _ t op course _ ih =>
    -- What was lost before can only have been lost to make room, and so is what is lost now.
    obtain ⟨before, there, outlasts⟩ := ih fun moment member => vain moment (List.mem_cons_of_mem _ member)
    have reached := reach.followed course
    obtain ⟨after, left, still⟩ :=
      outlasts_of_vain (reached.indexed there) (reached.clocked there) there (vain _ List.mem_cons_self)
    exact ⟨after, left, outlasts.trans still⟩

/-- Wherever a page cannot be had, the cache has lost at most what made room for it. -/
theorem Session.Reach.loses_evictions_only {world : World} {past : List (Op World Driver Probe × Reply)}
    {s : Session World Driver Probe Page} (reach : Session.Reach host (fun _ _ => True) world past s) :
    s.LosesEvictionsOnly host := by
  refine ⟨fun op asked cache asks present unbound => step_of_unbound asks present unbound, ?_, ?_⟩
  · intro op gfn holder cache driver asks present bound missing small
    have indexed := reach.indexed present
    obtain ⟨evicted, gives⟩ := (reach.clocked present).givesUp indexed
    simp only [cached?, present, Option.bind_some] at missing small
    exact ⟨evicted, gives, rejected_of_indexed indexed gives asks present bound missing small⟩
  · exact fun moments t cache course vain present => course.outlasts reach vain present

/-- A shelf of a hundred places, beyond which nothing can be mapped. -/
def shortShelf : Host Nat Unit Unit Nat :=
  { shelf with map := fun _ gfn _ mapped =>
      if gfn.number < 100 then (.ok mapped, mapped + 1) else (.error (.plain .notFound), mapped) }

/-- A run that fills a cache, gives one of its pages back, and tries twice to get one that is not there. -/
def missesTwice : List (Op Nat Unit Unit) :=
  [.create (some ()), .setLimit 50] ++ (List.range 50).map (fun n => .acquire ⟨UInt64.ofNat n⟩) ++
    [.release (shelf.address 7), .acquire ⟨100⟩, .get ⟨100⟩ "guard"]

/-- Two attempts in vain cost one page. -/
theorem loses_evictions_only_missesTwice :
    unmappings (Session.run shortShelf (.start 0) missesTwice).journal = [7] ∧
    (Session.run shortShelf (.start 0) missesTwice).cache.map (·.store.size?.toOption) = some (some 49) ∧
    (Session.run shortShelf (.start 0) missesTwice).LosesEvictionsOnly shortShelf := by
  have begun : Session.Reach shortShelf (fun _ _ => True) 0 [] (.start 0) := .start
  have permitted : (Session.start 0).Permits shortShelf (fun _ _ => True) missesTwice := by decide +kernel
  obtain ⟨_, reach⟩ := begun.run permitted
  exact ⟨by decide +kernel, by decide +kernel, Session.Reach.loses_evictions_only reach⟩

end ForeignPages
