import ForeignPages.Proofs.Accounting
import ForeignPages.Proofs.Attempts

namespace ForeignPages

variable {World Driver Probe Page : Type} {host : Host World Driver Probe Page}

/-- A table in which only mappings were counted, so many. -/
structure Counters.Shows (t : Counters) (n : Nat) : Prop where
  get : ∀ name, (t.get name).toNat = if name = Machine.mapCounter then n else 0
  snapshot : t.snapshot = if n = 0 then [] else [(Machine.mapCounter, UInt64.ofNat n)]

theorem Counters.Holds.shows {t : Counters} {n : Nat} (holds : t.Holds Machine.mapCounter n) : t.Shows n :=
  ⟨holds.get_eq, holds.snapshot_eq⟩

namespace Moment

/-- What a driver has to be asked for at a moment. -/
def due? (host : Host World Driver Probe Page) (t : Moment World Driver Probe Page) :
    Option (Driver × Gfn × Protection) :=
  match t.session.cache, t.op.acquires? with
  | some cache, some (gfn, _) => ((t.session.machine cache).due? host gfn).map fun driver => (driver, gfn, .rw)
  | _, _ => none

/-- A fresh table of counters is attached. -/
def attaches (host : Host World Driver Probe Page) (t : Moment World Driver Probe Page) : Bool :=
  match t.op, t.reply host with
  | .setCounting true, .nothing => true
  | _, _ => false

/-- The cache ends, or counts from now on in another table or not at all. -/
def detaches (host : Host World Driver Probe Page) (t : Moment World Driver Probe Page) : Bool :=
  match t.op, t.reply host with
  | .create _, _ | .discard, _ | .setCounting _, .nothing | .setOptions _, .refused _ => true
  | _, _ => false

/-- An acquisition breaks off after it has asked a driver. -/
def breaksLate (host : Host World Driver Probe Page) (t : Moment World Driver Probe Page) : Bool :=
  t.op.acquires?.isSome && (t.reply host).breaks && !(attempts (t.acts host)).isEmpty

end Moment

namespace Session

/-- What the attempts to map a page have to do with the operations of a run. -/
structure MapsWhenDue (host : Host World Driver Probe Page) (moments : List (Moment World Driver Probe Page))
    (s : Session World Driver Probe Page) : Prop where
  /-- Drivers are asked for what is due, once, as long as attempts can be counted if they are. -/
  once : ∀ op, (∀ cache, s.cache = some cache → cache.counting = true → (attempts s.journal).length + 1 < 2 ^ 64) →
    attempts (Moment.acts host ⟨s, op⟩) = (Moment.due? host ⟨s, op⟩).toList
  /-- In any case they are not asked for anything else, nor again. -/
  only : ∀ op, attempts (Moment.acts host ⟨s, op⟩) = [] ∨
    attempts (Moment.acts host ⟨s, op⟩) = (Moment.due? host ⟨s, op⟩).toList
  /-- The driver that was attached last is asked, for a page that can be read and written, and while no page is
  held for the number. -/
  apart : ∀ op, attempts (Moment.acts host ⟨s, op⟩) ≠ [] → ∃ driver gfn holder answer newer older held,
    Moment.acts host ⟨s, op⟩ = newer ++ .mapped driver gfn .rw answer :: older ∧
    op.acquires? = some (gfn, holder) ∧ s.cached? gfn = none ∧ lastBound? (older ++ s.journal) = some driver ∧
    Balances (older ++ s.journal) held ∧ ∀ other ∈ held, other.1 ≠ gfn
  /-- Since a table was attached, it has counted the attempts and nothing else. -/
  counted : ∀ newer t older, moments = newer ++ t :: older → t.attaches host = true →
    (∀ u ∈ newer, u.detaches host = false) →
    s.counters.Shows (attempts (newer.map (Moment.acts host)).flatten).length
  /-- Nothing moves a table apart from attempts. -/
  still : ∀ op, attempts (Moment.acts host ⟨s, op⟩) = [] → Moment.attaches host ⟨s, op⟩ = false →
    (s.step host op).2.counters = s.counters
  /-- Every attempt finds the page, fails, finds that it is not present, or breaks off. -/
  balanced : (attempts s.journal).length = moments.countP (Moment.mapsAnew host) +
    moments.countP (Moment.failsToMap host) + moments.countP (Moment.missesPage host) +
    moments.countP (Moment.breaksLate host)
  /-- An attempt breaks off if the page lies at the address of a cached one, or if there is no recency token. -/
  late : ∀ op f, Moment.breaksLate host ⟨s, op⟩ = true → (s.step host op).1 = .broken f →
    ∃ cache driver gfn page newer older, s.cache = some cache ∧
      Moment.acts host ⟨s, op⟩ = newer ++ .mapped driver gfn .rw (.ok page) :: older ∧
      (f = .handleTaken ∧ (∃ other e, s.cached? other = some e ∧ e.handle = host.address page) ∨
        f = .additionOverflow ∧ cache.clock.toNat + 1 = 2 ^ 64)
  /-- Hits, acquisitions without a driver, and all operations that acquire nothing make no attempt. -/
  silent : ∀ op, op.acquires? = none ∨ (s.step host op).1 = .refused .noSession ∨
      (∃ gfn holder e, op.acquires? = some (gfn, holder) ∧ s.cached? gfn = some e) →
    attempts (Moment.acts host ⟨s, op⟩) = []

theorem onCache_counters {s : Session World Driver Probe Page}
    {work : Machine World Driver Probe Page → Reply × Machine World Driver Probe Page}
    (still : ∀ m, (work m).2.counters = m.counters) : (s.onCache work).2.counters = s.counters := by
  unfold onCache
  split
  · rfl
  · exact still _

theorem configure_counters {s : Session World Driver Probe Page}
    {work : Machine World Driver Probe Page → Reply × Machine World Driver Probe Page}
    (still : ∀ m, (work m).2.counters = m.counters) : (s.configure work).2.counters = s.counters := by
  unfold configure
  split
  · exact onCache_counters still
  · rfl

theorem onGuard_counters {s : Session World Driver Probe Page} {name : String}
    {work : Guard → Machine World Driver Probe Page → Reply × Machine World Driver Probe Page}
    (still : ∀ g m, (work g m).2.counters = m.counters) : (s.onGuard name work).2.counters = s.counters := by
  unfold onGuard
  split
  · rfl
  · exact onCache_counters (still _)

theorem releaseGuards_counters (live : List Guard) (m : Machine World Driver Probe Page) :
    (live.foldl (fun m g => (m.releaseGuard g.gfn).2) m).counters = m.counters := by
  induction live generalizing m with
  | nil => rfl
  | cons g rest ih => exact (ih _).trans (m.releaseGuard_counters g.gfn)

theorem close_counters (host : Host World Driver Probe Page) (s : Session World Driver Probe Page) :
    (s.close host).counters = s.counters := by
  unfold close dropGuards
  cases s.cache with
  | none => rfl
  | some cache => exact (Machine.unmapAll_counters _ _).trans (releaseGuards_counters s.guards.values (s.machine cache))

theorem setOptions_counters (s : Session World Driver Probe Page) (options : Options) :
    (s.setOptions host options).2.counters = s.counters := by
  unfold setOptions
  split
  · split
    · rfl
    · unfold Machine.withOptions Cache.setLimit
      by_cases small : options.limit < minLimit
      · simp only [if_pos small]
        exact Machine.unmapAll_counters _ _
      · simp only [if_neg small]
        rfl
  · rfl

/-- Apart from acquisitions, only a new table changes what the counters say. -/
theorem step_counters {s : Session World Driver Probe Page} {op : Op World Driver Probe}
    (host : Host World Driver Probe Page) (idle : op.acquires? = none) (stays : Moment.attaches host ⟨s, op⟩ = false) :
    (s.step host op).2.counters = s.counters := by
  cases op with
  | create driver =>
    cases driver with
    | none => exact s.close_counters host
    | some driver => exact (Machine.bind_counters _ driver).trans (s.close_counters host)
  | discard => exact s.close_counters host
  | bind driver => exact configure_counters fun m => m.bind_counters driver
  | setKernel | setPolicy | setProbe => exact configure_counters fun _ => rfl
  | setCounting counting =>
    cases counting with
    | false => exact configure_counters fun _ => rfl
    | true =>
      simp only [Moment.attaches, Moment.reply, step, if_true] at stays ⊢
      rcases s.configure_cases fun m => (.nothing, m.withCounters) with ⟨_, _, attached⟩ | ⟨_, misused⟩
      · rw [attached] at stays
        cases stays
      · rw [misused]
  | setOptions options => exact s.setOptions_counters options
  | setLimit limit => exact onCache_counters fun _ => by split <;> rfl
  | acquire | get => cases idle
  | release h => exact onCache_counters fun m => m.release_counters h
  | dropGuard name =>
    simp only [step, dropGuard]
    split
    · rfl
    · exact onCache_counters fun m => m.releaseGuard_counters _
  | read | readWord | readHeader => exact onGuard_counters fun _ _ => rfl
  | write | writeWord | writeHeader => exact onGuard_counters fun g m => m.write_counters g _ _
  | outside => rfl

/-- A table that is attached starts from nothing. -/
theorem attaches_fresh {s : Session World Driver Probe Page} {op : Op World Driver Probe}
    (attaches : Moment.attaches host ⟨s, op⟩ = true) :
    ∃ d, (s.step host op).2.cache = some d ∧ d.counting = true ∧ (s.step host op).2.counters = .empty := by
  cases op with
  | setCounting counting =>
    cases counting with
    | false => cases attaches
    | true =>
      simp only [Moment.attaches, Moment.reply, step, if_true] at attaches ⊢
      rcases s.configure_cases fun m => (.nothing, m.withCounters) with ⟨_, _, attached⟩ | ⟨_, misused⟩
      · rw [attached]
        exact ⟨_, rfl, rfl, rfl⟩
      · rw [misused] at attaches
        cases attaches
  | _ => cases attaches

/-- A fresh table takes the place of the one before. -/
theorem detaches_of_attaches {s : Session World Driver Probe Page} {op : Op World Driver Probe}
    (attaches : Moment.attaches host ⟨s, op⟩ = true) :
    Moment.detaches host ⟨s, op⟩ = true := by
  unfold Moment.attaches at attaches
  unfold Moment.detaches
  split at attaches
  · next set replied =>
    cases set
    simp only [replied]
  · cases attaches

/-- As long as its table is not taken away, the cache is there. -/
theorem cache_of_attached {s : Session World Driver Probe Page} {op : Op World Driver Probe}
    {cache : Cache Driver Probe Page} (present : s.cache = some cache) (stays : Moment.detaches host ⟨s, op⟩ = false) :
    ∃ d, (s.step host op).2.cache = some d := by
  cases op with
  | create | discard => cases stays
  | bind driver =>
    rcases s.step_bind host driver with ⟨_, _, bound⟩ | ⟨_, misused⟩
    · rw [bound]
      exact ⟨_, rfl⟩
    · rw [misused]
      exact ⟨cache, present⟩
  | setOptions options =>
    simp only [Moment.detaches, Moment.reply, step, setOptions, present, Machine.withOptions, Cache.setLimit] at stays ⊢
    by_cases unguarded : s.guards.size = 0
    · rw [if_pos unguarded] at stays ⊢
      by_cases small : options.limit < minLimit
      · simp [if_pos small] at stays
      · simp only [if_neg small]
        exact ⟨_, rfl⟩
    · rw [if_neg unguarded]
      exact ⟨cache, present⟩
  | _ => exact cache_of_lasting host present rfl

/-- A cache counts after an operation if it has counted before, or if a fresh table is attached. -/
theorem counts_before {s : Session World Driver Probe Page} {op : Op World Driver Probe} {d : Cache Driver Probe Page}
    (indexed : ∀ cache, s.cache = some cache → cache.store.Indexed) (left : (s.step host op).2.cache = some d)
    (counts : d.counting = true) :
    (∃ cache, s.cache = some cache ∧ cache.counting = true) ∨ Moment.attaches host ⟨s, op⟩ = true := by
  have tunes := step_tunes host op indexed left
  generalize replied : (s.step host op).1 = reply at tunes
  cases tunes with
  | kept before likens => exact .inl ⟨_, before, likens.counting.symm.trans counts⟩
  | created _ _ idle => cases idle.symm.trans counts
  | bound before _ _ same => exact .inl ⟨_, before, same.symm.trans counts⟩
  | chosen before => exact .inl ⟨_, before, counts⟩
  | counting counting =>
    cases (show counting = true from counts)
    exact .inr (by rw [Moment.attaches, Moment.reply, replied])

/-- And it goes on counting. -/
theorem counts_after {s : Session World Driver Probe Page} {op : Op World Driver Probe}
    {cache d : Cache Driver Probe Page} (indexed : ∀ cache, s.cache = some cache → cache.store.Indexed)
    (present : s.cache = some cache) (counts : cache.counting = true) (stays : Moment.detaches host ⟨s, op⟩ = false)
    (left : (s.step host op).2.cache = some d) : d.counting = true := by
  have tunes := step_tunes host op indexed left
  generalize replied : (s.step host op).1 = reply at tunes
  cases tunes with
  | kept before likens =>
    cases present.symm.trans before
    exact likens.counting.trans counts
  | created => cases stays
  | bound before _ _ same =>
    cases present.symm.trans before
    exact same.trans counts
  | chosen before =>
    cases present.symm.trans before
    exact counts
  | counting counting =>
    rw [Moment.detaches, Moment.reply, replied] at stays
    cases stays

/-- A driver is asked for a page, for the first time in this operation. -/
structure Asks (host : Host World Driver Probe Page) (s : Session World Driver Probe Page)
    (op : Op World Driver Probe) (cache : Cache Driver Probe Page) (driver : Driver) (gfn : Gfn) : Prop where
  present : s.cache = some cache
  acquires : ∃ holder, op.acquires? = some (gfn, holder)
  due : (s.machine cache).due? host gfn = some driver
  once : attempts (Moment.acts host ⟨s, op⟩) = [(driver, gfn, .rw)]
  counted : cache.counting = true → s.counters.increment? Machine.mapCounter = some (s.step host op).2.counters
  roomed : ∃ newer answer older room, Moment.acts host ⟨s, op⟩ = newer ++ .mapped driver gfn .rw answer :: older ∧
    (s.machine cache).makeRoom host = (.ok (), room) ∧ room.journal = older ++ s.journal

theorem Asks.due?_eq {s : Session World Driver Probe Page} {op : Op World Driver Probe} {gfn : Gfn}
    {cache : Cache Driver Probe Page} {driver : Driver} (asks : s.Asks host op cache driver gfn) :
    Moment.due? host ⟨s, op⟩ = some (driver, gfn, .rw) := by
  obtain ⟨holder, acquires⟩ := asks.acquires
  simp only [Moment.due?, asks.present, acquires, asks.due, Option.map_some]

/-- An operation asks one driver at most. Otherwise nothing is due, or the table of counters is full. -/
theorem step_asks {s : Session World Driver Probe Page} (host : Host World Driver Probe Page)
    (op : Op World Driver Probe) (indexed : ∀ cache, s.cache = some cache → cache.store.Indexed) :
    attempts (Moment.acts host ⟨s, op⟩) = [] ∧
        (Moment.attaches host ⟨s, op⟩ = false → (s.step host op).2.counters = s.counters) ∧
        (Moment.due? host ⟨s, op⟩ = none ∨ ∃ cache, s.cache = some cache ∧ cache.counting = true ∧
          s.counters.increment? Machine.mapCounter = none) ∨
      ∃ cache driver gfn, s.Asks host op cache driver gfn := by
  cases asks : op.acquires? with
  | none =>
    have plain := attempts_of_unanswered ((Moment.passes host ⟨s, op⟩ indexed).1.unanswered asks)
    refine .inl ⟨plain, step_counters host asks, .inl ?_⟩
    unfold Moment.due?
    rw [asks]
    cases s.cache <;> rfl
  | some asked =>
    cases present : s.cache with
    | none =>
      refine .inl ⟨by rw [acts_of_uncreated present asks]; rfl, fun _ => ?_, .inl ?_⟩
      · rw [step_of_uncreated present asks]
      · unfold Moment.due?
        rw [present]
    | some cache =>
      obtain ⟨_, _, _, dealt, _⟩ := step_dealt host present (indexed cache present) asks
      rcases dealt.asks (indexed cache present) with ⟨plain, same, idle⟩ | ⟨driver, newer, answer, older, room, due,
          once, counted, acts, made, journal⟩
      · refine .inl ⟨plain, fun _ => same, ?_⟩
        rcases idle with none | full
        · exact .inl (by simp only [Moment.due?, present, asks, none, Option.map_none])
        · exact .inr ⟨cache, rfl, full⟩
      · exact .inr ⟨cache, driver, asked.1, present, ⟨_, asks⟩, due, once, counted, newer, answer, older, room, acts,
          made, journal⟩

end Session

/-- Every attempt at a moment shows in the reply. -/
theorem Moment.attempts_length (host : Host World Driver Probe Page) (t : Moment World Driver Probe Page)
    (indexed : ∀ cache, t.session.cache = some cache → cache.store.Indexed) :
    (attempts (t.acts host)).length = (t.mapsAnew host).toNat + (t.failsToMap host).toNat +
      (t.missesPage host).toNat + (t.breaksLate host).toNat := by
  unfold mapsAnew failsToMap missesPage breaksLate
  cases asks : t.op.acquires? with
  | none =>
    rw [attempts_of_unanswered ((t.passes host indexed).1.unanswered asks)]
    rfl
  | some asked =>
    cases present : t.session.cache with
    | none =>
      have misused : t.session.step host t.op = (.misused .noCache, t.session) := Session.step_of_uncreated present asks
      rw [Session.acts_of_uncreated present asks, Moment.reply, misused]
      simp [attempts]
    | some cache =>
      obtain ⟨_, _, _, dealt, reply, _⟩ := Session.step_dealt host present (indexed cache present) asks
      have found : t.session.cached? asked.1 = cache.store.find? asked.1 := by
        rw [Session.cached?, present]
        rfl
      simp only [Moment.reply, reply, found, Option.isSome_some, Bool.true_and]
      exact dealt.count

namespace Session

theorem attempts_step {s : Session World Driver Probe Page} (host : Host World Driver Probe Page)
    (op : Op World Driver Probe) (indexed : ∀ cache, s.cache = some cache → cache.store.Indexed) :
    attempts (s.step host op).2.journal = attempts (Moment.acts host ⟨s, op⟩) ++ attempts s.journal := by
  have written : (s.step host op).2.journal = Moment.acts host ⟨s, op⟩ ++ s.journal :=
    (Moment.passes host ⟨s, op⟩ indexed).2
  rw [written, attempts_append]

/-- A table never counts more attempts than were made. -/
theorem Course.counted_le {allowed : Session World Driver Probe Page → Op World Driver Probe → Prop} {world : World}
    {moments : List (Moment World Driver Probe Page)} {s : Session World Driver Probe Page}
    (course : Course host allowed (.start world) moments s) :
    ∀ cache, s.cache = some cache → cache.counting = true →
      (s.counters.get Machine.mapCounter).toNat ≤ (attempts s.journal).length := by
  induction course with
  | start => exact fun cache present => nomatch present
  | reorder _ present _ ih =>
    rintro _ ⟨⟩ counts
    exact ih _ present counts
  | @step moments s op course _ ih =>
    intro d left counts
    rw [attempts_step host op course.indexed, List.length_append]
    -- A table that has just been attached is empty. Any other one was there before, with less to count.
    cases attaches : Moment.attaches host ⟨s, op⟩ with
    | true =>
      obtain ⟨_, _, _, fresh⟩ := attaches_fresh attaches
      rw [fresh]
      exact Nat.zero_le _
    | false =>
      obtain ⟨cache, present, counting⟩ := (counts_before course.indexed left counts).resolve_right (by simp [attaches])
      have before := ih cache present counting
      rcases step_asks host op course.indexed with ⟨_, same, _⟩ | ⟨_, _, _, asks⟩
      · rw [same attaches]
        exact Nat.le_trans before (Nat.le_add_left _ _)
      · cases present.symm.trans asks.present
        rw [Counters.get_of_increment? (asks.counted counting), if_pos rfl, asks.once, Nat.add_comm]
        exact Nat.add_le_add_left before 1

/-- Since a table was attached to a cache that goes on, it has counted every attempt. -/
theorem Course.counted {allowed : Session World Driver Probe Page → Op World Driver Probe → Prop} {world : World}
    {moments : List (Moment World Driver Probe Page)} {s : Session World Driver Probe Page}
    {newer older : List (Moment World Driver Probe Page)} {t : Moment World Driver Probe Page}
    (course : Course host allowed (.start world) moments s) (split : moments = newer ++ t :: older)
    (attaches : t.attaches host = true) (stays : ∀ u ∈ newer, u.detaches host = false) :
    (∃ cache, s.cache = some cache ∧ cache.counting = true) ∧
      s.counters.Holds Machine.mapCounter (attempts (newer.map (Moment.acts host)).flatten).length := by
  induction course generalizing newer with
  | start => simp at split
  | reorder _ present _ ih =>
    obtain ⟨⟨cache, there, counting⟩, holds⟩ := ih split stays
    cases present.symm.trans there
    exact ⟨⟨_, rfl, counting⟩, holds⟩
  | @step moments s op course _ ih =>
    cases newer with
    | nil =>
      cases split
      obtain ⟨d, left, counts, fresh⟩ := attaches_fresh attaches
      exact ⟨⟨d, left, counts⟩, fresh ▸ .empty _⟩
    | cons u rest =>
      obtain ⟨rfl, before⟩ := List.cons.inj split
      obtain ⟨⟨cache, present, counting⟩, holds⟩ := ih before fun v member => stays v (List.mem_cons_of_mem _ member)
      have lasts := stays _ List.mem_cons_self
      obtain ⟨d, left⟩ := cache_of_attached present lasts
      refine ⟨⟨d, left, counts_after course.indexed present counting lasts left⟩, ?_⟩
      rw [List.map_cons, List.flatten_cons, attempts_append, List.length_append]
      rcases step_asks host op course.indexed with ⟨plain, same, _⟩ | ⟨_, _, _, asks⟩
      · have goesOn : Moment.attaches host ⟨s, op⟩ = false := by
          refine Bool.eq_false_iff.mpr fun again => ?_
          cases lasts.symm.trans (detaches_of_attaches again)
        rw [plain, same goesOn, List.length_nil, Nat.zero_add]
        exact holds
      · cases present.symm.trans asks.present
        rw [asks.once, Nat.add_comm]
        exact holds.increment (asks.counted counting)

/-- Every attempt ended in one of four ways. -/
theorem Course.attempts_length {allowed : Session World Driver Probe Page → Op World Driver Probe → Prop}
    {world : World} {moments : List (Moment World Driver Probe Page)} {s : Session World Driver Probe Page}
    (course : Course host allowed (.start world) moments s) :
    (attempts s.journal).length = moments.countP (Moment.mapsAnew host) + moments.countP (Moment.failsToMap host) +
      moments.countP (Moment.missesPage host) + moments.countP (Moment.breaksLate host) := by
  induction course with
  | start => rfl
  | reorder _ _ _ ih => exact ih
  | @step moments s op course _ ih =>
    have last := Moment.attempts_length host ⟨s, op⟩ course.indexed
    rw [attempts_step host op course.indexed, List.length_append, countP_cons_toNat, countP_cons_toNat,
      countP_cons_toNat, countP_cons_toNat]
    omega

/-- A driver is not asked for a page of which another mapping is still there. -/
theorem Course.asks_apart {allowed : Session World Driver Probe Page → Op World Driver Probe → Prop} {world : World}
    {moments : List (Moment World Driver Probe Page)} {s : Session World Driver Probe Page}
    {cache : Cache Driver Probe Page} {driver : Driver} {gfn : Gfn} {op : Op World Driver Probe}
    (course : Course host allowed (.start world) moments s) (asks : s.Asks host op cache driver gfn) :
    ∃ answer newer older held, Moment.acts host ⟨s, op⟩ = newer ++ .mapped driver gfn .rw answer :: older ∧
      s.cached? gfn = none ∧ lastBound? (older ++ s.journal) = some driver ∧
      Balances (older ++ s.journal) held ∧ ∀ other ∈ held, other.1 ≠ gfn := by
  obtain ⟨_, reach⟩ := course.reached
  have lasting := Machine.tidy_lasting (fun _ _ => True) host
  have always : ∀ m gfn, Machine.MapsApart (fun _ _ => True) host m gfn := fun _ _ _ _ _ _ _ _ => trivial
  have sustained := lasting.reach (fun s op _ => s.heeds_of_always op always) reach
  obtain ⟨indexed, tidy⟩ := sustains_of_cache sustained asks.present
  obtain ⟨newer, answer, older, room, acts, made, journal⟩ := asks.roomed
  obtain ⟨bound, missing⟩ := Machine.due?_eq_some asks.due
  have roomy := tidy.makeRoom host
  rw [made] at roomy
  obtain ⟨gfns, same, _⟩ := Machine.makeRoom_shrinks indexed made
  have free := (Machine.makeRoom_shrinks indexed made).find?_of_missing missing
  have kept : room.cache.store.Indexed := same ▸ indexed.removeAll gfns
  refine ⟨answer, newer, older, room.cache.store.holdings, acts, ?_, journal ▸ roomy.attached driver (same ▸ bound),
    journal ▸ roomy.ledger.balances, fun other => Store.ne_of_mem_holdings kept free⟩
  rw [cached?, asks.present]
  exact missing

/-- A page is asked for exactly when it is due, and then once. -/
theorem Course.asks_when_due {allowed : Session World Driver Probe Page → Op World Driver Probe → Prop}
    {world : World} {moments : List (Moment World Driver Probe Page)} {s : Session World Driver Probe Page}
    (course : Course host allowed (.start world) moments s) (op : Op World Driver Probe)
    (room : ∀ cache, s.cache = some cache → cache.counting = true → (attempts s.journal).length + 1 < 2 ^ 64) :
    attempts (Moment.acts host ⟨s, op⟩) = (Moment.due? host ⟨s, op⟩).toList := by
  rcases step_asks host op course.indexed with ⟨plain, _, none | ⟨cache, present, counting, full⟩⟩ | ⟨_, _, _, asks⟩
  · rw [plain, none]
    rfl
  · have below := course.counted_le cache present counting
    have fits := room cache present counting
    have one : (1 : UInt64).toNat = 1 := rfl
    have past : 2 ^ 64 ≤ _ := add64?_eq_none.mp (Option.map_eq_none_iff.mp full)
    omega
  · rw [asks.once, asks.due?_eq]
    rfl

/-- What can still go wrong after a page came: its address is taken, or the clock is at its end. -/
theorem breaks_late {s : Session World Driver Probe Page} {op : Op World Driver Probe} {f : Fault}
    (indexed : ∀ cache, s.cache = some cache → cache.store.Indexed) (late : Moment.breaksLate host ⟨s, op⟩ = true)
    (broken : (s.step host op).1 = .broken f) :
    ∃ cache driver gfn page newer older, s.cache = some cache ∧
      Moment.acts host ⟨s, op⟩ = newer ++ .mapped driver gfn .rw (.ok page) :: older ∧
      (f = .handleTaken ∧ (∃ other e, s.cached? other = some e ∧ e.handle = host.address page) ∨
        f = .additionOverflow ∧ cache.clock.toNat + 1 = 2 ^ 64) := by
  simp only [Moment.breaksLate, Bool.and_eq_true, Bool.not_eq_true', List.isEmpty_eq_false_iff] at late
  obtain ⟨⟨acquires, _⟩, asked⟩ := late
  obtain ⟨⟨gfn, holder⟩, asks⟩ := Option.isSome_iff_exists.mp acquires
  cases present : s.cache with
  | none => exact absurd (congrArg attempts (acts_of_uncreated present asks)) asked
  | some cache =>
    obtain ⟨outcome, _, _, dealt, reply, _⟩ := step_dealt host present (indexed cache present) asks
    have breaks : outcome = .broken f := Reply.ofAcquired_broken.mp (reply.symm.trans broken)
    obtain ⟨driver, page, newer, older, acts, cause⟩ := dealt.causes (indexed cache present) breaks asked
    refine ⟨cache, driver, gfn, page, newer, older, rfl, acts, ?_⟩
    simp only [cached?, present]
    exact cause

/-- Nothing else asks a driver for a page. -/
theorem attempts_of_silent {s : Session World Driver Probe Page} {op : Op World Driver Probe}
    (indexed : ∀ cache, s.cache = some cache → cache.store.Indexed)
    (silent : op.acquires? = none ∨ (s.step host op).1 = .refused .noSession ∨ (∃ gfn holder e,
      op.acquires? = some (gfn, holder) ∧ s.cached? gfn = some e)) :
    attempts (Moment.acts host ⟨s, op⟩) = [] := by
  rcases step_asks host op indexed with ⟨plain, _⟩ | ⟨cache, driver, gfn, asks⟩
  · exact plain
  · obtain ⟨holder, acquires⟩ := asks.acquires
    obtain ⟨bound, missing⟩ := Machine.due?_eq_some asks.due
    rcases silent with idle | refused | ⟨gfn', holder', e, acquires', found⟩
    · cases idle.symm.trans acquires
    · obtain ⟨_, _, _, dealt, reply, _⟩ := step_dealt host asks.present (indexed cache asks.present) acquires
      rw [reply, Reply.ofAcquired_refused] at refused
      cases bound.symm.trans (dealt.driver_of_noSession refused)
    · cases acquires.symm.trans acquires'
      rw [cached?, asks.present] at found
      cases missing.symm.trans found

end Session

/-- Over any run with any drivers, what is mapped is what is due, and every attempt is accounted for. -/
theorem Session.Course.maps_when_due {allowed : Session World Driver Probe Page → Op World Driver Probe → Prop}
    {world : World} {moments : List (Moment World Driver Probe Page)} {s : Session World Driver Probe Page}
    (course : Session.Course host allowed (.start world) moments s) :
    s.MapsWhenDue host moments where
  once := course.asks_when_due
  only op := by
    rcases step_asks host op course.indexed with ⟨plain, _⟩ | ⟨_, _, _, asks⟩
    · exact .inl plain
    · exact .inr (by rw [asks.once, asks.due?_eq]; rfl)
  apart op asked := by
    rcases step_asks host op course.indexed with ⟨plain, _⟩ | ⟨_, driver, gfn, asks⟩
    · exact absurd plain asked
    · obtain ⟨holder, acquires⟩ := asks.acquires
      obtain ⟨answer, newer, older, held, acts, missing, rest⟩ := course.asks_apart asks
      exact ⟨driver, gfn, holder, answer, newer, older, held, acts, acquires, missing, rest⟩
  counted newer t older split attaches stays := (course.counted split attaches stays).2.shows
  still op plain stays := by
    rcases step_asks host op course.indexed with ⟨_, same, _⟩ | ⟨_, _, _, asks⟩
    · exact same stays
    · cases plain.symm.trans asks.once
  balanced := course.attempts_length
  late _ _ := breaks_late course.indexed
  silent _ := attempts_of_silent course.indexed

/-- An outside in which one number cannot be mapped, one page is not resident, and one lies at the address of
another. -/
def wayward : Host Nat Unit Unit Nat :=
  { shelf with
    map := fun _ gfn _ mapped => if gfn = ⟨9⟩ then (.error (.plain .notFound), mapped) else (.ok mapped, mapped + 1)
    address := fun page => ⟨UInt64.ofNat (4096 * if page = 3 then 1 else page + 1)⟩
    probe := fun _ h _ mapped => (.ok (h.address != 8192), mapped) }

/-- A run in which attempts end in every way. The first one is not counted. -/
def countedLater : List (Op Nat Unit Unit) :=
  [.create none, .acquire ⟨1⟩, .setPolicy .probe, .bind (), .acquire ⟨1⟩, .setCounting true, .acquire ⟨2⟩, .acquire ⟨9⟩,
    .acquire ⟨1⟩, .acquire ⟨2⟩, .get ⟨4⟩ "guard", .bind (), .get ⟨5⟩ "guard"]

/-- The table was attached after the first attempt, so it counts one less. -/
theorem mapsWhenDue_countedLater :
    (attempts (Session.run wayward (.start 0) countedLater).journal).length = 6 ∧
      ((Session.run wayward (.start 0) countedLater).counters.get Machine.mapCounter).toNat = 5 ∧
      (Session.run wayward (.start 0) countedLater).MapsWhenDue wayward
        ((Session.start 0).moments wayward countedLater) := by
  have permitted : (Session.start 0).Permits wayward (fun _ _ => True) countedLater := by decide
  exact ⟨by decide +kernel, by decide +kernel, Session.Course.maps_when_due permitted.course⟩

end ForeignPages
