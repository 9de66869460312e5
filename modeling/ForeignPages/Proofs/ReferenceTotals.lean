import ForeignPages.Proofs.HeldPages
import ForeignPages.Proofs.Welcome

namespace ForeignPages

variable {World Driver Probe Page : Type} {host : Host World Driver Probe Page}

/-- What the counters of the cached pages say, and where they stand in the way. -/
structure Session.CountsReferences (host : Host World Driver Probe Page) (s : Session World Driver Probe Page) :
    Prop where
  total : ∀ cache gfn e, s.cache = some cache → cache.store.find? gfn = some e →
    (e.Small → ∃ n, cache.references? gfn = .ok (some n) ∧ n.toNat = e.refs.toNat + e.guards.toNat) ∧
    (¬ e.Small → cache.references? gfn = .error .additionOverflow)
  guards : ∀ gfn e, s.cached? gfn = some e → e.guards.toNat = s.guards.values.countP (·.gfn = gfn)
  /-- Where no page comes to the address of a cached one, the rest of the total are the acquisitions that were not
  released. -/
  refs : ∀ world past first moments, Reach host (fun _ _ => True) world past first → first.Fresh →
    Course host (MapsApart host) first moments s → ∀ gfn e, s.cached? gfn = some e →
    e.refs.toNat + (sinceMapped host gfn moments).countP (Moment.releases gfn e.handle) =
      (sinceMapped host gfn moments).countP (Moment.acquires host gfn)
  /-- A page that is welcome comes in unless some page of a full cache has no total, or the attempt cannot be
  counted. -/
  acquired : ∀ (op : Op World Driver Probe) gfn holder cache driver page evicted, op.acquires? = some (gfn, holder) →
    s.cache = some cache → cache.driver = some driver → s.cached? gfn = none → cache.GivesUp evicted →
    cache.Welcomes host evicted (host.unmapAll evicted s.world) driver gfn page → cache.clock.toNat + 1 < 2 ^ 64 →
    (s.machine cache).countMapping?.isSome →
    (cache.limit ≤ cache.store.entries.length → ∀ e ∈ cache.store.entries, e.Small) →
    (s.step host op).1 =
      .ofAcquired (.done ⟨host.address page, host.pageSize driver (host.unmapAll evicted s.world)⟩) holder
  stuck : ∀ (op : Op World Driver Probe) gfn holder cache driver, op.acquires? = some (gfn, holder) →
    s.cache = some cache → cache.driver = some driver → s.cached? gfn = none →
    cache.limit ≤ cache.store.entries.length → (∃ e ∈ cache.store.entries, ¬ e.Small) →
    s.step host op = (.broken .additionOverflow, s)
  /-- The attempts to map pages have a counter too. -/
  uncounted : ∀ (op : Op World Driver Probe) gfn holder cache driver, op.acquires? = some (gfn, holder) →
    s.cache = some cache → cache.driver = some driver → s.cached? gfn = none →
    (s.machine cache).countMapping? = none → (s.step host op).1 = .broken .additionOverflow

theorem Entry.references?_of_large {e : Entry Page} (large : ¬ e.Small) : e.references? = none :=
  add32?_eq_none.mpr (Nat.not_lt.mp large)

namespace Machine

/-- A page without a total keeps room from being made. -/
theorem makeRoom_of_large {m : Machine World Driver Probe Page} {e : Entry Page} (host : Host World Driver Probe Page)
    (indexed : m.cache.store.Indexed) (full : m.cache.limit ≤ m.cache.store.entries.length)
    (cached : e ∈ m.cache.store.entries) (large : ¬ e.Small) : m.makeRoom host = (.error .additionOverflow, m) := by
  have unsummed : ¬ m.cache.store.entries.all (·.references?.isSome) = true := by
    intro all
    have sum := List.all_eq_true.mp all e cached
    rw [Entry.references?_of_large large] at sum
    cases sum
  rw [makeRoom_eq indexed, if_pos full, cleanUp, indexed.size?_eq, Store.unused?, if_neg unsummed]

/-- A mapping that cannot be counted is not made. -/
theorem acquire_of_uncounted {m : Machine World Driver Probe Page} {driver : Driver} {gfn : Gfn}
    (indexed : m.cache.store.Indexed) (bound : m.cache.driver = some driver) (missing : m.cache.store.find? gfn = none)
    (full : m.countMapping? = none) (holder : Holder) :
    (m.acquire host gfn holder).1 = .broken .additionOverflow := by
  simp only [acquire, bound, missing, acquireNew]
  cases made : m.makeRoom host with
  | mk result room =>
    cases result with
    | error fault =>
      obtain ⟨rfl, _⟩ := makeRoom_error indexed made
      rfl
    | ok _ =>
      have counts := makeRoom_countMapping? indexed made
      rw [full, Option.isSome_none, Option.isSome_eq_false_iff, Option.isNone_iff_eq_none] at counts
      simp only [counts]

end Machine

/-- Nothing is done about a page while the cache is full and another one has no total. -/
theorem Session.step_of_large {s : Session World Driver Probe Page} {op : Op World Driver Probe}
    {cache : Cache Driver Probe Page} {driver : Driver} {gfn : Gfn} {holder : Holder} {e : Entry Page}
    (indexed : cache.store.Indexed) (asks : op.acquires? = some (gfn, holder)) (present : s.cache = some cache)
    (bound : cache.driver = some driver) (missing : s.cached? gfn = none)
    (full : cache.limit ≤ cache.store.entries.length) (cached : e ∈ cache.store.entries) (large : ¬ e.Small) :
    s.step host op = (.broken .additionOverflow, s) := by
  have uncached : (s.machine cache).cache.store.find? gfn = none := by rwa [cached?, present] at missing
  have noRoom := Machine.makeRoom_of_large (m := s.machine cache) host indexed full cached large
  have broken : (s.machine cache).acquire host gfn holder = (.broken .additionOverflow, s.machine cache) := by
    simp only [Machine.acquire, show (s.machine cache).cache.driver = some driver from bound, uncached,
      Machine.acquireNew, noRoom]
  obtain ⟨_, _, _, _, reply⟩ := step_acquires host present asks
  rw [broken, Reply.ofAcquired_of_broken] at reply
  obtain ⟨_, step⟩ := step_of_failed present asks (by rw [reply]; rfl)
  rw [step, broken, Reply.ofAcquired_of_broken, resume_machine present]

/-- Every counter of a page is exact in itself. Only their sum may have no word, and then nothing else fails but what
adds them up. -/
theorem Session.Reach.counts_references {allowed : Session World Driver Probe Page → Op World Driver Probe → Prop}
    {world : World} {past : List (Op World Driver Probe × Reply)} {s : Session World Driver Probe Page}
    (reach : Session.Reach host allowed world past s) : s.CountsReferences host := by
  constructor
  case total =>
    refine fun cache gfn e present found => ⟨fun small => ?_, fun large => ?_⟩
    · obtain ⟨n, sum, exact'⟩ := small.references?_eq
      exact ⟨n, (Cache.references?_iff found).mpr exact', exact'⟩
    · rw [Cache.references?, found]
      dsimp only
      rw [Entry.references?_of_large large]
  case guards =>
    intro gfn e cached
    obtain ⟨cache, present, found⟩ := Session.cached?_eq_some.mp cached
    exact (Session.sustains_of_cache reach.guarded present).2.counted gfn e found
  case refs =>
    intro world past first moments begun fresh course gfn e cached
    exact course.balanced (begun.linked_of_fresh fresh) fresh cached
  case acquired =>
    intro op gfn holder cache driver page evicted asks present bound missing gives welcomes runs counts small
    have indexed := reach.indexed present
    have uncached : cache.store.find? gfn = none := by rwa [Session.cached?, present] at missing
    obtain ⟨room, made⟩ := Machine.makeRoom_of_totals (m := s.machine cache) host indexed small
    obtain ⟨_, _, _, _, reply⟩ := Session.step_acquires host present asks
    rw [reply, Machine.acquire_of_welcome (m := s.machine cache) indexed bound uncached gives made welcomes runs counts]
    rfl
  case stuck =>
    intro op gfn holder cache driver asks present bound missing full held
    obtain ⟨e, cached, large⟩ := held
    exact Session.step_of_large (reach.indexed present) asks present bound missing full cached large
  case uncounted =>
    intro op gfn holder cache driver asks present bound missing full
    have uncached : cache.store.find? gfn = none := by rwa [Session.cached?, present] at missing
    obtain ⟨_, _, _, _, reply⟩ := Session.step_acquires host present asks
    rw [reply, Machine.acquire_of_uncounted (m := s.machine cache) (reach.indexed present) bound uncached full,
      Reply.ofAcquired_of_broken]

/-- A run that fills a cache with held pages, of which the first one is held twice and by a guard. At last another
page is released. -/
def heldShelf : List (Op Nat Unit Unit) :=
  [.create (some ()), .setLimit 50] ++ (List.range 50).map (fun n => .acquire ⟨UInt64.ofNat n⟩) ++
    [.acquire ⟨0⟩, .get ⟨0⟩ "guard", .release (shelf.address 1)]

/-- Three references to the oldest page make one total, and the next page comes in. -/
theorem counts_references_heldShelf :
    ((Session.run shelf (.start 0) heldShelf).cache.bind fun cache => (cache.references? ⟨0⟩).toOption) =
      some (some 3) ∧
    ((Session.run shelf (.start 0) heldShelf).step shelf (.acquire ⟨50⟩)).1 = .handle (shelf.address 50) ∧
    (Session.run shelf (.start 0) heldShelf).CountsReferences shelf := by
  have begun : Session.Reach shelf (fun _ _ => True) 0 [] (.start 0) := .start
  have permitted : (Session.start 0).Permits shelf (fun _ _ => True) heldShelf := by decide +kernel
  obtain ⟨_, reach⟩ := begun.run permitted
  exact ⟨by decide +kernel, by decide +kernel, Session.Reach.counts_references reach⟩

/-- A page that was acquired again and again, in a cache that is otherwise the same. -/
structure Cache.Tallies (c : Cache Driver Probe Page) (gfn : Gfn) (n : Nat) (d : Cache Driver Probe Page) : Prop where
  settings : ∃ store clock, d = { c with store, clock }
  clock : d.clock.toNat = c.clock.toNat + n
  length : d.store.entries.length = c.store.entries.length
  found : ∀ e, c.store.find? gfn = some e → ∃ f, d.store.find? gfn = some f ∧ f.handle = e.handle ∧
    f.refs.toNat = e.refs.toNat + n ∧ f.guards = e.guards
  others : ∀ other, other ≠ gfn → d.store.find? other = c.store.find? other

namespace Cache.Tallies

theorem refl (c : Cache Driver Probe Page) (gfn : Gfn) : c.Tallies gfn 0 c :=
  ⟨⟨_, _, rfl⟩, rfl, rfl, fun e found => ⟨e, found, rfl, rfl, rfl⟩, fun _ _ => rfl⟩

theorem trans {b c d : Cache Driver Probe Page} {gfn : Gfn} {n k : Nat} (first : b.Tallies gfn n c)
    (second : c.Tallies gfn k d) : b.Tallies gfn (n + k) d where
  settings := by
    obtain ⟨_, _, rfl⟩ := first.settings
    obtain ⟨_, _, rfl⟩ := second.settings
    exact ⟨_, _, rfl⟩
  clock := by rw [second.clock, first.clock, Nat.add_assoc]
  length := second.length.trans first.length
  found e found := by
    obtain ⟨f, found, handle, refs, guards⟩ := first.found e found
    obtain ⟨g, found, handle', refs', guards'⟩ := second.found f found
    exact ⟨g, found, handle'.trans handle, by rw [refs', refs, Nat.add_assoc], guards'.trans guards⟩
  others other different := (second.others other different).trans (first.others other different)

end Cache.Tallies

namespace Session

/-- One more acquisition of a page moves its counter and the clock, and nothing else. -/
theorem step_tallies {s : Session World Driver Probe Page} {cache : Cache Driver Probe Page} {driver : Driver}
    {gfn : Gfn} {e : Entry Page} (host : Host World Driver Probe Page) (present : s.cache = some cache)
    (bound : cache.driver = some driver) (found : cache.store.find? gfn = some e) (fits : e.refs.toNat + 1 < 2 ^ 32)
    (runs : cache.clock.toNat + 1 < 2 ^ 64) :
    ∃ after, (s.step host (.acquire gfn)).2 = { s with cache := some after } ∧ cache.Tallies gfn 1 after := by
  obtain ⟨next, more, given⟩ := Cache.tick?_of_lt runs
  have pins : ({ e with lastUse := cache.clock } : Entry Page).pin? .handle =
      some { e with lastUse := cache.clock, refs := e.refs + 1 } := congrArg (Option.map _) (if_pos fits)
  have hit := Machine.acquire_of_found (m := s.machine cache) host bound found .handle
  refine ⟨{ cache with
    clock := next
    store := cache.store.change gfn fun _ => { e with lastUse := cache.clock, refs := e.refs + 1 } }, ?_, ?_⟩
  · simp only [step, onCache, present, hit, Machine.acquireCached]
    rw [show (s.machine cache).cache.tick? = some (cache.clock, { cache with clock := next }) from given]
    dsimp only
    rw [pins]
    rfl
  · refine ⟨⟨_, _, rfl⟩, more, ?_, fun f found' => ?_, fun other different => ?_⟩
    · simp [Store.entries, Store.change, Index.change, Index.values]
    · cases found.symm.trans found'
      refine ⟨{ e with lastUse := cache.clock, refs := e.refs + 1 }, ?_, rfl, ?_, rfl⟩
      · rw [Store.find?_change, if_pos rfl, found]
        rfl
      · exact (UInt32.toNat_add e.refs 1).trans (Nat.mod_eq_of_lt fits)
    · rw [Store.find?_change, if_neg different]

/-- However often a page is acquired, nothing but its counter and the clock moves. -/
theorem run_tallies {s : Session World Driver Probe Page} {cache : Cache Driver Probe Page} {driver : Driver}
    {gfn : Gfn} {e : Entry Page} (host : Host World Driver Probe Page) (present : s.cache = some cache)
    (bound : cache.driver = some driver) (found : cache.store.find? gfn = some e) (n : Nat)
    (fits : e.refs.toNat + n < 2 ^ 32) (runs : cache.clock.toNat + n < 2 ^ 64) :
    ∃ after, s.run host (List.replicate n (.acquire gfn)) = { s with cache := some after } ∧
      cache.Tallies gfn n after := by
  -- The entry differs at each turn by its counter, so the induction is over all entries at once.
  induction n generalizing s cache e with
  | zero => exact ⟨cache, by rw [← present]; rfl, .refl cache gfn⟩
  | succ n ih =>
    obtain ⟨next, step, tallies⟩ := step_tallies host present bound found (by omega) (by omega)
    obtain ⟨f, again, _, refs, _⟩ := tallies.found e found
    have still : next.driver = some driver := by
      obtain ⟨_, _, rfl⟩ := tallies.settings
      exact bound
    have clock := tallies.clock
    obtain ⟨after, run, more⟩ := ih (s := { s with cache := some next }) rfl still again (by omega) (by omega)
    refine ⟨after, ?_, ?_⟩
    · rw [List.replicate_succ, Session.run, List.foldl_cons, step]
      exact run
    · rw [Nat.add_comm]
      exact tallies.trans more

end Session

/-- A run that fills a cache with held pages, the first of which is held by a guard too. -/
def crowdedShelf : List (Op Nat Unit Unit) :=
  [.create (some ()), .setLimit 50] ++ (List.range 50).map (fun n => .acquire ⟨UInt64.ofNat n⟩) ++ [.get ⟨0⟩ "guard"]

/-- The same run, after which the first page is acquired as many times more as its counter allows. -/
def overheldShelf : List (Op Nat Unit Unit) := crowdedShelf ++ List.replicate (2 ^ 32 - 2) (.acquire ⟨0⟩)

theorem Session.permits_always (host : Host World Driver Probe Page) (s : Session World Driver Probe Page)
    (ops : List (Op World Driver Probe)) : s.Permits host (fun _ _ => True) ops := by
  induction ops generalizing s with
  | nil => trivial
  | cons op rest ih => exact ⟨trivial, ih _⟩

namespace Session

/-- Every cached page has a total. -/
def HasTotals (s : Session World Driver Probe Page) : Prop :=
  ∀ cache gfn e, s.cache = some cache → cache.store.find? gfn = some e →
    ∃ n, cache.references? gfn = .ok (some n) ∧ n.toNat = e.refs.toNat + e.guards.toNat

/-- Every page that is welcome can be acquired. -/
def TakesIn (host : Host World Driver Probe Page) (s : Session World Driver Probe Page) : Prop :=
  ∀ (op : Op World Driver Probe) gfn holder cache driver page evicted, op.acquires? = some (gfn, holder) →
    s.cache = some cache → cache.driver = some driver → s.cached? gfn = none → cache.GivesUp evicted →
    cache.Welcomes host evicted (host.unmapAll evicted s.world) driver gfn page → cache.clock.toNat + 1 < 2 ^ 64 →
    (s.machine cache).countMapping?.isSome → ∃ lease, (s.step host op).1 = .ofAcquired (.done lease) holder

end Session

/-- What the second of these runs leads to: nothing moved but the counter of the first page and the clock. -/
theorem overheldShelf_cache : (Session.run shelf (.start 0) overheldShelf).world = 50 ∧ ∃ cache e,
    (Session.run shelf (.start 0) overheldShelf).cache = some cache ∧ cache.driver = some () ∧ cache.limit = 50 ∧
    cache.store.entries.length = 50 ∧ cache.clock.toNat + 1 < 2 ^ 64 ∧ cache.counting = false ∧
    cache.store.find? ⟨0⟩ = some e ∧ ¬ e.Small ∧ cache.store.find? ⟨50⟩ = none ∧
    ∀ f ∈ cache.store.entries, f.handle ≠ shelf.address 50 := by
  have state : (Session.run shelf (.start 0) crowdedShelf).cache.any (fun c =>
      decide (c.driver = some () ∧ c.limit = 50 ∧ c.store.entries.length = 50 ∧ c.clock.toNat = 51 ∧
        c.counting = false ∧ ∀ f ∈ c.store.entries, f.handle ≠ shelf.address 50) &&
      (c.store.find? ⟨0⟩).any (fun e => decide (e.refs.toNat = 1 ∧ e.guards.toNat = 1)) &&
      (c.store.find? ⟨50⟩).isNone) = true := by decide +kernel
  have world : (Session.run shelf (.start 0) crowdedShelf).world = 50 := by decide +kernel
  have run : Session.run shelf (.start 0) overheldShelf =
      (Session.run shelf (.start 0) crowdedShelf).run shelf (List.replicate (2 ^ 32 - 2) (.acquire ⟨0⟩)) :=
    List.foldl_append
  rw [run]
  generalize Session.run shelf (.start 0) crowdedShelf = s at state world
  cases present : s.cache with
  | none => simp only [present, Option.any_none, Bool.false_eq_true] at state
  | some cache =>
    simp only [present, Option.any_some, Bool.and_eq_true, decide_eq_true_eq, Option.isNone_iff_eq_none] at state
    obtain ⟨⟨⟨bound, limit, full, clock, uncounted, apart⟩, first⟩, missing⟩ := state
    obtain ⟨e, found, counts⟩ := (Option.any_eq_true _ _).mp first
    obtain ⟨refs, guards⟩ := of_decide_eq_true counts
    obtain ⟨after, ran, tallies⟩ := s.run_tallies shelf present bound found (2 ^ 32 - 2) (by omega) (by omega)
    obtain ⟨f, found', handle, refs', guards'⟩ := tallies.found e found
    obtain ⟨_, _, settings⟩ := tallies.settings
    have clock' := tallies.clock
    rw [ran]
    refine ⟨world, after, f, rfl, ?_, ?_, tallies.length.trans full, by omega, ?_, found', ?_, ?_, ?_⟩
    · rw [settings, bound]
    · rw [settings, limit]
    · rw [settings, uncounted]
    · rw [Entry.Small, refs', guards', refs, guards]
      omega
    · rw [tallies.others _ (by decide), missing]
    · intro g cached
      obtain ⟨gfn, there⟩ := Store.mem_entries.mp cached
      by_cases same : gfn = ⟨0⟩
      · cases found'.symm.trans (same ▸ there)
        rw [handle]
        exact apart e (Store.mem_entries.mpr ⟨_, found⟩)
      · rw [tallies.others gfn same] at there
        exact apart g (Store.mem_entries.mpr ⟨gfn, there⟩)

/-- The first page of that run has no total, and keeps all others out. -/
theorem total_missing_overheldShelf :
    (∃ past, Session.Reach shelf (fun _ _ => True) 0 past (Session.run shelf (.start 0) overheldShelf)) ∧
    ¬ (Session.run shelf (.start 0) overheldShelf).HasTotals ∧
    ¬ (Session.run shelf (.start 0) overheldShelf).TakesIn shelf := by
  obtain ⟨past, reach⟩ := Session.Reach.start.run (Session.permits_always shelf (.start 0) overheldShelf)
  obtain ⟨world, cache, e, present, bound, limit, length, clock, uncounted, found, large, missing, apart⟩ :=
    overheldShelf_cache
  generalize Session.run shelf (.start 0) overheldShelf = s at reach world present ⊢
  refine ⟨⟨past, reach⟩, ?_, ?_⟩
  · intro totals
    obtain ⟨n, sum, _⟩ := totals cache ⟨0⟩ e present found
    rw [Cache.references?, found] at sum
    dsimp only at sum
    rw [Entry.references?_of_large large] at sum
    cases sum
  · intro takes
    have indexed := reach.indexed present
    obtain ⟨evicted, gives⟩ := (reach.clocked present).givesUp indexed
    have uncached : s.cached? ⟨50⟩ = none := by rw [Session.cached?, present]; exact missing
    have welcomes : cache.Welcomes shelf evicted (shelf.unmapAll evicted s.world) () ⟨50⟩ s.world :=
      welcomes_of_shelf (by rwa [world]) evicted ⟨50⟩
    have counts : (s.machine cache).countMapping?.isSome := by
      rw [Machine.countMapping?, show (s.machine cache).cache.counting = false from uncounted]
      rfl
    obtain ⟨lease, reply⟩ :=
      takes (.acquire ⟨50⟩) ⟨50⟩ .handle cache () s.world evicted rfl present bound uncached gives welcomes clock counts
    have full : cache.limit ≤ cache.store.entries.length := by omega
    have stuck : s.step shelf (.acquire ⟨50⟩) = (.broken .additionOverflow, s) :=
      Session.step_of_large indexed rfl present bound uncached full (Store.mem_entries.mpr ⟨_, found⟩) large
    rw [stuck] at reply
    cases reply

end ForeignPages
