import ForeignPages.Proofs.RecencySteps

namespace ForeignPages

variable {World Driver Probe Page : Type} {host : Host World Driver Probe Page}

namespace Session

/-- A session whose cache has lost its pages and its clock. -/
def bare (s : Session World Driver Probe Page) : Session World Driver Probe Page :=
  { s with cache := s.cache.map Cache.bare }

/-- A session with a list that says the same as a session with a cache. -/
structure ShownBy (host : Host World Driver Probe Page) (s : Session World Driver Probe Page)
    (q : RecencySession World Driver Probe Page) : Prop where
  rest : q.rest = s.bare
  lines : ∀ cache, s.cache = some cache → cache.Lines host q.slots
  empty : s.cache = none → q.slots = []

/-- The same reply from both, and sessions that say the same. -/
structure Matches (host : Host World Driver Probe Page) (a : Reply × Session World Driver Probe Page)
    (b : Reply × RecencySession World Driver Probe Page) : Prop where
  reply : b.1 = a.1
  shown : a.2.ShownBy host b.2

/-- The cached pages in the order in which the store goes through them. -/
def pages (s : Session World Driver Probe Page) : List Page :=
  match s.cache with
  | none => []
  | some cache => cache.store.entries.map (·.page)

/-- Everything that an acquisition of a run needs. -/
def Calm (host : Host World Driver Probe Page) (s : Session World Driver Probe Page)
    (op : Op World Driver Probe) : Prop :=
  s.Heeds (fun m gfn => m.Calm host gfn) op

namespace ShownBy

theorem guards_eq {s : Session World Driver Probe Page} {q : RecencySession World Driver Probe Page}
    (shown : s.ShownBy host q) : q.rest.guards = s.guards := by
  rw [shown.rest]
  rfl

theorem no_cache {s : Session World Driver Probe Page} {q : RecencySession World Driver Probe Page}
    (shown : s.ShownBy host q) (gone : s.cache = none) : q.rest.cache = none := by
  rw [shown.rest, bare, gone]
  rfl

theorem has_cache {s : Session World Driver Probe Page} {q : RecencySession World Driver Probe Page}
    {cache : Cache Driver Probe Page} (shown : s.ShownBy host q) (present : s.cache = some cache) :
    q.rest.cache = some cache.bare := by
  rw [shown.rest, bare, present]
  rfl

theorem machine {s : Session World Driver Probe Page} {q : RecencySession World Driver Probe Page}
    {cache : Cache Driver Probe Page} (shown : s.ShownBy host q) (present : s.cache = some cache) :
    (s.machine cache).ShownBy host (q.recency cache.bare) := by
  refine ⟨shown.lines cache present, ?_⟩
  unfold RecencySession.recency
  rw [shown.rest]
  rfl

/-- After work on the cache and on the list, the sessions around them say the same. -/
theorem resume {s : Session World Driver Probe Page} {q : RecencySession World Driver Probe Page}
    {m : Machine World Driver Probe Page} {r : Recency World Driver Probe Page} (guards : q.rest.guards = s.guards)
    (shown : m.ShownBy host r) :
    (s.resume m).ShownBy host (q.resume r) where
  rest := by
    unfold RecencySession.resume Session.resume
    rw [shown.rest, guards]
    rfl
  lines c same := by
    cases same
    exact shown.lines
  empty none := nomatch none

theorem withGuards {s : Session World Driver Probe Page} {q : RecencySession World Driver Probe Page}
    (shown : s.ShownBy host q) (guards : Index String Guard) :
    ShownBy host { s with guards } { q with rest := { q.rest with guards } } :=
  ⟨by rw [shown.rest]; rfl, shown.lines, shown.empty⟩

/-- The session with a cache that ended, and with it all pages. -/
theorem ended {s : Session World Driver Probe Page} {q : RecencySession World Driver Probe Page}
    {m : Machine World Driver Probe Page} {r : Recency World Driver Probe Page} {guards guards' : Index String Guard}
    (same : guards' = guards) (rest : r.rest = m.bare) :
    ShownBy host { s.resume m with cache := none, guards }
      ⟨[], { q.rest.resume r.rest with cache := none, guards := guards' }⟩ where
  rest := by
    rw [rest, same]
    rfl
  lines c same := nomatch same
  empty _ := rfl

theorem pages_perm {s : Session World Driver Probe Page} {q : RecencySession World Driver Probe Page}
    (shown : s.ShownBy host q) : (q.slots.map (·.page)).Perm s.pages := by
  unfold pages
  split
  · next none =>
    rw [shown.empty none]
    exact .refl _
  · next present => exact (shown.machine present).pages_perm

/-- Work that does the same on both gets the same reply from both. -/
theorem onCache {s : Session World Driver Probe Page} {q : RecencySession World Driver Probe Page}
    {work : Machine World Driver Probe Page → Reply × Machine World Driver Probe Page}
    {work' : Recency World Driver Probe Page → Reply × Recency World Driver Probe Page} (shown : s.ShownBy host q)
    (same : ∀ cache r, s.cache = some cache → (s.machine cache).ShownBy host r →
      ForeignPages.Matches host (work (s.machine cache)) (work' r)) :
    Matches host (s.onCache work) (q.onCache work') := by
  unfold Session.onCache RecencySession.onCache
  cases present : s.cache with
  | none =>
    rw [shown.no_cache present]
    exact ⟨rfl, shown⟩
  | some cache =>
    have done := same cache (q.recency cache.bare) present (shown.machine present)
    rw [shown.has_cache present]
    exact ⟨done.result, resume shown.guards_eq done.shown⟩

/-- So does work that has to wait for the guards. -/
theorem configure {s : Session World Driver Probe Page} {q : RecencySession World Driver Probe Page}
    {work : Machine World Driver Probe Page → Reply × Machine World Driver Probe Page}
    {work' : Recency World Driver Probe Page → Reply × Recency World Driver Probe Page} (shown : s.ShownBy host q)
    (same : ∀ cache r, s.cache = some cache → (s.machine cache).ShownBy host r →
      ForeignPages.Matches host (work (s.machine cache)) (work' r)) :
    Matches host (s.configure work) (q.configure work') := by
  unfold Session.configure RecencySession.configure
  rw [shown.guards_eq]
  split
  · exact shown.onCache same
  · exact ⟨rfl, shown⟩

theorem configureRest {s : Session World Driver Probe Page} {q : RecencySession World Driver Probe Page}
    {work : Machine World Driver Probe Page → Reply × Machine World Driver Probe Page} (shown : s.ShownBy host q)
    (aside : Machine.Aside work) :
    Matches host (s.configure work) (q.configure (Recency.onRest work)) :=
  shown.configure fun _ _ _ machine => machine.onRest aside

theorem setLimit {s : Session World Driver Probe Page} {q : RecencySession World Driver Probe Page}
    (shown : s.ShownBy host q) (limit : Nat) (order : List Page) :
    Matches host (s.step host (.setLimit limit)) (q.step host order (.setLimit limit)) := by
  simp only [Session.step, RecencySession.step, Cache.setLimit]
  by_cases small : limit < minLimit
  · simp only [if_pos small]
    have aside : Machine.Aside fun m : Machine World Driver Probe Page =>
      (.refused (.limitTooSmall limit minLimit), m) := ⟨fun _ => rfl, fun _ => rfl, fun _ => rfl, fun _ => rfl⟩
    exact shown.onCache fun _ _ _ machine => machine.onRest aside
  · simp only [if_neg small]
    have aside : Machine.Aside fun m : Machine World Driver Probe Page =>
      (.nothing, { m with cache := { m.cache with limit } }) :=
      ⟨fun _ => rfl, fun _ => rfl, fun _ => rfl, fun _ => rfl⟩
    exact shown.onCache fun _ _ _ machine => machine.onRest aside

/-- So does work through a guard. -/
theorem onGuard {s : Session World Driver Probe Page} {q : RecencySession World Driver Probe Page} {name : String}
    {work : Guard → Machine World Driver Probe Page → Reply × Machine World Driver Probe Page}
    {work' : Guard → Recency World Driver Probe Page → Reply × Recency World Driver Probe Page}
    (shown : s.ShownBy host q)
    (same : ∀ g m r, Machine.ShownBy host m r → ForeignPages.Matches host (work g m) (work' g r)) :
    Matches host (s.onGuard name work) (q.onGuard name work') := by
  unfold Session.onGuard RecencySession.onGuard
  rw [shown.guards_eq]
  cases s.guards.find? name with
  | none => exact ⟨rfl, shown⟩
  | some g => exact shown.onCache fun _ r _ => same g _ r

/-- Guards are given back alike, one after another. -/
theorem releaseGuards {m : Machine World Driver Probe Page} {r : Recency World Driver Probe Page}
    (shown : m.ShownBy host r) (live : List Guard) :
    (live.foldl (fun m g => (m.releaseGuard g.gfn).2) m).ShownBy host
        (live.foldl (fun r g => (r.releaseGuard g.gfn).2) r) ∧
      (live.foldl (fun m g => (m.releaseGuard g.gfn).2) m).cache.store.entries.map (·.page) =
        m.cache.store.entries.map (·.page) := by
  induction live generalizing m r with
  | nil => exact ⟨shown, rfl⟩
  | cons g rest ih =>
    obtain ⟨same, pages⟩ := ih (shown.releaseGuard g.gfn).shown
    exact ⟨same, pages.trans (m.releaseGuard_recounts g.gfn).pages_eq⟩

/-- Both end alike, whatever order the pages are given back in. -/
theorem close {s : Session World Driver Probe Page} {q : RecencySession World Driver Probe Page}
    (shown : s.ShownBy host q) : (s.close host).ShownBy host (q.close host s.pages) := by
  unfold Session.close Session.dropGuards RecencySession.close pages
  cases present : s.cache with
  | none =>
    obtain ⟨_, guards, world, counters, journal⟩ := s
    cases present
    rw [shown.rest]
    exact ⟨rfl, nofun, fun _ => rfl⟩
  | some cache =>
    obtain ⟨dropped, pages⟩ := releaseGuards (shown.machine present) s.guards.values
    have destroyed := dropped.destroy
    rw [pages] at destroyed
    rw [shown.has_cache present, shown.guards_eq]
    exact ended rfl destroyed

/-- Both begin alike. -/
theorem create {s : Session World Driver Probe Page} {q : RecencySession World Driver Probe Page}
    (shown : s.ShownBy host q) (driver : Option Driver) :
    (s.create host driver).ShownBy host (q.create host s.pages driver) := by
  have closed := shown.close
  have fresh : ((s.close host).machine (.unbound host)).ShownBy host
      ((q.close host s.pages).recency (.unbound host)) := by
    unfold RecencySession.recency
    rw [closed.empty (s.close_cache host), closed.rest]
    exact ⟨.empty rfl, rfl⟩
  unfold Session.create RecencySession.create
  cases driver with
  | none => exact resume closed.guards_eq fresh
  | some driver => exact resume closed.guards_eq (fresh.bind driver)

theorem setOptions {s : Session World Driver Probe Page} {q : RecencySession World Driver Probe Page}
    (shown : s.ShownBy host q) (options : Options) :
    Matches host (s.setOptions host options) (q.setOptions host s.pages options) := by
  unfold Session.setOptions RecencySession.setOptions pages
  rw [shown.guards_eq]
  split
  · cases present : s.cache with
    | none =>
      rw [shown.no_cache present]
      exact ⟨rfl, shown⟩
    | some cache =>
      have machine := shown.machine present
      rw [shown.has_cache present]
      unfold Machine.withOptions Cache.setLimit
      by_cases small : options.limit < minLimit
      · simp only [if_pos small]
        exact ⟨rfl, ended shown.guards_eq machine.destroy⟩
      · simp only [if_neg small]
        refine ⟨rfl, resume shown.guards_eq ⟨machine.lines.of_same rfl rfl, ?_⟩⟩
        unfold RecencySession.recency
        rw [shown.rest]
        rfl
  · exact ⟨rfl, shown⟩

/-- A guard is taken alike. -/
theorem get {s : Session World Driver Probe Page} {q : RecencySession World Driver Probe Page} {gfn : Gfn}
    (shown : s.ShownBy host q) (calm : ∀ cache, s.cache = some cache → (s.machine cache).Calm host gfn)
    (name : String) :
    Matches host (s.get host gfn name) (q.get host gfn name) := by
  unfold Session.get RecencySession.get
  cases present : s.cache with
  | none =>
    rw [shown.no_cache present]
    exact ⟨rfl, shown⟩
  | some cache =>
    obtain ⟨result, acquired⟩ := (shown.machine present).acquire (calm cache present) .guard
    rw [shown.has_cache present, shown.guards_eq]
    cases made : (s.machine cache).acquire host gfn .guard with
    | mk outcome m =>
      cases made' : (q.recency cache.bare).acquire host gfn .guard with
      | mk outcome' r =>
        rw [made, made'] at result acquired
        simp only [made, made']
        cases result
        cases outcome with
        | refused e => exact ⟨rfl, resume shown.guards_eq acquired⟩
        | broken f => exact ⟨rfl, resume shown.guards_eq acquired⟩
        | done lease =>
          cases s.guards.find? name with
          | none => exact ⟨rfl, (resume shown.guards_eq acquired).withGuards _⟩
          | some old =>
            have released := (acquired.releaseGuard old.gfn).shown
            exact ⟨rfl, (resume shown.guards_eq released).withGuards _⟩

theorem dropGuard {s : Session World Driver Probe Page} {q : RecencySession World Driver Probe Page}
    (shown : s.ShownBy host q) (name : String) :
    Matches host (s.dropGuard name) (q.dropGuard name) := by
  unfold Session.dropGuard RecencySession.dropGuard
  rw [shown.guards_eq]
  cases s.guards.find? name with
  | none => exact ⟨rfl, shown⟩
  | some g =>
    refine (shown.withGuards (s.guards.erase name)).onCache fun cache r present machine => ?_
    obtain ⟨result, released⟩ := machine.releaseGuard g.gfn
    exact ⟨by rw [result], released⟩

/-- Every operation gets the same reply from the list, if the pages that a cache gives back all at once
are given back in the order of its store. -/
theorem step {s : Session World Driver Probe Page} {q : RecencySession World Driver Probe Page}
    (shown : s.ShownBy host q) {op : Op World Driver Probe} (calm : s.Calm host op) :
    Matches host (s.step host op) (q.step host s.pages op) := by
  cases op with
  | create driver => exact ⟨rfl, shown.create driver⟩
  | discard => exact ⟨rfl, shown.close⟩
  | bind driver =>
    refine shown.configure fun cache r present machine => ⟨rfl, ?_⟩
    unfold pages
    rw [present]
    exact machine.bind driver
  | setOptions options => exact shown.setOptions options
  | get gfn name => exact shown.get calm name
  | dropGuard name => exact shown.dropGuard name
  | setKernel | setPolicy | setProbe =>
    exact shown.configureRest ⟨fun _ => rfl, fun _ => rfl, fun _ => rfl, fun _ => rfl⟩
  | setCounting counting =>
    cases counting <;> exact shown.configureRest ⟨fun _ => rfl, fun _ => rfl, fun _ => rfl, fun _ => rfl⟩
  | setLimit limit => exact shown.setLimit limit s.pages
  | acquire gfn =>
    simp only [Session.step, RecencySession.step]
    refine shown.onCache fun cache r present machine => ?_
    obtain ⟨result, acquired⟩ := machine.acquire (calm cache present) .handle
    exact ⟨by rw [result], acquired⟩
  | release h =>
    simp only [Session.step, RecencySession.step]
    refine shown.onCache fun cache r _ machine => ?_
    obtain ⟨result, released⟩ := machine.release h
    exact ⟨by rw [result], released⟩
  | read name offset count => exact shown.onGuard fun g m r machine => ⟨by rw [machine.readBytes_eq], machine⟩
  | readWord name offset => exact shown.onGuard fun g m r machine => ⟨by rw [machine.readAs_eq], machine⟩
  | readHeader name offset => exact shown.onGuard fun g m r machine => ⟨by rw [machine.readAs_eq], machine⟩
  | write name offset bytes =>
    refine shown.onGuard fun g m r machine => ?_
    obtain ⟨result, written⟩ := machine.write g offset bytes
    exact ⟨by rw [result], written⟩
  | writeWord name offset value =>
    refine shown.onGuard fun g m r machine => ?_
    obtain ⟨result, written⟩ := machine.writeAs .word64 g offset value
    exact ⟨by rw [result], written⟩
  | writeHeader name offset value =>
    refine shown.onGuard fun g m r machine => ?_
    obtain ⟨result, written⟩ := machine.writeAs Header.layout g offset value
    exact ⟨by rw [result], written⟩
  | outside change =>
    refine ⟨rfl, ?_, shown.lines, shown.empty⟩
    simp only [Session.step, RecencySession.step, shown.rest]
    rfl

end ShownBy

end Session

end ForeignPages
