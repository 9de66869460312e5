import Mathlib.Algebra.Group.Nat.Defs
import ForeignPages.Proofs.Effects
import ForeignPages.Proofs.GuardCount

namespace ForeignPages

variable {World Driver Probe Page : Type} {host : Host World Driver Probe Page}

namespace Machine

/-- Neither meter has passed a number. A table that nobody counts in may hold anything. -/
structure Within (m : Machine World Driver Probe Page) (n : Nat) : Prop where
  clock : m.cache.clock.toNat ≤ n
  count : m.cache.counting = true → (m.counters.get mapCounter).toNat ≤ n

theorem Within.of_same {m : Machine World Driver Probe Page} {n : Nat} {m' : Machine World Driver Probe Page}
    (within : m.Within n) (clock : m'.cache.clock = m.cache.clock) (counting : m'.cache.counting = m.cache.counting)
    (counters : m'.counters = m.counters) : m'.Within n :=
  ⟨clock ▸ within.clock, fun counts => counters ▸ within.count (counting ▸ counts)⟩

/-- A mapping can be counted as long as the counter is not full. -/
theorem Within.countMapping?_ne_none {m : Machine World Driver Probe Page} {n : Nat} (within : m.Within n)
    (room : n + 1 < 2 ^ 64) : m.countMapping? ≠ none := by
  unfold countMapping?
  split
  · next counting =>
    have below := within.count counting
    have one : (1 : UInt64).toNat = 1 := rfl
    intro full
    have past : 2 ^ 64 ≤ _ := add64?_eq_none.mp (Option.map_eq_none_iff.mp (Option.map_eq_none_iff.mp full))
    omega
  · exact nofun

/-- A mapping is counted once, or not at all. -/
theorem countMapping?_counters {m counted : Machine World Driver Probe Page}
    (count : m.countMapping? = some counted) :
    counted.counters = m.counters ∨ m.counters.increment? mapCounter = some counted.counters := by
  unfold countMapping? at count
  split at count
  · obtain ⟨_, more, rfl⟩ := Option.map_eq_some_iff.mp count
    exact .inr more
  · cases count
    exact .inl rfl

theorem unmapAll_counters (m : Machine World Driver Probe Page) (entries : List (Entry Page)) :
    (m.unmapAll host entries).counters = m.counters := by
  induction entries generalizing m with
  | nil => rfl
  | cons e rest ih => exact ih (m.unmap host e.page)

theorem makeRoom_counters (host : Host World Driver Probe Page) (m : Machine World Driver Probe Page) :
    (m.makeRoom host).2.counters = m.counters := by
  unfold makeRoom
  split
  · rfl
  · split
    · unfold cleanUp
      split
      · rfl
      · split
        · rfl
        · exact unmapAll_counters _ _
    · rfl

theorem mapPage_counters (host : Host World Driver Probe Page) (m : Machine World Driver Probe Page)
    (driver : Driver) (gfn : Gfn) (size : Nat) :
    (m.mapPage host driver gfn size).2.counters = m.counters := by
  have called : (m.callDriver host driver gfn).2.counters = m.counters := rfl
  unfold mapPage
  split
  · next answer => rw [answer] at called; exact called
  · next answer =>
    rw [answer] at called
    dsimp only
    split <;> exact called

theorem passesPolicy_counters (host : Host World Driver Probe Page) (m : Machine World Driver Probe Page)
    (gfn : Gfn) (page : Page) (size : Nat) :
    (m.passesPolicy host gfn page size).2.counters = m.counters := by
  unfold passesPolicy
  split
  · rfl
  · dsimp only
    split <;> rfl

theorem place_counters (m : Machine World Driver Probe Page) (gfn : Gfn) (page : Page) (size : Nat)
    (holder : Holder) : (m.place host gfn page size holder).2.counters = m.counters := by
  unfold place
  split
  · rfl
  · dsimp only
    split <;> rfl

/-- An attempt to map a page is counted once, however it ends. -/
theorem acquireNew_counters (host : Host World Driver Probe Page) (m : Machine World Driver Probe Page)
    (driver : Driver) (gfn : Gfn) (holder : Holder) :
    (m.acquireNew host driver gfn holder).2.counters = m.counters ∨
      m.counters.increment? mapCounter = some (m.acquireNew host driver gfn holder).2.counters := by
  have roomy := m.makeRoom_counters host
  unfold acquireNew
  split
  · next made => rw [made] at roomy; exact .inl roomy
  · next room made =>
    rw [made] at roomy
    split
    · exact .inl roomy
    · next counted count =>
      have counts := countMapping?_counters count
      rw [show room.counters = m.counters from roomy] at counts
      have mapped := counted.mapPage_counters host driver gfn (host.pageSize driver counted.world)
      dsimp only
      split
      · next source called answer =>
        rw [answer] at mapped
        unfold tellMapFailure
        split <;> exact mapped ▸ counts
      · next page called answer =>
        rw [answer] at mapped
        have probed := called.passesPolicy_counters host gfn page (host.pageSize driver counted.world)
        rw [show called.counters = counted.counters from mapped] at probed
        split
        · next denied => rw [denied] at probed; exact probed ▸ counts
        · next passed =>
          rw [passed] at probed
          rw [place_counters]
          exact probed ▸ counts

/-- An acquisition counts one mapping at most. -/
theorem acquire_counters (host : Host World Driver Probe Page) (m : Machine World Driver Probe Page)
    (gfn : Gfn) (holder : Holder) :
    (m.acquire host gfn holder).2.counters = m.counters ∨
      m.counters.increment? mapCounter = some (m.acquire host gfn holder).2.counters := by
  unfold acquire
  split
  · exact .inl rfl
  · next driver _ =>
    split
    · unfold acquireCached
      split
      · exact .inl rfl
      · dsimp only
        split <;> exact .inl rfl
    · exact m.acquireNew_counters host driver gfn holder

/-- No acquisition takes more than one recency token. -/
theorem Acquired.clock_le {m : Machine World Driver Probe Page} {gfn : Gfn} {holder : Holder}
    {outcome : Outcome Lease} {cache : Cache Driver Probe Page} (acquired : m.Acquired host gfn holder outcome cache)
    (indexed : m.cache.store.Indexed) :
    cache.clock.toNat ≤ m.cache.clock.toNat + 1 := by
  cases acquired with
  | failed _ roomy =>
    obtain ⟨gfns, rfl, _⟩ := roomy
    exact Nat.le_succ _
  | touched _ given _ | pinned _ given _ =>
    obtain ⟨_, next, more, rfl⟩ := Cache.tick?_eq_some given
    exact Nat.le_of_eq more
  | placed answers given _ | aliased answers given _ =>
    obtain ⟨_, next, more, rfl⟩ := Cache.tick?_eq_some given
    obtain ⟨gfns, roomy, _⟩ := answers.shrinks indexed
    rw [roomy] at more
    exact Nat.le_of_eq more

/-- An acquisition moves each of the two meters by one at most. -/
theorem Within.acquire {m : Machine World Driver Probe Page} {n : Nat} (host : Host World Driver Probe Page)
    (within : m.Within n) (indexed : m.cache.store.Indexed) (gfn : Gfn) (holder : Holder) :
    (m.acquire host gfn holder).2.Within (n + 1) := by
  have acquired := acquire_acquired host indexed gfn holder
  obtain ⟨_, _, same⟩ := acquired.settings indexed
  refine ⟨Nat.le_trans (acquired.clock_le indexed) (Nat.add_le_add_right within.clock 1), fun counting => ?_⟩
  rw [same] at counting
  have before := within.count counting
  rcases m.acquire_counters host gfn holder with kept | more
  · rw [kept]
    exact Nat.le_trans before (Nat.le_succ n)
  · rw [Counters.get_of_increment? more, if_pos rfl]
    exact Nat.add_le_add_right before 1

theorem Within.recount {m : Machine World Driver Probe Page} {n : Nat} {m' : Machine World Driver Probe Page}
    (within : m.Within n) (recounts : m.cache.Recounts m'.cache) (counters : m'.counters = m.counters) :
    m'.Within n := by
  rcases recounts with same | ⟨_, _, same, _⟩
  · exact within.of_same (by rw [same]) (by rw [same]) counters
  · exact within.of_same (by rw [same]) (by rw [same]) counters

theorem release_counters (m : Machine World Driver Probe Page) (h : Handle) :
    (m.release h).2.counters = m.counters := by
  unfold release
  split
  · rfl
  · split
    · rfl
    · split
      · split <;> rfl
      · rfl

theorem releaseGuard_counters (m : Machine World Driver Probe Page) (gfn : Gfn) :
    (m.releaseGuard gfn).2.counters = m.counters := by
  unfold releaseGuard
  split
  · rfl
  · split <;> rfl

theorem bind_counters (m : Machine World Driver Probe Page) (driver : Driver) :
    (m.bind host driver).counters = m.counters := by
  exact ((m.clear host).choosePolicy_counters host).trans (unmapAll_counters _ _)

theorem Within.release {m : Machine World Driver Probe Page} {n : Nat} (within : m.Within n) (h : Handle) :
    (m.release h).2.Within n :=
  within.recount (m.release_recounts h) (m.release_counters h)

theorem Within.releaseGuard {m : Machine World Driver Probe Page} {n : Nat} (within : m.Within n) (gfn : Gfn) :
    (m.releaseGuard gfn).2.Within n :=
  within.recount (m.releaseGuard_recounts gfn) (m.releaseGuard_counters gfn)

/-- A new driver moves neither of them. -/
theorem Within.bind {m : Machine World Driver Probe Page} {n : Nat} (within : m.Within n) (driver : Driver) :
    (m.bind host driver).Within n := by
  have cleared : (m.clear host).Within n := by
    refine within.of_same ?_ ?_ (unmapAll_counters _ _)
    · rw [clear_cache]
    · rw [clear_cache]
  have chosen : ((m.clear host).choosePolicy host).Within n := by
    have settings := (m.clear host).choosePolicy_cache host
    have clock := congrArg Cache.clock settings
    have counting := congrArg Cache.counting settings
    exact cleared.of_same clock counting ((m.clear host).choosePolicy_counters host)
  exact chosen.of_same rfl rfl rfl

theorem write_counters (m : Machine World Driver Probe Page) (g : Guard) (offset : Nat) (bytes : List UInt8) :
    (m.write host g offset bytes).2.counters = m.counters := by
  unfold write
  split <;> rfl

theorem Within.write {m : Machine World Driver Probe Page} {n : Nat} (within : m.Within n) (g : Guard) (offset : Nat)
    (bytes : List UInt8) :
    (m.write host g offset bytes).2.Within n := by
  unfold Machine.write
  split
  · exact within
  · exact within.of_same rfl rfl rfl

end Machine

namespace Session

/-- Neither meter of the cache has passed a number. -/
def Within (s : Session World Driver Probe Page) (n : Nat) : Prop :=
  ∀ cache, s.cache = some cache → (s.machine cache).Within n

/-- Where work on a cache keeps within bounds, so does its session. -/
theorem Within.onCache {s : Session World Driver Probe Page} {n : Nat}
    {work : Machine World Driver Probe Page → Reply × Machine World Driver Probe Page}
    (works : ∀ cache, s.cache = some cache → (work (s.machine cache)).2.Within n) :
    (s.onCache work).2.Within n := by
  unfold Session.onCache
  split
  · next none => exact fun cache present => nomatch none.symm.trans present
  · next cache present =>
    rintro _ ⟨⟩
    exact works cache present

theorem Within.configure {s : Session World Driver Probe Page} {n : Nat}
    {work : Machine World Driver Probe Page → Reply × Machine World Driver Probe Page} (within : s.Within n)
    (works : ∀ m : Machine World Driver Probe Page, m.Within n → (work m).2.Within n) :
    (s.configure work).2.Within n := by
  unfold Session.configure
  split
  · exact .onCache fun cache present => works _ (within cache present)
  · exact within

theorem Within.onGuard {s : Session World Driver Probe Page} {n : Nat} {name : String}
    {work : Guard → Machine World Driver Probe Page → Reply × Machine World Driver Probe Page} (within : s.Within n)
    (works : ∀ g (m : Machine World Driver Probe Page), m.Within n → (work g m).2.Within n) :
    (s.onGuard name work).2.Within n := by
  unfold Session.onGuard
  split
  · exact within
  · next g _ => exact .onCache fun cache present => works g _ (within cache present)

/-- A new cache starts at zero, and counts nothing until it gets a table. -/
theorem create_within {n : Nat} (s : Session World Driver Probe Page) (driver : Option Driver) :
    (s.create host driver).Within n := by
  have unbound : ((s.close host).machine (.unbound host)).Within n := ⟨Nat.zero_le n, nofun⟩
  cases driver with
  | none =>
    rintro _ ⟨⟩
    exact unbound
  | some driver =>
    rintro _ ⟨⟩
    exact unbound.bind driver

theorem Within.setOptions {s : Session World Driver Probe Page} {n : Nat} (within : s.Within n) (options : Options) :
    (s.setOptions host options).2.Within n := by
  unfold Session.setOptions
  split
  · split
    · exact within
    · next cache present =>
      unfold Machine.withOptions Cache.setLimit
      by_cases small : options.limit < minLimit
      · rw [if_pos small]
        exact nofun
      · rw [if_neg small]
        rintro _ ⟨⟩
        exact (within cache present).of_same rfl rfl rfl
  · exact within

theorem Within.get {s : Session World Driver Probe Page} {n : Nat} (within : s.Within n)
    (indexed : ∀ cache, s.cache = some cache → cache.store.Indexed) (gfn : Gfn) (name : String) :
    (s.get host gfn name).2.Within (n + 1) := by
  unfold Session.get
  split
  · next none => exact fun cache present => nomatch none.symm.trans present
  · next cache present =>
    have acquired := (within cache present).acquire host (indexed cache present) gfn .guard
    split
    · next lease m run =>
      rw [run] at acquired
      rintro _ ⟨⟩
      cases s.guards.find? name with
      | none => exact acquired
      | some old => exact acquired.releaseGuard old.gfn
    · next run =>
      rw [run] at acquired
      rintro _ ⟨⟩
      exact acquired
    · next run =>
      rw [run] at acquired
      rintro _ ⟨⟩
      exact acquired

theorem Within.dropGuard {s : Session World Driver Probe Page} {n : Nat} (within : s.Within n) (name : String) :
    (s.dropGuard name).2.Within n := by
  unfold Session.dropGuard
  split
  · exact within
  · next g _ => exact .onCache fun cache present => (within cache present).releaseGuard g.gfn

/-- Only an acquisition moves a meter, and not by more than one. -/
theorem Within.step {s : Session World Driver Probe Page} {n : Nat} (within : s.Within n)
    (indexed : ∀ cache, s.cache = some cache → cache.store.Indexed) (op : Op World Driver Probe) :
    (s.step host op).2.Within (n + if op.acquires?.isSome then 1 else 0) := by
  cases op with
  | create driver => exact s.create_within driver
  | discard => exact fun cache present => nomatch (s.close_cache host).symm.trans present
  | bind driver => exact within.configure fun m kept => kept.bind driver
  | setKernel | setPolicy | setProbe => exact within.configure fun m kept => kept.of_same rfl rfl rfl
  | setCounting counting =>
    refine within.configure fun m kept => ?_
    cases counting with
    | false => exact ⟨kept.clock, nofun⟩
    | true => exact ⟨kept.clock, fun _ => Nat.zero_le n⟩
  | setOptions options => exact within.setOptions options
  | setLimit limit =>
    refine .onCache fun cache present => ?_
    unfold Cache.setLimit
    by_cases small : limit < minLimit
    · rw [if_pos small]
      exact within cache present
    · rw [if_neg small]
      exact (within cache present).of_same rfl rfl rfl
  | acquire gfn => exact .onCache fun cache present => (within cache present).acquire host (indexed cache present) gfn _
  | release h => exact .onCache fun cache present => (within cache present).release h
  | get gfn name => exact within.get indexed gfn name
  | dropGuard name => exact within.dropGuard name
  | read | readWord | readHeader => exact within.onGuard fun _ _ kept => kept
  | write name offset bytes => exact within.onGuard fun g m kept => kept.write g offset bytes
  | writeWord name offset value => exact within.onGuard fun g m kept => kept.write g offset _
  | writeHeader name offset value => exact within.onGuard fun g m kept => kept.write g offset _
  | outside change => exact fun cache present => (within cache present).of_same rfl rfl rfl

end Session

/-- How many acquisitions a run has tried. -/
def acquisitions (past : List (Op World Driver Probe × Reply)) : Nat :=
  past.countP fun entry => entry.1.acquires?.isSome

theorem acquisitions_cons (op : Op World Driver Probe) (reply : Reply)
    (past : List (Op World Driver Probe × Reply)) :
    acquisitions ((op, reply) :: past) = acquisitions past + if op.acquires?.isSome then 1 else 0 :=
  List.countP_cons

theorem Session.Reach.within {allowed : Session World Driver Probe Page → Op World Driver Probe → Prop}
    {world : World} {past : List (Op World Driver Probe × Reply)} {s : Session World Driver Probe Page}
    (reach : Session.Reach host allowed world past s) : s.Within (acquisitions past) := by
  induction reach with
  | start => exact nofun
  | reorder _ present _ ih =>
    rintro _ ⟨⟩
    exact (ih _ present).of_same rfl rfl rfl
  | step op previous _ ih =>
    rw [acquisitions_cons]
    exact ih.step (fun _ present => previous.indexed present) op

end ForeignPages
