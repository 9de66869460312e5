import ForeignPages.Proofs.ScanSteps

namespace ForeignPages

namespace Scan

/-- What is told before the first page is asked for. -/
def opening (path : String) (release : Except IoError (List UInt8)) (pages : Nat) : List Event :=
  [.scanStarted path, .imageOpened pages true] ++ (KernelVersion.ofFile release).2 ++
    [.policySelected (KernelVersion.ofFile release).1]

/-- The cache of a scan before the first page is asked for. -/
def configured (place : Nat → Handle) (world : ImageWorld) (d : ImageDriver) (path : String) : ScanMachine :=
  let empty : ScanMachine := ⟨.unbound (imageHost place), world, .empty, []⟩
  let m := (empty.tell (.scanStarted path)).tell (.imageOpened d.pages.toNat d.writable)
  let m := (m.bind (imageHost place) d).withCounters
  { m with cache := { m.cache with limit, logMapFailures := true } }

theorem run_eq (place : Nat → Handle) (world : ImageWorld) (d : ImageDriver) (path : String) :
    run place world (.ok d) path = scanPages place (configured place world d path) d := rfl

/-- The first driver of an empty cache chooses the policy by the version of the kernel. -/
theorem bind_eq (place : Nat → Handle) {m : ScanMachine} (d : ImageDriver) (empty : m.cache.store = .empty)
    (none : m.cache.policy = none) :
    m.bind (imageHost place) d = ⟨{ m.cache with
        driver := some d, policy := some (.forKernel (KernelVersion.ofFile m.world.release).1) },
      m.world, m.counters,
      .bound d :: .told (.policySelected (KernelVersion.ofFile m.world.release).1) ::
        ((KernelVersion.ofFile m.world.release).2.map .told).reverse ++ m.journal⟩ := by
  have cleared : m.clear (imageHost place) = m := by
    obtain ⟨⟨_, _, _, _, _, _, _, _⟩, _, _, _⟩ := m
    cases empty
    rfl
  unfold Machine.bind
  rw [cleared, m.choosePolicy_of_none (imageHost place) none]
  rfl

/-- Learning the version of the kernel leaves no trace that is not shown. -/
theorem level_ofFile (release : Except IoError (List UInt8)) :
    ∀ event ∈ (KernelVersion.ofFile release).2, event.level ≠ .trace := by
  intro event member
  unfold KernelVersion.ofFile KernelVersion.read at member
  split at member
  · cases List.mem_singleton.mp member
    exact (show Level.error ≠ .trace by decide)
  · split at member
    · cases member
    · cases List.mem_singleton.mp member
      exact (show Level.error ≠ .trace by decide)

/-- Everything that is told at the start is shown. -/
theorem level_opening (path : String) (release : Except IoError (List UInt8)) (pages : Nat) :
    ∀ event ∈ opening path release pages, event.level ≠ .trace := by
  intro event member
  simp only [opening, List.mem_append, List.mem_cons, List.not_mem_nil, or_false] at member
  rcases member with ((rfl | rfl) | learned) | rfl
  · exact (show Level.info ≠ .trace by decide)
  · exact (show Level.debug ≠ .trace by decide)
  · exact level_ofFile release event learned
  · exact (show Level.debug ≠ .trace by decide)

/-- A journal in which nothing but events stand before a driver. -/
theorem told_of_events {m : ScanMachine} {d : ImageDriver} {events : List Event}
    (journal : m.journal = .bound d :: (events.map .told).reverse) (shown : ∀ event ∈ events, event.level ≠ .trace) :
    told m = events.map .told := by
  unfold told
  rw [journal, List.reverse_cons, List.reverse_reverse, List.filterMap_append, List.filterMap_map]
  refine (List.append_nil _).trans ?_
  clear journal
  induction events with
  | nil => rfl
  | cons event rest ih =>
    have later := ih fun other member => shown other (List.mem_cons_of_mem _ member)
    refine (List.filterMap_cons_some ?_).trans (congrArg (List.cons (.told event)) later)
    exact if_neg (shown event List.mem_cons_self)

namespace Input

/-- The cache that a scan begins with. -/
theorem configured_eq {s : Input} (trusted : Residency.forKernel (KernelVersion.ofFile s.release).1 = .trust) :
    configured s.place (.ofFile s.file s.release) s.driver s.path =
      ⟨{ Cache.unbound (imageHost s.place) with
          driver := some s.driver
          policy := some .trust
          limit
          counting := true
          logMapFailures := true },
        .ofFile s.file s.release, .empty,
        .bound s.driver :: ((opening s.path s.release s.pages).map .told).reverse⟩ := by
  obtain ⟨_, _, writable, _⟩ := ImageDriver.of_ofSize s.opened
  unfold configured
  dsimp only
  rw [bind_eq _ _ rfl rfl, writable]
  dsimp only [Machine.withCounters, Machine.tell, Machine.record, ImageWorld.ofFile]
  rw [trusted]
  simp only [opening, List.map_append, List.reverse_append]
  rfl

/-- It has no page yet, and has told what there is to tell. -/
theorem configured_at {s : Input} (trusted : Residency.forKernel (KernelVersion.ofFile s.release).1 = .trust) :
    s.At (pinned ((opening s.path s.release s.pages).map .told) 0)
      (configured s.place (.ofFile s.file s.release) s.driver s.path) := by
  have journal := congrArg Machine.journal (configured_eq trusted)
  rw [configured_eq trusted] at journal ⊢
  refine ⟨.empty rfl, nofun, Nat.zero_le _, ⟨Nat.le_refl _, fun _ => Nat.le_refl _⟩,
    rfl, rfl, rfl, rfl, rfl, rfl, .empty _, told_of_events journal (level_opening _ _ _), ?_, ?_⟩
  · refine attempts_of_unanswered (List.forall_mem_cons.mpr ⟨.bound _, fun act member => ?_⟩)
    obtain ⟨event, _, rfl⟩ := List.mem_map.mp (List.mem_reverse.mp member)
    exact .told event
  · refine List.filterMap_eq_nil_iff.mpr (List.forall_mem_cons.mpr ⟨rfl, fun act member => ?_⟩)
    obtain ⟨event, _, rfl⟩ := List.mem_map.mp (List.mem_reverse.mp member)
    rfl

end Input

end Scan

end ForeignPages
