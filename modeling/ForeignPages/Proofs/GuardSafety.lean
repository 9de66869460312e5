import ForeignPages.Proofs.GuardCount
import ForeignPages.Proofs.SessionReplies
import ForeignPages.Proofs.Runs
import ForeignPages.Proofs.Shelf

namespace ForeignPages

variable {World Driver Probe Page : Type} {host : Host World Driver Probe Page}

/-- Drops guards one after another. -/
def Machine.releaseGuards (m : Machine World Driver Probe Page) (live : List Guard) :
    Machine World Driver Probe Page :=
  live.foldl (fun m g => (m.releaseGuard g.gfn).2) m

theorem Machine.releaseGuards_guarded {m : Machine World Driver Probe Page} {dropped live : List Guard}
    (guarded : m.cache.store.Guarded (dropped ++ live)) :
    (m.releaseGuards dropped).cache.store.Guarded live := by
  induction dropped generalizing m with
  | nil => exact guarded
  | cons g rest ih => exact ih (releaseGuard_guarded guarded).2

/-- The page of a live guard is never missing, whatever range of it is asked for. -/
theorem Machine.pageFor_present {m : Machine World Driver Probe Page} {live : List Guard} {g : Guard}
    (guarded : m.cache.store.Guarded live) (member : g ∈ live) (offset count : Nat) (gfn : Gfn) :
    m.pageFor host g offset count ≠ .error (.pageNotPresent gfn) := by
  obtain ⟨e, found, _⟩ := guarded.cached g member
  unfold pageFor
  split
  · rw [found]
    dsimp only
    split <;> exact nofun
  · exact nofun

namespace Session

/-- What holds of a session between its live guards and everybody else. -/
structure GuardSafe (host : Host World Driver Probe Page) (s : Session World Driver Probe Page) : Prop where
  /-- The guard counter of a page is the number of live guards on it. -/
  counted : ∀ gfn e, s.cached? gfn = some e → e.guards.toNat = s.guards.values.countP (·.gfn = gfn)
  /-- The page of a live guard is cached, under the handle of the guard. -/
  cached : ∀ g ∈ s.guards.values, ∃ e, s.cached? g.gfn = some e ∧ e.handle = g.handle
  /-- A cleanup does not evict it. -/
  spared : ∀ cache g, s.cache = some cache → g ∈ s.guards.values →
    ((s.machine cache).makeRoom host).2.cache.store.find? g.gfn = cache.store.find? g.gfn
  /-- No sequence of releases takes a reference of a guard. -/
  unreleased : ∀ (handles : List Handle) (gfn : Gfn),
    ((s.run host (handles.map .release)).cached? gfn).map (·.guards) = (s.cached? gfn).map (·.guards)
  /-- The live guards can be dropped in any order, and no drop breaks off. -/
  droppable : ∀ cache dropped g rest, s.cache = some cache → s.guards.values.Perm (dropped ++ g :: rest) →
    (((s.machine cache).releaseGuards dropped).releaseGuard g.gfn).1 = .done ()
  /-- Neither does the drop of a guard whose name is given to a new one. -/
  replaceable : ∀ cache gfn g, s.cache = some cache → g ∈ s.guards.values →
    (((s.machine cache).acquire host gfn .guard).2.releaseGuard g.gfn).1 = .done ()
  faultless : ∀ op gfn, (s.step host op).1 ≠ .broken (.guardMissing gfn)
  /-- Only an acquisition can find a page not present, never an access through a guard. -/
  present : ∀ op gfn, (s.step host op).1 = .refused (.pageNotPresent gfn) →
    op = .acquire gfn ∨ ∃ name, op = .get gfn name

/-- A handle that is released leaves the guards of all pages alone. -/
theorem release_cached?_guards (s : Session World Driver Probe Page) (h : Handle) (gfn : Gfn) :
    ((s.step host (.release h)).2.cached? gfn).map (·.guards) = (s.cached? gfn).map (·.guards) := by
  obtain ⟨cache, guards, world, counters, journal⟩ := s
  cases cache with
  | none => rfl
  | some cache =>
    have kept := Machine.release_keeps_guards (m := ⟨cache, world, counters, journal⟩) h gfn
    have guards := congrArg (Option.map Prod.snd) kept
    simp only [Option.map_map, Function.comp_def] at guards
    exact guards

theorem releases_cached?_guards (s : Session World Driver Probe Page) (handles : List Handle) (gfn : Gfn) :
    ((s.run host (handles.map .release)).cached? gfn).map (·.guards) = (s.cached? gfn).map (·.guards) := by
  induction handles generalizing s with
  | nil => rfl
  | cons h rest ih => exact (ih _).trans (s.release_cached?_guards h gfn)

end Session

/-- Guards are safe from every other caller, in whatever order operations come and whatever the
drivers do, also after faults. -/
theorem Session.Reach.guard_safe {allowed : Session World Driver Probe Page → Op World Driver Probe → Prop}
    {world : World} {past : List (Op World Driver Probe × Reply)} {s : Session World Driver Probe Page}
    (reach : Session.Reach host allowed world past s) : s.GuardSafe host where
  counted gfn e found := by
    obtain ⟨cache, present, found⟩ := Option.bind_eq_some_iff.mp found
    exact (sustains_of_cache reach.guarded present).2.counted gfn e found
  cached g member := by
    have held := reach.guarded
    cases present : s.cache with
    | none =>
      simp only [Sustains, present] at held
      simp [held.1] at member
    | some cache =>
      obtain ⟨e, found, handle⟩ := (sustains_of_cache held present).2.cached g member
      exact ⟨e, by rw [cached?, present]; exact found, handle⟩
  spared cache g present member := by
    obtain ⟨indexed, guarded⟩ := sustains_of_cache reach.guarded present
    cases made : (s.machine cache).makeRoom host with
    | mk result room => cases result with
      | error fault =>
        obtain ⟨_, rfl⟩ := Machine.makeRoom_error (m := s.machine cache) indexed made
        rfl
      | ok _ =>
        obtain ⟨gfns, roomy, free⟩ := Machine.makeRoom_shrinks (m := s.machine cache) indexed made
        rw [roomy]
        exact guarded.find?_removeAll free member
  unreleased handles gfn := s.releases_cached?_guards handles gfn
  droppable cache dropped g rest present same := by
    have guarded := (sustains_of_cache reach.guarded present).2.perm same
    exact (Machine.releaseGuard_guarded (Machine.releaseGuards_guarded guarded)).1
  replaceable cache gfn g present member := by
    obtain ⟨indexed, guarded⟩ := sustains_of_cache reach.guarded present
    have acquired := Machine.acquire_acquired host (m := s.machine cache) indexed gfn .guard
    obtain ⟨before, after, split⟩ := List.append_of_mem member
    have kept := acquired.guarded indexed guarded
    -- A guard that was handed out now stands before the old one, also if both are on one page.
    rw [split, ← List.append_assoc] at kept
    exact (Machine.releaseGuard_guarded (kept.perm List.perm_middle)).1
  faultless op gfn broken := by
    obtain ⟨_, cache, holder, present, outcome, _⟩ | ⟨cache, h, _, outcome⟩ |
      ⟨cache, name, g, present, taken, outcome⟩ := step_broken broken
    · have indexed := (sustains_of_cache reach.guarded present).1
      rcases Machine.acquire_broken (m := s.machine cache) indexed outcome with same | same <;> cases same
    · obtain ⟨_, same⟩ := Machine.release_broken outcome
      cases same
    · have guarded := (sustains_of_cache reach.guarded present).2.perm (Index.values_perm_erase taken)
      rw [(Machine.releaseGuard_guarded guarded).1] at outcome
      cases outcome
  present op gfn refused := by
    obtain ⟨gfn', cache, holder, present, outcome, chosen⟩ |
      ⟨cache, name, g, offset, count, present, taken, missing⟩ | ⟨_, same⟩ := step_refused refused
    · have indexed := (sustains_of_cache reach.guarded present).1
      have same : gfn' = gfn := by
        rcases Machine.acquire_refused (m := s.machine cache) indexed outcome with same | ⟨_, same⟩ | same <;>
          cases same
        rfl
      subst same
      exact chosen.imp And.left And.left
    · have guarded := (sustains_of_cache reach.guarded present).2
      have member : g ∈ s.guards.values := Index.mem_values.mpr ⟨name, taken⟩
      exact absurd missing (Machine.pageFor_present guarded member offset count gfn)
    · cases same

/-- A run in which a page is got twice, and released three times although it was acquired once. -/
def sharedPage : List (Op Nat Unit Unit) :=
  [.create (some ()), .get ⟨7⟩ "first", .acquire ⟨7⟩, .get ⟨7⟩ "second", .release (shelf.address 0),
    .release (shelf.address 0), .release (shelf.address 0), .dropGuard "first"]

/-- The page of the guard is the one that was mapped first. -/
theorem guard_safe_sharedPage :
    (Session.run shelf (.start 0) sharedPage).guards.values = [⟨⟨7⟩, shelf.address 0, 4096⟩] ∧
      (Session.run shelf (.start 0) sharedPage).GuardSafe shelf := by
  have begun : Session.Reach shelf (fun _ _ => True) 0 [] (.start 0) := .start
  have permitted : (Session.start 0).Permits shelf (fun _ _ => True) sharedPage := by decide
  obtain ⟨_, reach⟩ := begun.run permitted
  exact ⟨by decide, reach.guard_safe⟩

end ForeignPages
