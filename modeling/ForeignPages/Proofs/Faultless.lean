import ForeignPages.Proofs.Courses
import ForeignPages.Proofs.GuardSafety
import ForeignPages.Proofs.LeastRecentlyUsed
import ForeignPages.Proofs.Meters

namespace ForeignPages

variable {World Driver Probe Page : Type} {host : Host World Driver Probe Page}

/-- One more reference to a page leaves all its references together below the end of a 32-bit word. -/
def Machine.Countable (m : Machine World Driver Probe Page) (gfn : Gfn) : Prop :=
  ∀ e ∈ m.cache.store.find? gfn, e.refs.toNat + e.guards.toNat + 1 < 2 ^ 32

namespace Session

/-- A handle that is given back is unknown, or leads to a page with a reference to give back, or to one
that a guard holds. -/
def Releasable (s : Session World Driver Probe Page) : Op World Driver Probe → Prop
  | .release h => ∀ gfn ∈ s.gfnOf? h, ∃ e ∈ s.cached? gfn, e.refs ≠ 0 ∨ ∃ g ∈ s.guards.values, g.gfn = gfn
  | _ => True

/-- What callers and drivers do in a run without faults. -/
def Behaves (host : Host World Driver Probe Page) (s : Session World Driver Probe Page)
    (op : Op World Driver Probe) : Prop :=
  s.Releasable op ∧ s.Heeds (fun m gfn => m.MapsApart host.Apart host gfn ∧ m.Countable gfn) op

/-- No fault was met, and none is met by a query or by the drop of a guard that no reply tells about. -/
structure Faultless (host : Host World Driver Probe Page) (past : List (Op World Driver Probe × Reply))
    (s : Session World Driver Probe Page) : Prop where
  replies : ∀ entry ∈ past, ∀ f, entry.2 ≠ .broken f
  sized : ∀ cache, s.cache = some cache → ∃ n, cache.store.size? = .ok n
  referenced : ∀ cache gfn, s.cache = some cache → ∃ n, cache.references? gfn = .ok n
  /-- The guards that are dropped with their cache can be dropped in any order. -/
  dropped : ∀ cache live g rest, s.cache = some cache → s.guards.values.Perm (live ++ g :: rest) →
    (((s.machine cache).releaseGuards live).releaseGuard g.gfn).1 = .done ()
  /-- So can a guard whose name is given to a new one. -/
  replaced : ∀ cache gfn g, s.cache = some cache → g ∈ s.guards.values →
    (((s.machine cache).acquire host gfn .guard).2.releaseGuard g.gfn).1 = .done ()

end Session

/-- A list runs into a fault only when it cannot count a mapping. -/
theorem Recency.acquire_broken {r : Recency World Driver Probe Page} {gfn : Gfn} {holder : Holder} {f : Fault}
    (broken : (r.acquire host gfn holder).1 = .broken f) : r.rest.countMapping? = none := by
  unfold acquire at broken
  split at broken
  · cases broken
  · split at broken
    · cases broken
    · unfold acquireNew at broken
      dsimp only at broken
      split at broken
      · next full =>
        have roomy := Machine.makeRoom_counts host r
        rw [← counted?_eq, full] at roomy
        exact Option.isNone_iff_eq_none.mp (by rw [← Option.not_isSome, ← roomy]; rfl)
      · split at broken
        · cases broken
        · split at broken <;> cases broken

/-- A calm acquisition whose mapping can be counted ends without a fault. -/
theorem Machine.ShownBy.acquire_ne_broken {m : Machine World Driver Probe Page} {r : Recency World Driver Probe Page}
    {gfn : Gfn} (shown : m.ShownBy host r) (calm : m.Calm host gfn) (counts : m.countMapping? ≠ none)
    (holder : Holder) (f : Fault) : (m.acquire host gfn holder).1 ≠ .broken f := by
  intro broken
  rw [← (shown.acquire calm holder).result] at broken
  have full := Recency.acquire_broken broken
  rw [shown.rest, Machine.countMapping?_bare] at full
  exact counts (Option.map_eq_none_iff.mp full)

namespace Session

/-- A release that has a reference to take does not run into a fault. -/
theorem Releasable.release_ne_broken {s : Session World Driver Probe Page} {cache : Cache Driver Probe Page}
    {h : Handle} (releasable : s.Releasable (.release h : Op World Driver Probe)) (present : s.cache = some cache)
    (guarded : cache.store.Guarded s.guards.values) (f : Fault) : ((s.machine cache).release h).1 ≠ .broken f := by
  intro broken
  unfold Machine.release at broken
  split at broken
  · cases broken
  · next gfn known =>
    obtain ⟨e, found, held⟩ := releasable gfn (by rw [gfnOf?, present]; exact known)
    have there : cache.store.find? gfn = some e := by rw [cached?, present] at found; exact found
    split at broken
    · cases broken
    · next found' =>
      cases found'.symm.trans there
      split at broken
      · next unreferenced =>
        split at broken
        · next unguarded =>
          -- Neither references nor guards are left, so nobody could give one back.
          rcases held with held | ⟨g, member, same⟩
          · exact held unreferenced
          · have none := guarded.counted gfn e there
            rw [unguarded] at none
            exact List.countP_eq_zero.mp none.symm g member (decide_eq_true same)
        · cases broken
      · cases broken

/-- With few acquisitions so far, one that is well behaved is calm. -/
theorem Behaves.calm {s : Session World Driver Probe Page} {op : Op World Driver Probe} {n : Nat}
    (behaves : s.Behaves host op) (within : s.Within n)
    (few : n + (if op.acquires?.isSome then 1 else 0) + 1 < 2 ^ 64) : s.Calm host op := by
  have runs : ∀ cache, s.cache = some cache → op.acquires?.isSome = true → cache.clock.toNat + 1 < 2 ^ 64 := by
    intro cache present acquires
    have ticks : cache.clock.toNat ≤ n := (within cache present).clock
    rw [if_pos acquires] at few
    omega
  cases op with
  | acquire gfn =>
    intro cache present
    obtain ⟨apart, countable⟩ := behaves.2 cache present
    exact ⟨apart, countable, fun _ => runs cache present rfl⟩
  | get gfn name =>
    intro cache present
    obtain ⟨apart, countable⟩ := behaves.2 cache present
    exact ⟨apart, countable, fun _ => runs cache present rfl⟩
  | _ => trivial

/-- One operation of a well-behaved run does not run into a fault, as long as the clock has room for it. -/
theorem Reach.step_ne_broken {s : Session World Driver Probe Page} {op : Op World Driver Probe} {world : World}
    {past : List (Op World Driver Probe × Reply)} (reach : Reach host (Calm host) world past s)
    (behaves : s.Behaves host op) (few : acquisitions past + (if op.acquires?.isSome then 1 else 0) + 1 < 2 ^ 64)
    (f : Fault) :
    (s.step host op).1 ≠ .broken f := by
  intro broken
  have calm := behaves.calm reach.within few
  obtain ⟨gfn, cache, holder, present, outcome, chosen⟩ | ⟨cache, h, ⟨present, rfl⟩, outcome⟩ |
    ⟨cache, name, g, present, taken, outcome⟩ := step_broken broken
  · obtain ⟨q, _, shown⟩ := reach.shown_by
    have counts := (reach.within cache present).countMapping?_ne_none (by omega)
    have heeded : (s.machine cache).Calm host gfn := by
      rcases chosen with ⟨rfl, _⟩ | ⟨⟨_, rfl⟩, _⟩
      · exact calm cache present
      · exact calm cache present
    exact (shown.machine present).acquire_ne_broken heeded counts holder f outcome
  · have guarded := (sustains_of_cache reach.guarded present).2
    exact behaves.1.release_ne_broken present guarded f outcome
  · have guarded := (sustains_of_cache reach.guarded present).2.perm (Index.values_perm_erase taken)
    rw [(Machine.releaseGuard_guarded guarded).1] at outcome
    cases outcome

/-- What well-behaved callers and drivers do is calm, and was answered without faults. -/
theorem Reach.calm_of_behaves {s : Session World Driver Probe Page} {world : World}
    {past : List (Op World Driver Probe × Reply)} (reach : Reach host (Behaves host) world past s)
    (few : acquisitions past + 1 < 2 ^ 64) :
    Reach host (Calm host) world past s ∧ ∀ entry ∈ past, ∀ f, entry.2 ≠ .broken f := by
  induction reach with
  | start => exact ⟨.start, fun _ none => absurd none List.not_mem_nil⟩
  | reorder _ present same ih =>
    obtain ⟨calm, plain⟩ := ih few
    exact ⟨calm.reorder present same, plain⟩
  | step op previous behaves ih =>
    rw [acquisitions_cons] at few
    obtain ⟨calm, plain⟩ := ih (by omega)
    refine ⟨calm.step op (behaves.calm calm.within few), fun entry member f => ?_⟩
    rcases List.mem_cons.mp member with rfl | older
    · exact calm.step_ne_broken behaves few f
    · exact plain entry older f

/-- No operation runs into a fault if callers release nothing that has no holder left, drivers map no page
to the address of a cached one, the references to each page are fewer than 2³², and there are fewer than
2⁶⁴ - 1 acquisitions. A table of counters starts empty when it is attached. -/
theorem Reach.faultless {s : Session World Driver Probe Page} {world : World}
    {past : List (Op World Driver Probe × Reply)} (reach : Reach host (Behaves host) world past s)
    (few : acquisitions past < 2 ^ 64 - 1) : s.Faultless host past := by
  obtain ⟨calm, plain⟩ := reach.calm_of_behaves (by omega)
  obtain ⟨q, _, shown⟩ := calm.shown_by
  refine ⟨plain, fun cache present => ⟨_, shown.agrees.size cache present⟩, fun cache gfn present => ?_, ?_, ?_⟩
  · obtain ⟨n, sum, _⟩ := shown.agrees.references cache gfn present
    exact ⟨n, sum⟩
  · intro cache live g rest present same
    have guarded := (sustains_of_cache reach.guarded present).2.perm same
    exact (Machine.releaseGuard_guarded (Machine.releaseGuards_guarded guarded)).1
  · intro cache gfn g present member
    obtain ⟨indexed, guarded⟩ := sustains_of_cache reach.guarded present
    obtain ⟨before, after, split⟩ := List.append_of_mem member
    have kept := (Machine.acquire_acquired host (m := s.machine cache) indexed gfn .guard).guarded indexed guarded
    rw [split, ← List.append_assoc] at kept
    exact (Machine.releaseGuard_guarded (kept.perm List.perm_middle)).1

instance (s : Session World Driver Probe Page) : (op : Op World Driver Probe) → Decidable (s.Releasable op)
  | .release h => inferInstanceAs (Decidable (∀ gfn ∈ s.gfnOf? h, ∃ e ∈ s.cached? gfn, _ ∨ _))
  | .create _ | .discard | .bind _ | .setKernel _ | .setPolicy _ | .setProbe _ | .setCounting _ | .setOptions _
  | .setLimit _ | .acquire _ | .get .. | .dropGuard _ | .read .. | .write .. | .readWord .. | .writeWord ..
  | .readHeader .. | .writeHeader .. | .outside _ => .isTrue trivial

instance (m : Machine World Driver Probe Page) (gfn : Gfn) : Decidable (m.Countable gfn) :=
  inferInstanceAs (Decidable (∀ e ∈ m.cache.store.find? gfn, _ < _))

instance (s : Session World Driver Probe Page) (op : Op World Driver Probe) : Decidable (s.Behaves host op) :=
  inferInstanceAs (Decidable (_ ∧ _))

end Session

/-- A run on a full cache that counts its mappings. A page is released while only a guard holds it, another
one after it was evicted, and a guard is dropped for a new one of its name. -/
def fullShelf : List (Op Nat Unit Unit) :=
  [.create (some ()), .setCounting true, .setLimit 50] ++ (List.range 50).map (fun n => .acquire ⟨UInt64.ofNat n⟩) ++
    [.release (shelf.address 0), .get ⟨1⟩ "held", .release (shelf.address 1), .release (shelf.address 1),
      .acquire ⟨50⟩, .release (shelf.address 0), .get ⟨2⟩ "held"]

/-- A run past the limit, in which every mapping is counted. -/
theorem faultless_fullShelf :
    ((Session.run shelf (.start 0) fullShelf).counters.get Machine.mapCounter).toNat = 51 ∧
      ∃ past, (Session.run shelf (.start 0) fullShelf).Faultless shelf past ∧ past.length = 60 := by
  have permitted : (Session.start 0).Permits shelf (Session.Behaves shelf) fullShelf := by decide +kernel
  have begun : Session.Reach shelf (Session.Behaves shelf) 0 [] (.start 0) := .start
  have reach := begun.followed permitted.course
  exact ⟨by decide +kernel, _, reach.faultless (by decide +kernel), by decide +kernel⟩

end ForeignPages
