import ForeignPages.Proofs.RecencyRun
import ForeignPages.Proofs.Runs
import ForeignPages.Proofs.Shelf

namespace ForeignPages

variable {World Driver Probe Page : Type} {host : Host World Driver Probe Page}

namespace RecencySession

def find? (q : RecencySession World Driver Probe Page) (gfn : Gfn) : Option (Slot Page) :=
  q.slots.find? fun slot => slot.gfn = gfn

def findHandle? (q : RecencySession World Driver Probe Page) (h : Handle) : Option (Slot Page) :=
  q.slots.find? fun slot => slot.handle = h

end RecencySession

namespace Session

/-- Nothing that can be asked of a session tells it from one whose pages stand in a list. -/
structure Agrees (s : Session World Driver Probe Page) (q : RecencySession World Driver Probe Page) : Prop where
  /-- The settings of the cache, the guards, the outside and the counters are the same. -/
  rest : q.rest = s.bare
  /-- The same pages were mapped and given back, in the same order. -/
  journal : q.rest.journal = s.journal
  empty : s.cache = none → q.slots = []
  size : ∀ cache, s.cache = some cache → cache.store.size? = .ok q.slots.length
  contains : ∀ cache gfn, s.cache = some cache → cache.contains gfn = (q.find? gfn).isSome
  /-- The references of a page are those of both kinds together. -/
  references : ∀ cache gfn, s.cache = some cache → ∃ n, cache.references? gfn = .ok n ∧
    n.map (·.toNat) = (q.find? gfn).map fun slot => slot.refs + slot.guards
  entry : ∀ gfn, q.find? gfn = (s.cached? gfn).map Entry.slot
  page : ∀ h, s.gfnOf? h = (q.findHandle? h).map (·.gfn)

/-- Two sessions that show the same agree in all that callers can ask for. -/
theorem ShownBy.agrees {s : Session World Driver Probe Page} {q : RecencySession World Driver Probe Page}
    (shown : s.ShownBy host q) : s.Agrees q := by
  have journal : q.rest.journal = s.journal := by
    rw [shown.rest]
    rfl
  refine ⟨shown.rest, journal, shown.empty, ?_, ?_, ?_, ?_, ?_⟩
  · intro cache present
    have lines := shown.lines cache present
    rw [lines.indexed.size?_eq, lines.length_eq]
  · intro cache gfn present
    rw [RecencySession.find?, (shown.lines cache present).find?_gfn, Option.isSome_map]
    rfl
  · intro cache gfn present
    have lines := shown.lines cache present
    rw [RecencySession.find?, lines.find?_gfn]
    unfold Cache.references?
    cases found : cache.store.find? gfn with
    | none => exact ⟨none, rfl, rfl⟩
    | some e =>
      obtain ⟨n, sum, value⟩ := (lines.small gfn e found).references?_eq
      exact ⟨some n, by simp only [sum], congrArg some value⟩
  · intro gfn
    unfold cached?
    cases present : s.cache with
    | none =>
      rw [RecencySession.find?, shown.empty present]
      rfl
    | some cache => exact (shown.lines cache present).find?_gfn gfn
  · intro h
    unfold gfnOf?
    cases present : s.cache with
    | none =>
      rw [RecencySession.findHandle?, shown.empty present]
      rfl
    | some cache =>
      have lines := shown.lines cache present
      rw [RecencySession.findHandle?, lines.find?_handle, Option.bind_some, Option.map_map]
      cases known : cache.store.gfnOf? h with
      | none => rfl
      | some gfn =>
        obtain ⟨e, found, _⟩ := lines.linked.faithful h gfn known
        rw [Option.bind_some, found]
        exact congrArg some (lines.indexed.keyed gfn e found).symm

end Session

/-- Every run of a session is one of its list, step by step. -/
theorem Session.Reach.shown_by {world : World} {past : List (Op World Driver Probe × Reply)}
    {s : Session World Driver Probe Page} (reach : Session.Reach host (Session.Calm host) world past s) :
    ∃ q, RecencySession.Reach host world past q ∧ s.ShownBy host q := by
  induction reach with
  | start => exact ⟨⟨[], .start world⟩, .start, rfl, nofun, fun _ => rfl⟩
  | reorder _ present same ih =>
    -- The list stays the same: no order of the indices shows in it.
    obtain ⟨q, run, shown⟩ := ih
    refine ⟨q, run, ?_, fun cache same' => ?_, nofun⟩
    · rw [shown.rest, bare, bare, present]
      rfl
    · cases same'
      exact (shown.lines _ present).reorder same
  | @step past s op _ calm ih =>
    obtain ⟨q, run, shown⟩ := ih
    obtain ⟨reply, shown'⟩ := shown.step calm
    have next := run.step op s.pages shown.pages_perm
    rw [reply] at next
    exact ⟨_, next, shown'⟩

/-- Whatever the order in which the indices are gone through, a run in which no page is mapped to the
address of a cached one, all references to a page fit one word and the clock does not overflow is a
run of the list, with the same replies. -/
theorem Session.Reach.least_recently_used {world : World} {past : List (Op World Driver Probe × Reply)}
    {s : Session World Driver Probe Page} (reach : Session.Reach host (Session.Calm host) world past s) :
    ∃ q, RecencySession.Reach host world past q ∧ s.Agrees q := by
  obtain ⟨q, run, shown⟩ := reach.shown_by
  exact ⟨q, run, shown.agrees⟩

/-- What can be checked of an acquisition beforehand so that it is a calm one. -/
def Machine.Clear (host : Host World Driver Probe Page) (m : Machine World Driver Probe Page) (gfn : Gfn) : Prop :=
  m.MapsApart host.Apart host gfn ∧
    (∀ e ∈ m.cache.store.find? gfn, e.refs.toNat + e.guards.toNat + 1 < 2 ^ 32) ∧
    m.cache.clock.toNat + 1 < 2 ^ 64

instance (m : Machine World Driver Probe Page) (gfn : Gfn) : Decidable (m.Clear host gfn) :=
  inferInstanceAs (Decidable (_ ∧ _ ∧ _))

theorem Machine.Clear.calm {m : Machine World Driver Probe Page} {gfn : Gfn} (clear : m.Clear host gfn) :
    m.Calm host gfn := ⟨clear.1, clear.2.1, fun _ => clear.2.2⟩

/-- A run that fills a cache up to its limit. The oldest page is still held when room has to be made, so
the one after it is evicted. -/
def pinnedOldest : List (Op Nat Unit Unit) :=
  [.create (some ()), .setLimit 50] ++ (List.range 50).map (fun n => .acquire ⟨UInt64.ofNat n⟩) ++
    [.get ⟨0⟩ "oldest", .release (shelf.address 0), .release (shelf.address 1), .acquire ⟨50⟩]

/-- The oldest page is held, so the next one is evicted. -/
theorem least_recently_used_pinnedOldest :
    unmappings (Session.run shelf (.start 0) pinnedOldest).journal = [1] ∧
      ∃ past q, RecencySession.Reach shelf 0 past q ∧ (Session.run shelf (.start 0) pinnedOldest).Agrees q := by
  have begun : Session.Reach shelf (Session.Calm shelf) 0 [] (.start 0) := .start
  have checked : (Session.start 0).Permits shelf (fun s op => s.Heeds (fun m gfn => m.Clear shelf gfn) op)
      pinnedOldest := by decide +kernel
  have permitted : (Session.start 0).Permits shelf (Session.Calm shelf) pinnedOldest :=
    checked.imp fun s op heeded => heeded.imp fun m gfn clear => clear.calm
  obtain ⟨past, reach⟩ := begun.run permitted
  exact ⟨by decide +kernel, past, reach.least_recently_used⟩

end ForeignPages
