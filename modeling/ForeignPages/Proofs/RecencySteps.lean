import ForeignPages.Proofs.BareMachine
import ForeignPages.Proofs.RecencyLines

namespace ForeignPages

variable {World Driver Probe Page : Type} {host : Host World Driver Probe Page}

/-- A list that says the same as a cache at work. -/
structure Machine.ShownBy (host : Host World Driver Probe Page) (m : Machine World Driver Probe Page)
    (r : Recency World Driver Probe Page) : Prop where
  lines : m.cache.Lines host r.slots
  rest : r.rest = m.bare

/-- Two pieces of work with the same result, on a cache and on the list that shows it. -/
structure Matches {α : Type} (host : Host World Driver Probe Page) (a : α × Machine World Driver Probe Page)
    (b : α × Recency World Driver Probe Page) : Prop where
  result : b.1 = a.1
  shown : a.2.ShownBy host b.2

/-- Work that has to do neither with the pages of a cache nor with its clock. -/
structure Machine.Aside (work : Machine World Driver Probe Page → Reply × Machine World Driver Probe Page) :
    Prop where
  reply : ∀ m, (work m.bare).1 = (work m).1
  rest : ∀ m, (work m.bare).2 = (work m).2.bare
  store : ∀ m, (work m).2.cache.store = m.cache.store
  clock : ∀ m, (work m).2.cache.clock = m.cache.clock

/-- An acquisition gets as far as taking a recency token: its page is cached, or has just passed all
checks. -/
inductive Machine.TakesToken (host : Host World Driver Probe Page) (m : Machine World Driver Probe Page)
    (gfn : Gfn) : Prop
  | hit {driver : Driver} {e : Entry Page} : m.cache.driver = some driver → m.cache.store.find? gfn = some e →
      TakesToken host m gfn
  | miss {driver : Driver} {room counted mapped probed : Machine World Driver Probe Page} {page : Page} :
      m.cache.driver = some driver → m.cache.store.find? gfn = none → m.makeRoom host = (.ok (), room) →
      room.countMapping? = some counted →
      counted.mapPage host driver gfn (host.pageSize driver counted.world) = (.ok page, mapped) →
      mapped.passesPolicy host gfn page (host.pageSize driver counted.world) = (true, probed) →
      TakesToken host m gfn

/-- What an acquisition needs so that neither addresses nor words get in its way: a page that is mapped
lies apart from the cached ones, all references to a page fit one word, and the clock runs on. -/
structure Machine.Calm (host : Host World Driver Probe Page) (m : Machine World Driver Probe Page)
    (gfn : Gfn) : Prop where
  apart : m.MapsApart host.Apart host gfn
  counts : ∀ e, m.cache.store.find? gfn = some e → e.refs.toNat + e.guards.toNat + 1 < 2 ^ 32
  tokens : m.TakesToken host gfn → m.cache.clock.toNat + 1 < 2 ^ 64

/-- A reference that fits is taken, in the entry as in the slot. -/
theorem Entry.pin?_slot {e : Entry Page} (fits : e.refs.toNat + e.guards.toNat + 1 < 2 ^ 32)
    (token : UInt64) (holder : Holder) :
    ∃ pinned, ({ e with lastUse := token } : Entry Page).pin? holder = some pinned ∧
      pinned.slot = e.slot.pin holder ∧ pinned.Small := by
  cases holder with
  | handle =>
    have sum : add32? e.refs 1 = some (e.refs + 1) := if_pos (show e.refs.toNat + 1 < 2 ^ 32 by omega)
    have more := add32?_eq_some.mp sum
    refine ⟨{ e with lastUse := token, refs := e.refs + 1 }, congrArg (Option.map _) sum, ?_, ?_⟩
    · rw [Entry.slot, more]
      rfl
    · rw [Entry.Small, more, Nat.add_right_comm]
      exact fits
  | guard =>
    have sum : add32? e.guards 1 = some (e.guards + 1) := if_pos (show e.guards.toNat + 1 < 2 ^ 32 by omega)
    have more := add32?_eq_some.mp sum
    refine ⟨{ e with lastUse := token, guards := e.guards + 1 }, congrArg (Option.map _) sum, ?_, ?_⟩
    · rw [Entry.slot, more]
      rfl
    · rw [Entry.Small, more]
      exact fits

theorem Cache.tick?_of_lt {c : Cache Driver Probe Page} (runs : c.clock.toNat + 1 < 2 ^ 64) :
    ∃ next : UInt64, next.toNat = c.clock.toNat + 1 ∧ c.tick? = some (c.clock, { c with clock := next }) := by
  have sum : add64? c.clock 1 = some (c.clock + 1) := if_pos runs
  exact ⟨c.clock + 1, add64?_eq_some.mp sum, congrArg (Option.map _) sum⟩

namespace Machine

namespace ShownBy

/-- What has nothing to do with the pages goes the same way beside the list. -/
theorem onRest {m : Machine World Driver Probe Page} {r : Recency World Driver Probe Page}
    {work : Machine World Driver Probe Page → Reply × Machine World Driver Probe Page} (shown : m.ShownBy host r)
    (aside : Aside work) : Matches host (work m) (r.onRest work) := by
  refine ⟨?_, shown.lines.of_same (aside.store m) (aside.clock m), ?_⟩
  · rw [Recency.onRest, shown.rest]
    exact aside.reply m
  · rw [Recency.onRest, shown.rest]
    exact aside.rest m

theorem find?_eq {m : Machine World Driver Probe Page} {r : Recency World Driver Probe Page}
    (shown : m.ShownBy host r) (gfn : Gfn) :
    r.find? gfn = (m.cache.store.find? gfn).map Entry.slot := shown.lines.find?_gfn gfn

theorem findHandle?_eq {m : Machine World Driver Probe Page} {r : Recency World Driver Probe Page}
    (shown : m.ShownBy host r) (h : Handle) :
    r.findHandle? h = ((m.cache.store.gfnOf? h).bind m.cache.store.find?).map Entry.slot :=
  shown.lines.find?_handle h

/-- Evictions take the same pages in the same order. -/
theorem makeRoom {m : Machine World Driver Probe Page} {r : Recency World Driver Probe Page}
    (shown : m.ShownBy host r) : Matches host (m.makeRoom host) (.ok (), r.makeRoom host) := by
  have lines := shown.lines
  have limit : r.rest.cache.limit = m.cache.limit := by rw [shown.rest]; rfl
  rw [makeRoom_eq lines.indexed, Recency.makeRoom, limit, lines.length_eq]
  by_cases full : m.cache.limit ≤ m.cache.store.entries.length
  · rw [if_pos full, if_pos full]
    obtain ⟨unused, summed⟩ : ∃ unused, m.cache.store.unused? = some unused := ⟨_, lines.unused?_eq⟩
    obtain ⟨count, evicted, kept⟩ := lines.evict summed m.cache.limit
    have pages : (m.cache.store.removeAll (Store.victims m.cache.limit unused)).1.map (·.page) =
        (takeFirst Slot.unpinned (m.cache.limit / 2) r.slots).1.map (·.page) := by
      rw [← evicted, List.map_map]
      rfl
    have amount := congrArg List.length evicted
    rw [List.length_map] at amount
    simp only [cleanUp, lines.indexed.size?_eq, summed]
    refine ⟨rfl, ⟨?_, ?_⟩⟩
    · rw [unmapAll_eq_giveBack, tell_cache, giveBack_cache]
      exact kept
    · change Machine.tell _ _ = Machine.bare (Machine.tell _ _)
      rw [unmapAll_eq_giveBack, pages, shown.rest, ← count, ← amount]
      exact congrArg (Machine.tell · _) (withStore_giveBack_bare m _ _).symm
  · rw [if_neg full, if_neg full]
    exact ⟨rfl, shown⟩

/-- A cached page is taken again, and goes to the end of the list. -/
theorem acquireCached {m : Machine World Driver Probe Page} {r : Recency World Driver Probe Page} {gfn : Gfn}
    {e : Entry Page} (shown : m.ShownBy host r) (found : m.cache.store.find? gfn = some e)
    (fits : e.refs.toNat + e.guards.toNat + 1 < 2 ^ 32) (runs : m.cache.clock.toNat + 1 < 2 ^ 64) (holder : Holder) :
    Matches host (m.acquireCached host gfn e holder) (r.acquireCached host e.slot holder) := by
  obtain ⟨next, given, ticked⟩ := Cache.tick?_of_lt runs
  obtain ⟨pinned, room, slot, small⟩ := Entry.pin?_slot fits m.cache.clock holder
  obtain rfl := shown.lines.indexed.keyed gfn e found
  have touched := shown.lines.touch found given (Entry.pin?_keeps room) small
  simp only [Machine.acquireCached, ticked, room]
  refine ⟨?_, ?_, ?_⟩
  · rw [Recency.acquireCached, shown.rest]
    rfl
  · rw [slot] at touched
    exact touched
  · exact shown.rest

/-- A new page comes to the end of the list. -/
theorem place {m : Machine World Driver Probe Page} {r : Recency World Driver Probe Page} {gfn : Gfn} {page : Page}
    (shown : m.ShownBy host r) (unknown : m.cache.store.gfnOf? (host.address page) = none)
    (missing : m.cache.store.find? gfn = none) (runs : m.cache.clock.toNat + 1 < 2 ^ 64) (size : Nat)
    (holder : Holder) :
    Matches host (m.place host gfn page size holder)
      (.done ⟨host.address page, size⟩,
        ⟨r.slots ++ [.first host gfn page holder], m.bare.tell (.pageMapped gfn (host.address page))⟩) := by
  obtain ⟨next, given, ticked⟩ := Cache.tick?_of_lt runs
  have slot : (firstEntry host gfn page m.cache.clock holder).slot = .first host gfn page holder := by
    cases holder <;> rfl
  have small : (firstEntry host gfn page m.cache.clock holder).Small := by
    cases holder <;> exact (by decide : 1 < 2 ^ 32)
  have appended := shown.lines.append (e := firstEntry host gfn page m.cache.clock holder) unknown missing given
    rfl rfl small
  have fresh := Store.insert_of_fresh (e := firstEntry host gfn page m.cache.clock holder) unknown missing
  rw [slot] at appended
  unfold Machine.place
  rw [ticked]
  dsimp only
  rw [fresh] at appended ⊢
  exact ⟨rfl, appended, rfl⟩

/-- A missing page is asked for alike, after the same evictions. -/
theorem acquireNew {m : Machine World Driver Probe Page} {r : Recency World Driver Probe Page} {driver : Driver}
    {gfn : Gfn} (shown : m.ShownBy host r) (bound : m.cache.driver = some driver)
    (missing : m.cache.store.find? gfn = none) (calm : m.Calm host gfn) (holder : Holder) :
    Matches host (m.acquireNew host driver gfn holder) (r.acquireNew host driver gfn holder) := by
  have roomy := shown.makeRoom
  unfold Machine.acquireNew Recency.acquireNew
  cases made : m.makeRoom host with
  | mk result room =>
    rw [made] at roomy
    cases roomy.result
    have shown' : room.ShownBy host (r.makeRoom host) := roomy.shown
    obtain ⟨gfns, shrunk, _⟩ := makeRoom_shrinks shown.lines.indexed made
    have clock : room.cache.clock = m.cache.clock := by rw [shrunk]
    have missing' : room.cache.store.find? gfn = none := by
      rw [shrunk, Store.find?_removeAll, missing, ite_self]
    simp only [Recency.counted?_eq, Recency.delivered_eq, Recency.confirmed_eq, Recency.complained_eq]
    rw [shown'.rest, countMapping?_bare]
    cases count : room.countMapping? with
    | none => exact ⟨rfl, shown'⟩
    | some counted =>
      have same := countMapping?_cache count
      simp only [Option.map_some, bare_world, mapPage_bare]
      have kept := mapPage_cache host counted driver gfn (host.pageSize driver counted.world)
      cases answer : counted.mapPage host driver gfn (host.pageSize driver counted.world) with
      | mk result mapped =>
        rw [answer, same] at kept
        cases result with
        | error source =>
          have told := tellMapFailure_cache mapped gfn source
          refine ⟨rfl, ?_, tellMapFailure_bare mapped gfn source⟩
          exact (show (mapped.tellMapFailure gfn source).cache = room.cache from told.trans kept) ▸ shown'.lines
        | ok page =>
          simp only [passesPolicy_bare]
          have kept' := passesPolicy_cache host mapped gfn page (host.pageSize driver counted.world)
          cases verdict : mapped.passesPolicy host gfn page (host.pageSize driver counted.world) with
          | mk passed probed =>
            rw [verdict, kept] at kept'
            have shown'' : probed.ShownBy host ⟨(r.makeRoom host).slots, probed.bare⟩ :=
              ⟨(show probed.cache = room.cache from kept') ▸ shown'.lines, rfl⟩
            cases passed with
            | false => exact ⟨rfl, shown''.lines, rfl⟩
            | true =>
              -- Only here a token is taken: a miss that fails before leaves the clock alone.
              have token : m.TakesToken host gfn := .miss bound missing made count answer verdict
              have answers : m.Answers host gfn room page :=
                ⟨driver, counted, bound, missing, made, count, mapPage_ok answer⟩
              have unknown := calm.apart.unknown answers shown'.lines.indexed shown'.lines.linked
              have runs := calm.tokens token
              rw [← clock] at runs
              rw [← show probed.cache = room.cache from kept'] at unknown missing' runs
              exact shown''.place unknown missing' runs _ holder

/-- An acquisition does the same to both. -/
theorem acquire {m : Machine World Driver Probe Page} {r : Recency World Driver Probe Page} {gfn : Gfn}
    (shown : m.ShownBy host r) (calm : m.Calm host gfn) (holder : Holder) :
    Matches host (m.acquire host gfn holder) (r.acquire host gfn holder) := by
  have driver : r.rest.cache.driver = m.cache.driver := by rw [shown.rest]; rfl
  unfold Machine.acquire Recency.acquire
  rw [driver]
  cases bound : m.cache.driver with
  | none => exact ⟨rfl, shown⟩
  | some driver =>
    dsimp only
    rw [shown.find?_eq]
    cases found : m.cache.store.find? gfn with
    | none => exact shown.acquireNew bound found calm holder
    | some e => exact shown.acquireCached found (calm.counts e found) (calm.tokens (.hit bound found)) holder

/-- Counters that go down keep both in step. -/
theorem change {m : Machine World Driver Probe Page} {r : Recency World Driver Probe Page} {gfn : Gfn}
    {f : Entry Page → Entry Page} {g : Slot Page → Slot Page} (shown : m.ShownBy host r)
    (slot : ∀ e, m.cache.store.find? gfn = some e → (f e).slot = g e.slot)
    (keeps : ∀ e, (f e).gfn = e.gfn ∧ (f e).handle = e.handle ∧ (f e).page = e.page ∧ (f e).lastUse = e.lastUse)
    (less : ∀ slot, (g slot).refs + (g slot).guards ≤ slot.refs + slot.guards) :
    (m.withStore (m.cache.store.change gfn f)).ShownBy host (r.change gfn g) := by
  refine ⟨shown.lines.change slot keeps fun e found => ?_, shown.rest⟩
  have small := shown.lines.small gfn e found
  have fewer := less e.slot
  rw [← slot e found] at fewer
  exact Nat.lt_of_le_of_lt fewer small

/-- A release does the same to both. -/
theorem release {m : Machine World Driver Probe Page} {r : Recency World Driver Probe Page} (shown : m.ShownBy host r)
    (h : Handle) : Matches host (m.release h) (r.release h) := by
  unfold Machine.release Recency.release
  rw [shown.findHandle?_eq]
  cases known : m.cache.store.gfnOf? h with
  | none => exact ⟨rfl, shown⟩
  | some gfn =>
    obtain ⟨e, found, _⟩ := shown.lines.linked.faithful h gfn known
    obtain rfl := shown.lines.indexed.keyed gfn e found
    have refs : e.refs = 0 ↔ e.slot.refs = 0 := UInt32.toNat_inj.symm
    have guards : e.guards = 0 ↔ e.slot.guards = 0 := UInt32.toNat_inj.symm
    simp only [Option.bind_some, found, Option.map_some, refs, guards]
    split
    · split
      · exact ⟨rfl, shown⟩
      · refine ⟨rfl, shown.lines, ?_⟩
        rw [shown.rest]
        rfl
    · next held =>
      refine ⟨rfl, shown.change (fun d there => ?_) (fun _ => ⟨rfl, rfl, rfl, rfl⟩) fun slot => ?_⟩
      · cases found.symm.trans there
        rw [Entry.slot, toNat_sub_one (Nat.pos_of_ne_zero held)]
        rfl
      · show slot.refs - 1 + slot.guards ≤ slot.refs + slot.guards
        omega

/-- So does a guard that is dropped. -/
theorem releaseGuard {m : Machine World Driver Probe Page} {r : Recency World Driver Probe Page}
    (shown : m.ShownBy host r) (gfn : Gfn) :
    Matches host (m.releaseGuard gfn) (r.releaseGuard gfn) := by
  unfold Machine.releaseGuard Recency.releaseGuard
  rw [shown.find?_eq]
  cases found : m.cache.store.find? gfn with
  | none => exact ⟨rfl, shown⟩
  | some e =>
    have guards : e.guards = 0 ↔ e.slot.guards = 0 := UInt32.toNat_inj.symm
    simp only [Option.map_some, guards]
    split
    · exact ⟨rfl, shown⟩
    · next held =>
      refine ⟨rfl, shown.change (fun d there => ?_) (fun _ => ⟨rfl, rfl, rfl, rfl⟩) fun slot => ?_⟩
      · cases found.symm.trans there
        rw [Entry.slot, toNat_sub_one (Nat.pos_of_ne_zero held)]
        rfl
      · show slot.refs + (slot.guards - 1) ≤ slot.refs + slot.guards
        omega

theorem pages_perm {m : Machine World Driver Probe Page} {r : Recency World Driver Probe Page}
    (shown : m.ShownBy host r) :
    (r.slots.map (·.page)).Perm (m.cache.store.entries.map (·.page)) := by
  obtain ⟨es, perm, _, _, slots⟩ := shown.lines.order
  rw [slots, List.map_map]
  exact perm.map _

theorem clear_bare (host : Host World Driver Probe Page) (m : Machine World Driver Probe Page) :
    (m.clear host).bare = m.bare.giveBack host (m.cache.store.entries.map (·.page)) := by
  rw [clear, unmapAll_eq_giveBack]
  exact withStore_giveBack_bare m .empty _

/-- The cache gives its pages back in the order of its store, which the list leaves open. -/
theorem bind {m : Machine World Driver Probe Page} {r : Recency World Driver Probe Page} (shown : m.ShownBy host r)
    (driver : Driver) :
    (m.bind host driver).ShownBy host (r.bind host (m.cache.store.entries.map (·.page)) driver) := by
  refine ⟨.empty (m.bind_store driver), ?_⟩
  have cleared := clear_bare host m
  unfold Recency.bind
  rw [shown.rest, ← cleared]
  exact Recency.attached_bare host (m.clear host) driver

theorem destroy {m : Machine World Driver Probe Page} {r : Recency World Driver Probe Page} (shown : m.ShownBy host r) :
    (r.destroy host (m.cache.store.entries.map (·.page))).rest = (m.destroy host).bare := by
  have cleared := clear_bare host m
  unfold Recency.destroy Machine.destroy
  rw [shown.rest, ← cleared, shown.lines.length_eq]
  rfl

/-- A guard leads to the same page. -/
theorem pageFor_eq {m : Machine World Driver Probe Page} {r : Recency World Driver Probe Page}
    (shown : m.ShownBy host r) (g : Guard) (offset count : Nat) :
    r.pageFor host g offset count = m.pageFor host g offset count := by
  have admitted : (offset + count < UInt64.size ∧ offset + count ≤ g.size) = (g.admits offset count = true) := by
    rw [Guard.admits, Bool.and_eq_true, decide_eq_true_eq, decide_eq_true_eq]
  unfold Recency.pageFor Machine.pageFor
  rw [shown.find?_eq, shown.rest]
  simp only [admitted]
  cases m.cache.store.find? g.gfn <;> rfl

theorem readBytes_eq {m : Machine World Driver Probe Page} {r : Recency World Driver Probe Page}
    (shown : m.ShownBy host r) (g : Guard) (offset count : Nat) :
    r.readBytes host g offset count = m.readBytes host g offset count := by
  unfold Recency.readBytes
  rw [Machine.readBytes_eq, shown.pageFor_eq, shown.rest]
  rfl

/-- A write does the same to both. -/
theorem write {m : Machine World Driver Probe Page} {r : Recency World Driver Probe Page} (shown : m.ShownBy host r)
    (g : Guard) (offset : Nat) (bytes : List UInt8) :
    Matches host (m.write host g offset bytes) (r.write host g offset bytes) := by
  unfold Recency.write Machine.write
  rw [shown.pageFor_eq]
  cases m.pageFor host g offset bytes.length with
  | error e => exact ⟨rfl, shown⟩
  | ok page =>
    refine ⟨rfl, shown.lines, ?_⟩
    rw [shown.rest]
    rfl

theorem readAs_eq {m : Machine World Driver Probe Page} {r : Recency World Driver Probe Page} {α : Type}
    (shown : m.ShownBy host r) (layout : Layout α) (g : Guard) (offset : Nat) :
    r.readAs host layout g offset = m.readAs host layout g offset :=
  congrArg (Except.map layout.decode) (shown.readBytes_eq g offset layout.width)

theorem writeAs {m : Machine World Driver Probe Page} {r : Recency World Driver Probe Page} {α : Type}
    (shown : m.ShownBy host r) (layout : Layout α) (g : Guard) (offset : Nat) (value : α) :
    Matches host (m.writeAs host layout g offset value) (r.writeAs host layout g offset value) :=
  shown.write g offset (layout.encode value)

end ShownBy

end Machine

end ForeignPages
