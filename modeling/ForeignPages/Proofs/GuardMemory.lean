import ForeignPages.Proofs.PageContents

namespace ForeignPages

variable {World Driver Probe Page : Type} {host : Host World Driver Probe Page}

/-- The page of which an acquisition tells the size, and the world as it is then: a cached page as it lies there,
a new one as it is delivered. -/
def Moment.leased? (host : Host World Driver Probe Page) (gfn : Gfn) (t : Moment World Driver Probe Page) :
    Option (Page × World) :=
  match t.session.cached? gfn with
  | some e => some (e.page, t.session.world)
  | none => t.delivered? host gfn

/-- A guard is taken under a name, with the size that its page has at that moment. -/
structure Moment.Takes (host : Host World Driver Probe Page) (name : String) (g : Guard) (page : Page)
    (t : Moment World Driver Probe Page) : Prop where
  op : t.op = .get g.gfn name
  reply : t.reply host = .lease ⟨g.handle, g.size⟩
  size : ∃ world, t.leased? host g.gfn = some (page, world) ∧ g.size = host.size page world

theorem Reply.of_ofAcquired_lease {outcome : Outcome Lease} {lease : Lease}
    (reply : Reply.ofAcquired outcome .guard = .lease lease) : outcome = .done lease := by
  cases outcome with
  | done given => exact congrArg Outcome.done (Reply.lease.inj reply)
  | refused | broken => cases reply

namespace Session

theorem onCache_guards (s : Session World Driver Probe Page)
    (work : Machine World Driver Probe Page → Reply × Machine World Driver Probe Page) :
    (s.onCache work).2.guards = s.guards := by
  unfold onCache
  split <;> rfl

theorem configure_guards (s : Session World Driver Probe Page)
    (work : Machine World Driver Probe Page → Reply × Machine World Driver Probe Page) :
    (s.configure work).2.guards = s.guards := by
  unfold configure
  split
  · exact s.onCache_guards work
  · rfl

theorem onGuard_guards (s : Session World Driver Probe Page) (name : String)
    (work : Guard → Machine World Driver Probe Page → Reply × Machine World Driver Probe Page) :
    (s.onGuard name work).2.guards = s.guards := by
  unfold onGuard
  split
  · rfl
  · exact s.onCache_guards _

theorem close_guards (host : Host World Driver Probe Page) (s : Session World Driver Probe Page) :
    (s.close host).guards = .empty := by
  unfold close dropGuards
  cases s.cache <;> rfl

/-- A guard is there after an acquisition if it was before, or is the one that was handed out. -/
theorem get_guard {s : Session World Driver Probe Page} {name : String} {g : Guard} {gfn : Gfn} {under : String}
    (taken : (s.get host gfn under).2.guards.find? name = some g) :
    s.guards.find? name = some g ∨
      (gfn = g.gfn ∧ under = name) ∧ (s.get host gfn under).1 = .lease ⟨g.handle, g.size⟩ := by
  unfold get at taken ⊢
  split at taken
  · exact .inl taken
  · split at taken
    · next lease m run =>
      simp only [Index.find?_insert] at taken
      split at taken
      · next same =>
        cases taken
        exact .inr ⟨⟨rfl, same.symm⟩, rfl⟩
      · exact .inl taken
    · exact .inl taken
    · exact .inl taken

/-- A guard that is live after an operation was live before, or was taken just now. -/
theorem step_guard {s : Session World Driver Probe Page} {op : Op World Driver Probe} {name : String} {g : Guard}
    (taken : (s.step host op).2.guards.find? name = some g) :
    s.guards.find? name = some g ∨ op = .get g.gfn name ∧ (s.step host op).1 = .lease ⟨g.handle, g.size⟩ := by
  have kept : (s.step host op).2.guards = s.guards → s.guards.find? name = some g := fun same => same ▸ taken
  cases op with
  | create driver =>
    have none : (s.step host (.create driver)).2.guards = .empty := by
      cases driver <;> exact s.close_guards host
    rw [none] at taken
    cases taken
  | discard =>
    rw [show (s.step host .discard).2.guards = .empty from s.close_guards host] at taken
    cases taken
  | bind | setKernel | setPolicy | setProbe | setCounting => exact .inl (kept (s.configure_guards _))
  | setOptions options =>
    refine .inl (kept ?_)
    simp only [step, setOptions]
    split
    · split
      · rfl
      · split <;> rfl
    · rfl
  | setLimit | acquire | release => exact .inl (kept (s.onCache_guards _))
  | get gfn under =>
    rcases get_guard taken with old | ⟨⟨rfl, rfl⟩, reply⟩
    · exact .inl old
    · exact .inr ⟨rfl, reply⟩
  | dropGuard dropped =>
    simp only [step, dropGuard] at taken
    split at taken
    · exact .inl taken
    · rw [onCache_guards, Index.find?_erase] at taken
      split at taken
      · cases taken
      · exact .inl taken
  | read | readWord | readHeader | write | writeWord | writeHeader => exact .inl (kept (s.onGuard_guards _ _))
  | outside => exact .inl taken

/-- A guard that was taken just now has the size of its page. -/
theorem takes_of_lease {s : Session World Driver Probe Page} {name : String} {g : Guard} {d : Entry Page}
    (indexed : ∀ cache, s.cache = some cache → cache.store.Indexed)
    (reply : (s.step host (.get g.gfn name)).1 = .lease ⟨g.handle, g.size⟩)
    (found : (s.step host (.get g.gfn name)).2.cached? g.gfn = some d) :
    Moment.Takes host name g d.page ⟨s, .get g.gfn name⟩ := by
  refine ⟨rfl, reply, ?_⟩
  cases before : s.cached? g.gfn with
  | some e =>
    obtain ⟨cache, present, there⟩ := cached?_eq_some.mp before
    have asks : (Op.get g.gfn name : Op World Driver Probe).acquires? = some (g.gfn, .guard) := rfl
    obtain ⟨_, _, _, _, same⟩ := step_acquires host present asks
    have done := Reply.of_ofAcquired_lease (same.symm.trans reply)
    have size := congrArg Lease.size (Machine.acquire_hit (m := s.machine cache) (indexed cache present) there done)
    refine ⟨s.world, ?_, ?_⟩
    · rw [Moment.leased?, before, step_page indexed before found]
    · rw [step_page indexed before found]
      exact size
  | none =>
    obtain ⟨holder, world, asks, delivered, lease, _⟩ := step_delivers indexed before found
    cases asks
    refine ⟨world, ?_, ?_⟩
    · rw [Moment.leased?, before]
      exact delivered
    · have same : Lease.mk g.handle g.size = ⟨host.address d.page, host.size d.page world⟩ :=
        Reply.lease.inj (reply.symm.trans lease)
      exact congrArg Lease.size same

/-- What guards read and write. -/
structure GuardMemory (apart : Page → Page → Prop) (extent : Page → Nat) (sound : Page → World → Prop)
    (host : Host World Driver Probe Page) (moments : List (Moment World Driver Probe Page))
    (s : Session World Driver Probe Page) : Prop where
  stillSound : ∀ gfn e, s.cached? gfn = some e → sound e.page s.world
  /-- A cached page has the bytes that its driver delivered, with all writes on top that went to it through its
  guards since, also where its present size hides them. -/
  content : ∀ gfn e, s.cached? gfn = some e → ∀ i < extent e.page,
    host.byte e.page i s.world = contentOf host gfn moments i
  /-- Nothing else changes a page that stays cached, whatever is done to others. -/
  steady : ∀ op gfn e d, s.SharesNothing apart extent sound host op → s.cached? gfn = some e →
    (s.step host op).2.cached? gfn = some d → Moment.written? host gfn ⟨s, op⟩ = none →
    d.page = e.page ∧ ∀ i < extent e.page, host.byte d.page i (s.step host op).2.world = host.byte e.page i s.world
  /-- The page of a live guard is cached. It is the one on which the guard was taken, and had the size of the
  guard then. -/
  sized : ∀ name g, s.guards.find? name = some g → ∃ e newer t older, s.cached? g.gfn = some e ∧
    moments = newer ++ t :: older ∧ t.Takes host name g e.page ∧ ∀ u ∈ newer, u.session.guards.find? name = some g
  /-- A read succeeds within both sizes, and nowhere else. It replies the bytes of its range. -/
  reads : ∀ op name offset count reply g e, op.reads? = some (name, offset, count, reply) →
    s.guards.find? name = some g → s.cached? g.gfn = some e →
    s.step host op =
      if g.Covers (host.size e.page s.world) offset count then
        (reply ((List.range count).map fun i => contentOf host g.gfn moments (offset + i)), s)
      else (.refused .outOfBounds, s)
  /-- A read fills the buffer of its caller with the bytes of its range, or leaves the buffer alone. -/
  fills : ∀ name g e cache offset (buffer : List UInt8), s.guards.find? name = some g → s.cached? g.gfn = some e →
    s.cache = some cache → (s.machine cache).read host g offset buffer =
      if g.Covers (host.size e.page s.world) offset buffer.length then
        (.ok (), (List.range buffer.length).map fun i => contentOf host g.gfn moments (offset + i))
      else (.error .outOfBounds, buffer)
  /-- A write succeeds within both sizes, and nowhere else. It goes to the page of the guard. -/
  writes : ∀ op name offset bytes g e, op.writes? = some (name, offset, bytes) →
    s.guards.find? name = some g → s.cached? g.gfn = some e →
    s.step host op =
      if g.Covers (host.size e.page s.world) offset bytes.length then
        (.nothing, { s with world := host.write e.page offset bytes s.world })
      else (.refused .outOfBounds, s)
  /-- After a write that succeeds, exactly its range is overwritten, and that of no other page. -/
  written : ∀ (g : Guard) e offset (bytes : List UInt8), s.cached? g.gfn = some e →
    g.Covers (host.size e.page s.world) offset bytes.length →
    (∀ i < extent e.page, i < offset ∨ offset + bytes.length ≤ i →
      host.byte e.page i (host.write e.page offset bytes s.world) = host.byte e.page i s.world) ∧
    (∀ k (inside : k < bytes.length),
      host.byte e.page (offset + k) (host.write e.page offset bytes s.world) = bytes[k]) ∧
    ∀ other d, other ≠ g.gfn → s.cached? other = some d →
      ∀ i < extent d.page, host.byte d.page i (host.write e.page offset bytes s.world) = host.byte d.page i s.world

end Session

/-- The page of a live guard is the one on which the guard was taken. -/
theorem Session.Course.taken {world : World} {s : Session World Driver Probe Page}
    {moments : List (Moment World Driver Probe Page)}
    {allowed : Session World Driver Probe Page → Op World Driver Probe → Prop} {name : String} {g : Guard}
    (course : Session.Course host allowed (.start world) moments s) (taken : s.guards.find? name = some g) :
    ∃ e newer t older, s.cached? g.gfn = some e ∧ moments = newer ++ t :: older ∧ t.Takes host name g e.page ∧
      ∀ u ∈ newer, u.session.guards.find? name = some g := by
  induction course with
  | start => cases taken
  | reorder _ present same ih =>
    obtain ⟨e, newer, t, older, found, rest⟩ := ih taken
    refine ⟨e, newer, t, older, ?_, rest⟩
    rw [cached?, present] at found
    exact (same.find?_eq g.gfn).trans found
  | @step moments s op course permitted ih =>
    obtain ⟨past, reach⟩ := course.reached
    obtain ⟨d, found, _⟩ := (reach.step op permitted).guard_cached taken
    have indexed : ∀ cache, s.cache = some cache → cache.store.Indexed := fun _ present => reach.indexed present
    -- Either the guard was there before, or this is the moment at which it was taken.
    rcases step_guard taken with old | ⟨rfl, reply⟩
    · obtain ⟨e, newer, t, older, before, rfl, takes, since⟩ := ih old
      refine ⟨d, ⟨s, op⟩ :: newer, t, older, found, rfl, ?_, ?_⟩
      · rw [step_page indexed before found]
        exact takes
      · intro u member
        rcases List.mem_cons.mp member with rfl | earlier
        · exact old
        · exact since u earlier
    · have takes := takes_of_lease indexed reply found
      exact ⟨d, [], _, moments, found, rfl, takes, fun _ none => absurd none List.not_mem_nil⟩

/-- The bytes of a range that a guard covers are those of the history of its page. -/
theorem Session.Course.read_eq {apart : Page → Page → Prop} {extent : Page → Nat} {sound : Page → World → Prop}
    {world : World} {s : Session World Driver Probe Page} {moments : List (Moment World Driver Probe Page)}
    {g : Guard} {e : Entry Page} {offset count : Nat} (separates : host.Separates apart extent sound)
    (course : Session.Course host (Session.SharesNothing apart extent sound host) (.start world) moments s)
    (found : s.cached? g.gfn = some e) (covers : g.Covers (host.size e.page s.world) offset count) :
    host.read e.page offset count s.world =
      (List.range count).map fun i => contentOf host g.gfn moments (offset + i) := by
  obtain ⟨isSound, bytes⟩ := course.content separates found
  refine List.map_congr_left fun i member => bytes _ ?_
  have before := List.mem_range.mp member
  have fits := Nat.le_trans covers.2.2 (separates.size_le e.page s.world isSound)
  omega

/-- Where pages that are mapped at the same time share no bytes, and nobody else writes to them, guards read
what was written through guards of the same page since it was mapped, however long the run. -/
theorem Session.Course.guard_memory {apart : Page → Page → Prop} {extent : Page → Nat} {sound : Page → World → Prop}
    {world : World} {s : Session World Driver Probe Page} {moments : List (Moment World Driver Probe Page)}
    (separates : host.Separates apart extent sound)
    (course : Session.Course host (Session.SharesNothing apart extent sound host) (.start world) moments s) :
    s.GuardMemory apart extent sound host moments := by
  obtain ⟨past, reach⟩ := course.reached
  have indexed : ∀ cache, s.cache = some cache → cache.store.Indexed := fun _ present => reach.indexed present
  have sounds : ∀ gfn e, s.cached? gfn = some e → sound e.page s.world :=
    fun gfn e found => (course.content separates found).1
  constructor
  case stillSound => exact sounds
  case content => exact fun gfn e found => (course.content separates found).2
  case sized => exact fun name g => course.taken
  case writes => exact fun op name offset bytes g e asks taken found => step_write asks taken found
  case steady =>
    intro op gfn e d shares found stays idle
    have page := step_page indexed found stays
    refine ⟨page, fun i within => ?_⟩
    have kept := (reach.step_byte separates sounds shares found stays).2 i within
    rw [Moment.overwrites, idle] at kept
    rw [page]
    exact kept
  case reads =>
    intro op name offset count reply g e asks taken found
    rw [step_read asks taken found]
    by_cases covers : g.Covers (host.size e.page s.world) offset count
    · rw [if_pos covers, if_pos covers, course.read_eq separates found covers]
    · rw [if_neg covers, if_neg covers]
  case fills =>
    intro name g e cache offset buffer _ cached present
    obtain ⟨cache', present', found⟩ := cached?_eq_some.mp cached
    cases present.symm.trans present'
    have range : (s.machine cache).pageFor host g offset buffer.length =
        if g.Covers (host.size e.page s.world) offset buffer.length then .ok e.page else .error .outOfBounds :=
      Machine.pageFor_of_found found offset buffer.length
    rw [Machine.read, range]
    by_cases covers : g.Covers (host.size e.page s.world) offset buffer.length
    · rw [if_pos covers, if_pos covers]
      exact congrArg (Prod.mk _) (course.read_eq separates cached covers)
    · rw [if_neg covers, if_neg covers]
  case written =>
    intro g e offset bytes found covers
    have isSound := sounds g.gfn e found
    have own := separates.byte_write e.page offset bytes s.world isSound covers.2.2
    have fits := Nat.le_trans covers.2.2 (separates.size_le e.page s.world isSound)
    refine ⟨fun i within outside => ?_, fun k inside => ?_, fun other d different there => ?_⟩
    · exact (own i within).trans (ImageFile.overwrite_outside outside)
    · have upper : offset + k - offset < bytes.toArray.size := by
        rw [Nat.add_sub_cancel_left]
        exact inside
      refine (own (offset + k) (by omega)).trans ?_
      refine (ImageFile.overwrite_within (Nat.le_add_right offset k) upper).trans ?_
      simp only [Nat.add_sub_cancel_left, List.getElem_toArray]
    · have far := apart_of_ne separates reach.tidy found there different
      exact (separates.write _ _ _ _ _ isSound covers.2.2 far (sounds other d there)).2

/-- An outside whose pages have eight bytes each, which can be hidden and shown. -/
structure Sheets where
  mapped : Nat
  length : Nat → Nat
  byte : Nat → Nat → UInt8

/-- Shows so many bytes of a page from now on. -/
def Sheets.shows (page length : Nat) (w : Sheets) : Sheets :=
  { w with length := fun p => if p = page then length else w.length p }

/-- A page comes with its number in all bytes, and nothing is left of them when it is given back. -/
def sheets : Host Sheets Unit Unit Nat where
  pageSize _ _ := 8
  map _ gfn _ w := (.ok w.mapped, { w.shows w.mapped 8 with
    mapped := w.mapped + 1
    byte := fun p i => if p = w.mapped then UInt8.ofNat gfn.number.toNat else w.byte p i })
  unmap page w := { w with byte := fun p i => if p = page then 0 else w.byte p i }
  address page := ⟨UInt64.ofNat (4096 * (page + 1))⟩
  size page w := min (w.length page) 8
  byte page i w := w.byte page i
  write page offset bytes w := { w with
    byte := fun p i => if p = page then ImageFile.overwrite (w.byte p) offset bytes.toArray i else w.byte p i }
  probe _ _ _ w := (.ok true, w)
  standardProbe := ()
  release _ := .error (.plain .notFound)

/-- A sheet shares no byte with any other, whatever is mapped, written or given back. -/
theorem sheets_separates : sheets.Separates (· ≠ ·) (fun _ => 8) (fun _ _ => True) where
  size_le _ _ _ := Nat.min_le_right ..
  stays_sound _ _ _ _ _ _ := trivial
  byte_write _ _ _ _ _ _ _ _ := if_pos rfl
  symm _ _ := Ne.symm
  map _ _ _ w _ far _ := ⟨trivial, fun _ _ => if_neg (far w.mapped rfl).symm⟩
  unmap _ _ _ far _ := ⟨trivial, fun _ _ => if_neg far.symm⟩
  probe _ _ _ _ _ _ := ⟨trivial, fun _ _ => rfl⟩
  write _ _ _ _ _ _ _ far _ := ⟨trivial, fun _ _ => if_neg far.symm⟩

/-- Before any sheet was mapped. -/
def noSheets : Sheets := ⟨0, fun _ => 0, fun _ _ => 0⟩

/-- A run in which a page that was written to makes room for another one, and is mapped again. Of its next two
guards, one is taken while half of the page is hidden. -/
def remappedSheet : List (Op Sheets Unit Unit) :=
  [.create (some ()), .setLimit 50] ++ (List.range 49).map (fun n => .acquire ⟨UInt64.ofNat (n + 10)⟩) ++
    [.get ⟨3⟩ "first", .write "first" 0 [1, 2], .dropGuard "first", .acquire ⟨60⟩, .release (sheets.address 0),
      .get ⟨3⟩ "whole", .write "whole" 2 [7, 8, 9], .outside (Sheets.shows 51 4), .get ⟨3⟩ "half",
      .write "half" 3 [6], .write "whole" 4 [5], .outside (Sheets.shows 51 8)]

/-- The page shows what came with it the last time and what was written since, through guards of both sizes. -/
theorem guard_memory_remappedSheet :
    ((List.range 8).map (contentOf sheets ⟨3⟩ ((Session.start noSheets).moments sheets remappedSheet)),
      ((Session.start noSheets).run sheets remappedSheet).guards.values.map (·.size)) =
      ([3, 3, 7, 6, 9, 3, 3, 3], [4, 8]) ∧
    ((Session.start noSheets).run sheets remappedSheet).GuardMemory (· ≠ ·) (fun _ => 8) (fun _ _ => True) sheets
      ((Session.start noSheets).moments sheets remappedSheet) := by
  have apart : (Session.start noSheets).Permits sheets
      (fun s op => s.Heeds (fun m gfn => m.MapsApart (· ≠ ·) sheets gfn) op) remappedSheet := by decide +kernel
  have quiet : ∀ op ∈ remappedSheet, ∀ s, Session.Undisturbed (fun _ => 8) (fun _ _ => True) sheets s op := by
    intro op member s
    cases op with
    | outside change =>
      have shows : change = Sheets.shows 51 4 ∨ change = Sheets.shows 51 8 := by simpa [remappedSheet] using member
      rcases shows with rfl | rfl <;> exact fun _ _ _ _ => ⟨trivial, fun _ _ => rfl⟩
    | _ => trivial
  have shares : (Session.start noSheets).Permits sheets
      (Session.SharesNothing (· ≠ ·) (fun _ => 8) (fun _ _ => True) sheets) remappedSheet :=
    (apart.and_of_mem quiet).imp fun s op granted => ⟨granted.1, fun _ _ _ _ _ => trivial, granted.2 s⟩
  exact ⟨by decide +kernel, Session.Course.guard_memory sheets_separates shares.course⟩

end ForeignPages
