import ForeignPages.Proofs.Courses
import ForeignPages.Proofs.FlatImage
import ForeignPages.Proofs.ImagePages
import ForeignPages.Proofs.LeastRecentlyUsed

namespace ForeignPages

abbrev ImageCaching : Type := Session ImageWorld ImageDriver Unit ImagePage

variable {World Driver Probe Page : Type}

/-- An acquisition that overflows neither the clock nor the references of its page, nor a table of counters
if there is one, and that maps no page to the address of a cached one. -/
structure Machine.Acquirable (host : Host World Driver Probe Page) (m : Machine World Driver Probe Page)
    (gfn : Gfn) : Prop where
  calm : m.Calm host gfn
  counts : m.cache.store.find? gfn = none → m.countMapping?.isSome = true

def transcript (host : Host World Driver Probe Page) (moments : List (Moment World Driver Probe Page)) :
    List (Op World Driver Probe × Reply) :=
  moments.map fun t => (t.op, (t.reply host).anonymous)

namespace Session

/-- What is done with a cache over an image: pages are taken, accessed and given back, and limits are set.
Only those references are released that were acquired. -/
def Uses (s : Session World Driver Probe Page) : Op World Driver Probe → Prop
  | .release h => ((s.gfnOf? h).bind s.cached?).any (fun e => decide (e.refs ≠ 0)) = true
  | .create _ | .discard | .bind _ | .setKernel _ | .setPolicy _ | .setProbe _ | .setCounting _ | .setOptions _
  | .outside _ => False
  | _ => True

instance (s : Session World Driver Probe Page) : (op : Op World Driver Probe) → Decidable (s.Uses op)
  | .release h => inferInstanceAs (Decidable (((s.gfnOf? h).bind s.cached?).any (fun e => decide (e.refs ≠ 0)) = true))
  | .create _ | .discard | .bind _ | .setKernel _ | .setPolicy _ | .setProbe _ | .setCounting _ | .setOptions _
  | .outside _ => .isFalse id
  | .setLimit _ | .acquire _ | .get .. | .dropGuard _ | .read .. | .write .. | .readWord .. | .writeWord ..
  | .readHeader .. | .writeHeader .. => .isTrue trivial

/-- What can happen between a session and an image that nobody else touches. -/
def UsesImage (place : Nat → Handle) (s : ImageCaching) (op : Op ImageWorld ImageDriver Unit) : Prop :=
  s.Uses op ∧ s.Heeds (fun m gfn => m.Acquirable (imageHost place) gfn) op

/-- A cache was made for an image that was opened for reading and writing. -/
structure OpensImage (d : ImageDriver) (s : ImageCaching) : Prop where
  opened : ImageDriver.ofSize s.world.file.size .readWrite true = .ok d
  copies : ∀ serial, s.world.copies serial = none
  guards : s.guards = .empty
  cached : ∃ cache, s.cache = some cache ∧ cache.driver = some d ∧ cache.store = .empty

/-- A session shows a flat image: a cache over its bytes, and guards on the pages that were taken. -/
structure OverImage (place : Nat → Handle) (d : ImageDriver) (s : ImageCaching) (f : FlatImage) : Prop where
  cached : ∃ cache, s.cache = some cache ∧ (s.machine cache).OverImage place d f.byte s.guards.values
  pages : f.pages = d.pages.toNat
  names : ∀ name, (s.guards.find? name).map (fun g => (g.gfn, g.size)) =
    (f.guards.find? name).map fun gfn => (gfn, 4096)

/-- The same reply but for addresses, and the same image afterwards. -/
structure Follows (place : Nat → Handle) (d : ImageDriver) (a : Reply × ImageCaching) (b : Reply × FlatImage) :
    Prop where
  reply : a.1.anonymous = b.1
  view : a.2.OverImage place d b.2

theorem OpensImage.view {place : Nat → Handle} {d : ImageDriver} {s : ImageCaching} (opens : s.OpensImage d) :
    s.OverImage place d (.ofFile s.world.file) := by
  obtain ⟨cache, present, bound, empty⟩ := opens.cached
  obtain ⟨whole, some, _⟩ := ImageDriver.of_ofSize opens.opened
  refine ⟨⟨cache, present, bound, opens.opened, fun i below => ?_, opens.copies, fun gfn e found => ?_, ?_, ?_⟩, ?_, ?_⟩
  · exact (if_pos below).symm
  · rw [machine, empty] at found
    cases found
  · rw [opens.guards, machine, empty]
    exact .empty
  · exact ⟨[], Cache.Lines.empty empty⟩
  · change s.world.file.size.toNat / 4096 = d.pages.toNat
    omega
  · rw [opens.guards]
    exact fun name => rfl

namespace OverImage

/-- A guard of the session is a guard of the flat image on the same page, a whole page long. -/
theorem find?_guard {place : Nat → Handle} {d : ImageDriver} {s : ImageCaching} {f : FlatImage} {name : String}
    {g : Guard} (view : s.OverImage place d f) (taken : s.guards.find? name = some g) :
    f.guards.find? name = some g.gfn ∧ g.size = 4096 ∧ g ∈ s.guards.values := by
  have same := view.names name
  rw [taken, Option.map_some] at same
  obtain ⟨gfn, there, pair⟩ := Option.map_eq_some_iff.mp same.symm
  obtain ⟨same, size⟩ := Prod.mk.inj pair
  exact ⟨same ▸ there, size.symm, Index.mem_values.mpr ⟨name, taken⟩⟩

theorem find?_none {place : Nat → Handle} {d : ImageDriver} {s : ImageCaching} {f : FlatImage} {name : String}
    (view : s.OverImage place d f) (free : s.guards.find? name = none) :
    f.guards.find? name = none := by
  have same := view.names name
  rw [free] at same
  exact Option.map_eq_none_iff.mp same.symm

/-- An acquisition answers alike on both sides, and maps what the flat image has at that page. -/
theorem acquire {place : Nat → Handle} {d : ImageDriver} {s : ImageCaching} {f : FlatImage} (gfn : Gfn)
    (view : s.OverImage place d f) (uses : s.UsesImage place (.acquire gfn)) :
    Follows place d (s.step (imageHost place) (.acquire gfn))
      (f.step (.acquire gfn : Op ImageWorld ImageDriver Unit)) := by
  obtain ⟨cache, present, image⟩ := view.cached
  obtain ⟨calm, counts⟩ := uses.2 cache present
  have after := image.acquire calm .handle
  have nobody : ((s.machine cache).acquire (imageHost place) gfn .handle).1.guards gfn .handle = [] := by
    cases ((s.machine cache).acquire (imageHost place) gfn .handle).1 <;> rfl
  rw [nobody] at after
  have next : (s.step (imageHost place) (.acquire gfn)).2.OverImage place d f := by
    simp only [step, onCache, present]
    exact ⟨⟨_, rfl, after⟩, view.pages, view.names⟩
  simp only [FlatImage.step, FlatImage.take]
  by_cases inside : gfn.number.toNat < f.pages
  · rw [if_pos inside]
    obtain ⟨h, done⟩ := image.acquire_of_lt calm counts (view.pages ▸ inside) .handle
    refine ⟨?_, next⟩
    simp only [step, onCache, present, done]
    rfl
  · rw [if_neg inside]
    have refused := image.acquire_of_le calm counts (view.pages ▸ Nat.not_lt.mp inside) .handle
    refine ⟨?_, next⟩
    simp only [step, onCache, present, refused]
    rfl

theorem get {place : Nat → Handle} {d : ImageDriver} {s : ImageCaching} {f : FlatImage} (gfn : Gfn) (name : String)
    (view : s.OverImage place d f) (uses : s.UsesImage place (.get gfn name)) :
    Follows place d (s.step (imageHost place) (.get gfn name))
      (f.step (.get gfn name : Op ImageWorld ImageDriver Unit)) := by
  obtain ⟨cache, present, image⟩ := view.cached
  obtain ⟨calm, counts⟩ := uses.2 cache present
  have after := image.acquire calm .guard
  simp only [FlatImage.step, FlatImage.take, step, Session.get, present]
  by_cases inside : gfn.number.toNat < f.pages
  · rw [if_pos inside]
    obtain ⟨h, done⟩ := image.acquire_of_lt calm counts (view.pages ▸ inside) .guard
    cases run : (s.machine cache).acquire (imageHost place) gfn .guard with
    | mk outcome m =>
      rw [run] at after done
      cases done
      refine ⟨rfl, ⟨_, rfl, ?_⟩, view.pages, fun other => ?_⟩
      · change Machine.OverImage place d f.byte _ (s.guards.insert name ⟨gfn, h, 4096⟩).values
        rw [Index.values_insert]
        cases taken : s.guards.find? name with
        | none =>
          rw [Index.erase_of_missing taken]
          exact after
        | some old =>
          -- The new guard is there before the old one is dropped, also if both are on one page.
          have both : m.OverImage place d f.byte (old :: ⟨gfn, h, 4096⟩ :: (s.guards.erase name).values) :=
            after.guards_perm (((Index.values_perm_erase taken).cons _).trans (.swap _ _ _))
          exact both.releaseGuard
      · rw [Index.find?_insert, Index.find?_insert]
        split
        · rfl
        · exact view.names other
  · rw [if_neg inside]
    have refused := image.acquire_of_le calm counts (view.pages ▸ Nat.not_lt.mp inside) .guard
    cases run : (s.machine cache).acquire (imageHost place) gfn .guard with
    | mk outcome m =>
      rw [run] at after refused
      cases refused
      exact ⟨rfl, ⟨_, rfl, after⟩, view.pages, view.names⟩

/-- A release of a reference that is held is followed too: it changes no byte on either side. -/
theorem release {place : Nat → Handle} {d : ImageDriver} {s : ImageCaching} {f : FlatImage} (h : Handle)
    (view : s.OverImage place d f) (uses : s.UsesImage place (.release h)) :
    Follows place d (s.step (imageHost place) (.release h)) (f.step (.release h : Op ImageWorld ImageDriver Unit)) := by
  obtain ⟨cache, present, image⟩ := view.cached
  have outstanding := uses.1
  simp only [Uses, gfnOf?, present, Option.bind_some] at outstanding
  have done : ((s.machine cache).release h).1 = .done () := by
    cases known : cache.store.gfnOf? h with
    | none =>
      rw [known] at outstanding
      cases outstanding
    | some gfn =>
      simp only [known, Option.bind_some, cached?, present] at outstanding
      cases found : cache.store.find? gfn with
      | none =>
        rw [found] at outstanding
        cases outstanding
      | some e =>
        rw [found] at outstanding
        have held : e.refs ≠ 0 := of_decide_eq_true outstanding
        simp only [Machine.release, machine, known, found, if_neg held]
  simp only [FlatImage.step, step, onCache, present, done]
  exact ⟨rfl, ⟨_, rfl, image.release h⟩, view.pages, view.names⟩

theorem setLimit {place : Nat → Handle} {d : ImageDriver} {s : ImageCaching} {f : FlatImage} (limit : Nat)
    (view : s.OverImage place d f) :
    Follows place d (s.step (imageHost place) (.setLimit limit))
      (f.step (.setLimit limit : Op ImageWorld ImageDriver Unit)) := by
  obtain ⟨cache, present, image⟩ := view.cached
  simp only [FlatImage.step, step, onCache, present, Cache.setLimit]
  by_cases small : limit < minLimit
  · simp only [machine, if_pos small]
    exact ⟨rfl, ⟨_, rfl, image⟩, view.pages, view.names⟩
  · simp only [machine, if_neg small]
    exact ⟨rfl, ⟨_, rfl, image.setLimit limit⟩, view.pages, view.names⟩

theorem dropGuard {place : Nat → Handle} {d : ImageDriver} {s : ImageCaching} {f : FlatImage} (name : String)
    (view : s.OverImage place d f) :
    Follows place d (s.step (imageHost place) (.dropGuard name))
      (f.step (.dropGuard name : Op ImageWorld ImageDriver Unit)) := by
  obtain ⟨cache, present, image⟩ := view.cached
  simp only [FlatImage.step, step, Session.dropGuard]
  cases taken : s.guards.find? name with
  | none =>
    rw [view.find?_none taken]
    exact ⟨rfl, view⟩
  | some g =>
    obtain ⟨there, _, _⟩ := view.find?_guard taken
    have live := image.guards_perm (Index.values_perm_erase taken)
    have done := (Machine.releaseGuard_guarded live.guarded).1
    rw [there]
    simp only [onCache, present]
    change Follows place d (.ofOutcome _ ((s.machine cache).releaseGuard g.gfn).1, _) _
    rw [done]
    refine ⟨rfl, ⟨_, rfl, live.releaseGuard⟩, view.pages, fun other => ?_⟩
    change ((s.guards.erase name).find? other).map _ = ((f.guards.erase name).find? other).map _
    rw [Index.find?_erase, Index.find?_erase]
    split
    · rfl
    · exact view.names other

/-- An access through a guard is one to the range of the image that the guard stands for. -/
theorem onGuard {place : Nat → Handle} {d : ImageDriver} {s : ImageCaching} {f : FlatImage} {name : String}
    {offset count : Nat}
    {work : Guard → Machine ImageWorld ImageDriver Unit ImagePage →
      Reply × Machine ImageWorld ImageDriver Unit ImagePage}
    {flat : Nat → Reply × FlatImage} (view : s.OverImage place d f)
    (same : ∀ cache g, s.cache = some cache → (s.machine cache).OverImage place d f.byte s.guards.values →
      g ∈ s.guards.values → g.size = 4096 →
      Follows place d ((work g (s.machine cache)).1, s.resume (work g (s.machine cache)).2)
        (if offset + count ≤ 4096 then flat (g.gfn.number.toNat * 4096 + offset) else (.refused .outOfBounds, f))) :
    Follows place d (s.onGuard name work) (f.onRange name offset count flat) := by
  obtain ⟨cache, present, image⟩ := view.cached
  unfold Session.onGuard FlatImage.onRange
  cases taken : s.guards.find? name with
  | none =>
    rw [view.find?_none taken]
    exact ⟨rfl, view⟩
  | some g =>
    obtain ⟨there, size, member⟩ := view.find?_guard taken
    rw [there]
    simp only [onCache, present]
    exact same cache g present image member size

/-- A read through a guard answers the bytes of the flat image at the guard's page. -/
theorem reads {place : Nat → Handle} {d : ImageDriver} {s : ImageCaching} {f : FlatImage} {name : String}
    {offset count : Nat} (view : s.OverImage place d f) (reply : List UInt8 → Reply)
    (plain : ∀ bytes, (reply bytes).anonymous = reply bytes) :
    Follows place d (s.onGuard name fun g m => (.ofExcept reply (m.readBytes (imageHost place) g offset count), m))
      (f.onRange name offset count fun start => (reply (f.read start count), f)) := by
  refine view.onGuard fun cache g present image member size => ?_
  rw [image.readBytes member size, resume_machine present]
  split
  · exact ⟨plain _, view⟩
  · exact ⟨rfl, view⟩

theorem readsAs {place : Nat → Handle} {d : ImageDriver} {s : ImageCaching} {f : FlatImage} {α : Type} {name : String}
    {offset : Nat} (view : s.OverImage place d f) (layout : Layout α) (reply : α → Reply)
    (plain : ∀ a, (reply a).anonymous = reply a) :
    Follows place d (s.onGuard name fun g m => (.ofExcept reply (m.readAs (imageHost place) layout g offset), m))
      (f.onRange name offset layout.width fun start => (reply (layout.decode (f.read start layout.width)), f)) := by
  have decoded : ∀ result : Except MapError (List UInt8), Reply.ofExcept reply (result.map layout.decode) =
      Reply.ofExcept (fun bytes => reply (layout.decode bytes)) result := by
    intro result
    cases result <;> rfl
  simp only [Machine.readAs, decoded]
  exact view.reads (fun bytes => reply (layout.decode bytes)) fun _ => plain _

/-- A write through a guard is the same write of the flat image. -/
theorem writes {place : Nat → Handle} {d : ImageDriver} {s : ImageCaching} {f : FlatImage} {name : String}
    {offset : Nat} {bytes : List UInt8} (view : s.OverImage place d f) :
    Follows place d (s.onGuard name fun g m =>
        (.ofExcept (fun _ => .nothing) (m.write (imageHost place) g offset bytes).1,
          (m.write (imageHost place) g offset bytes).2))
      (f.onRange name offset bytes.length fun start => (.nothing, f.write start bytes)) := by
  refine view.onGuard fun cache g present image member size => ?_
  by_cases fits : offset + bytes.length ≤ 4096
  · obtain ⟨done, after⟩ := image.write member size fits
    have bytes : (f.write (g.gfn.number.toNat * 4096 + offset) bytes).byte =
        ImageFile.overwrite f.byte (g.gfn.number.toNat * 4096 + offset) bytes.toArray := funext (f.write_byte _ _)
    rw [done, if_pos fits]
    refine ⟨rfl, ⟨_, rfl, ?_⟩, view.pages, view.names⟩
    rw [bytes]
    exact after
  · rw [image.write_of_gt member size fits, if_neg fits]
    exact ⟨rfl, ⟨_, rfl, image⟩, view.pages, view.names⟩

/-- Every operation of a run over one image answers as the flat image does, and leaves the session over the image. -/
theorem step {place : Nat → Handle} {d : ImageDriver} {s : ImageCaching} {f : FlatImage}
    {op : Op ImageWorld ImageDriver Unit} (view : s.OverImage place d f) (uses : s.UsesImage place op) :
    Follows place d (s.step (imageHost place) op) (f.step op) := by
  cases op with
  | acquire gfn => exact view.acquire gfn uses
  | get gfn name => exact view.get gfn name uses
  | release h => exact view.release h uses
  | setLimit limit => exact view.setLimit limit
  | dropGuard name => exact view.dropGuard name
  | read name offset count => exact view.reads .bytes fun _ => rfl
  | write name offset bytes => exact view.writes
  | readWord name offset => exact view.readsAs .word64 .word fun _ => rfl
  | writeWord name offset value => exact view.writes
  | readHeader name offset => exact view.readsAs Header.layout .header fun _ => rfl
  | writeHeader name offset value => exact view.writes
  | create | discard | bind | setKernel | setPolicy | setProbe | setCounting | setOptions | outside => cases uses.1

theorem reorder {place : Nat → Handle} {d : ImageDriver} {s : ImageCaching} {f : FlatImage}
    {cache : Cache ImageDriver Unit ImagePage} {store : Store ImagePage} (view : s.OverImage place d f)
    (present : s.cache = some cache) (same : cache.store.Reordered store) :
    OverImage place d { s with cache := some { cache with store } } f := by
  obtain ⟨cache', present', image⟩ := view.cached
  cases present.symm.trans present'
  exact ⟨⟨_, rfl, image.reorder same⟩, view.pages, view.names⟩

end OverImage

end Session

/-- A run over an image is one of the flat image, reply by reply. -/
theorem Session.Course.over_image {place : Nat → Handle} {d : ImageDriver} {first s : ImageCaching}
    {moments : List (Moment ImageWorld ImageDriver Unit ImagePage)} (opens : first.OpensImage d)
    (course : Session.Course (imageHost place) (Session.UsesImage place) first moments s) :
    s.OverImage place d ((FlatImage.ofFile first.world.file).after (moments.map (·.op))) ∧
      transcript (imageHost place) moments = (FlatImage.ofFile first.world.file).transcript (moments.map (·.op)) := by
  induction course with
  | start => exact ⟨opens.view, rfl⟩
  | reorder _ present same ih => exact ⟨ih.1.reorder present same, ih.2⟩
  | @step moments s op _ uses ih =>
    obtain ⟨view, replies⟩ := ih
    have follows := view.step uses
    refine ⟨follows.view, ?_⟩
    simp only [transcript, List.map_cons, FlatImage.transcript, Moment.reply] at replies ⊢
    rw [replies, follows.reply]

/-- Below the last whole page the file and the flat image agree byte by byte. -/
theorem Session.OverImage.file_eq {place : Nat → Handle} {d : ImageDriver} {s : ImageCaching} {f : FlatImage}
    (view : s.OverImage place d f) {i : Nat} (below : i < f.pages * 4096) : s.world.file.get i = f.byte i := by
  obtain ⟨cache, present, image⟩ := view.cached
  obtain ⟨whole, _⟩ := ImageDriver.of_ofSize image.opened
  have inside : i < s.world.file.size.toNat := by
    rw [view.pages] at below
    exact whole ▸ below
  rw [ImageFile.get, if_pos inside]
  exact image.bytes i inside

/-- What users of a cache over an image see, after moments that began with an empty cache. -/
structure Session.Transparent (place : Nat → Handle) (s first : ImageCaching)
    (moments : List (Moment ImageWorld ImageDriver Unit ImagePage)) : Prop where
  /-- Every operation got the reply that the flat image gives. -/
  replies : transcript (imageHost place) moments =
    (FlatImage.ofFile first.world.file).transcript (moments.map (·.op))
  size : s.world.file.size = first.world.file.size
  /-- The file is the flat image. -/
  file : ∀ i, i < s.world.file.size.toNat →
    s.world.file.get i = ((FlatImage.ofFile first.world.file).after (moments.map (·.op))).byte i
  /-- Another run over such an image, with other limits, addresses and releases, but the same accesses, gets
  the same replies to them, and leaves the same file behind. -/
  alike : ∀ place' d' first' moments' s', first'.OpensImage d' → first'.world.file.size = first.world.file.size →
    (∀ i, first'.world.file.get i = first.world.file.get i) →
    Course (imageHost place') (UsesImage place') first' moments' s' →
    (moments'.map (·.op)).filter Op.accesses = (moments.map (·.op)).filter Op.accesses →
    (transcript (imageHost place') moments').filter (fun entry => entry.1.accesses) =
      (transcript (imageHost place) moments).filter (fun entry => entry.1.accesses) ∧
    s'.world.file.size = s.world.file.size ∧ ∀ i, s'.world.file.get i = s.world.file.get i

theorem Session.Course.file_size {place : Nat → Handle} {d : ImageDriver} {first s : ImageCaching}
    {moments : List (Moment ImageWorld ImageDriver Unit ImagePage)} (opens : first.OpensImage d)
    (course : Session.Course (imageHost place) (Session.UsesImage place) first moments s) :
    s.world.file.size = first.world.file.size := by
  obtain ⟨cache, present, image⟩ := (course.over_image opens).1.cached
  obtain ⟨before, _⟩ := ImageDriver.of_ofSize opens.opened
  obtain ⟨now, _⟩ := ImageDriver.of_ofSize image.opened
  exact UInt64.toNat_inj.mp (now.trans before.symm)

theorem Session.Course.file_get {place : Nat → Handle} {d : ImageDriver} {first s : ImageCaching}
    {moments : List (Moment ImageWorld ImageDriver Unit ImagePage)} (opens : first.OpensImage d)
    (course : Session.Course (imageHost place) (Session.UsesImage place) first moments s) (i : Nat) :
    s.world.file.get i = if i < first.world.file.size.toNat then
      ((FlatImage.ofFile first.world.file).after ((moments.map (·.op)).filter Op.accesses)).byte i else 0 := by
  have view := (course.over_image opens).1
  obtain ⟨whole, _⟩ := ImageDriver.of_ofSize opens.opened
  rw [FlatImage.after_filter]
  split
  · next below =>
    refine view.file_eq ?_
    rw [view.pages]
    omega
  · next beyond => rw [ImageFile.get, course.file_size opens, if_neg beyond]

/-- A cache over an image that was opened for reading and writing is transparent: taking and accessing
pages through it is accessing the flat image. -/
theorem Session.Course.transparent {place : Nat → Handle} {d : ImageDriver} {first s : ImageCaching}
    {moments : List (Moment ImageWorld ImageDriver Unit ImagePage)} (opens : first.OpensImage d)
    (course : Session.Course (imageHost place) (Session.UsesImage place) first moments s) :
    s.Transparent place first moments := by
  obtain ⟨view, replies⟩ := course.over_image opens
  refine ⟨replies, course.file_size opens, fun i below => ?_, ?_⟩
  · rw [course.file_size opens] at below
    rw [course.file_get opens, if_pos below, FlatImage.after_filter]
  · intro place' d' first' moments' s' opens' size bytes course' same
    have image : FlatImage.ofFile first'.world.file = FlatImage.ofFile first.world.file := by
      simp only [FlatImage.ofFile, size, funext bytes]
    refine ⟨?_, ?_, fun i => ?_⟩
    · rw [(course'.over_image opens').2, replies, ← FlatImage.transcript_filter, ← FlatImage.transcript_filter,
        same, image]
    · rw [course'.file_size opens', course.file_size opens, size]
    · rw [course'.file_get opens', course.file_get opens, same, image, size]

/-- Pages lie one behind another, in the order in which they are mapped. -/
def placed (serial : Nat) : Handle := ⟨UInt64.ofNat (4096 * (serial + 1))⟩

/-- An image of sixty pages with a cache over it. -/
def sixtyPages : ImageCaching :=
  ((Session.start (.ofFile (.numbered 245760) (.error (.plain .notFound)))).step (imageHost placed)
    (.create (some ⟨60, true, .readWrite⟩))).2

/-- A run in which the first page is written, evicted and read again where it is mapped then. In the end a
page is asked for that the image does not have. -/
def rereadPage : List (Op ImageWorld ImageDriver Unit) :=
  [.setLimit 50, .get ⟨0⟩ "writer", .write "writer" 4000 [1, 2, 3], .writeWord "writer" 8 258, .dropGuard "writer"] ++
    (List.range 50).map (fun n => .acquire ⟨UInt64.ofNat (n + 1)⟩) ++
    [.release (placed 1), .get ⟨0⟩ "reader", .read "reader" 3999 5, .readWord "reader" 8, .acquire ⟨60⟩]

theorem transparent_rereadPage :
    (sixtyPages.run (imageHost placed) rereadPage).gfnOf? (placed 0) = none ∧
    (sixtyPages.run (imageHost placed) rereadPage).gfnOf? (placed 51) = some ⟨0⟩ ∧
    ((transcript (imageHost placed) (sixtyPages.moments (imageHost placed) rereadPage)).take 4).map Prod.snd =
      [.refused (.mapFailed ⟨60⟩ (.custom .invalidInput "page outside of the memory image")), .word 258,
        .bytes [0, 1, 2, 3, 0], .lease ⟨.null, 4096⟩] ∧
    (sixtyPages.run (imageHost placed) rereadPage).Transparent placed sixtyPages
      (sixtyPages.moments (imageHost placed) rereadPage) := by
  have opens : sixtyPages.OpensImage ⟨60, true, .readWrite⟩ :=
    ⟨rfl, fun _ => rfl, rfl, _, rfl, rfl, rfl⟩
  have checked : sixtyPages.Permits (imageHost placed) (fun s op => s.Uses op ∧
      s.Heeds (fun m gfn => m.Clear (imageHost placed) gfn ∧ m.countMapping?.isSome = true) op) rereadPage := by
    decide +kernel
  have permitted : sixtyPages.Permits (imageHost placed) (Session.UsesImage placed) rereadPage :=
    checked.imp fun s op uses => ⟨uses.1, uses.2.imp fun m gfn clear => ⟨clear.1.calm, fun _ => clear.2⟩⟩
  exact ⟨by decide +kernel, by decide +kernel, by decide +kernel, Session.Course.transparent opens permitted.course⟩

end ForeignPages
