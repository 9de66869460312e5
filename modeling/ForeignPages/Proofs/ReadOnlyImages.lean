import ForeignPages.Proofs.ImageParts
import ForeignPages.Proofs.Rejections
import ForeignPages.Proofs.Transparency

namespace ForeignPages

variable {World Probe Page : Type} {host : Host World ImageDriver Probe Page}

/-- The drivers of a host are those of memory images. What becomes of their requests is up to an operating system,
which may answer as it likes. -/
def Host.MapsImages (host : Host World ImageDriver Probe Page)
    (system : ImageDriver → Gfn → World → MapRequest → Except IoError Page) : Prop :=
  ∀ d gfn protection world, (host.map d gfn protection world).1 = d.answer (system d gfn world) gfn protection

/-- What a cache is told by a driver that may not map pages for writing. -/
def ImageDriver.refusal (d : ImageDriver) (gfn : Gfn) : ImageError :=
  if d.maxGfn.number < gfn.number then .outOfBounds else .readOnly

/-- The rules by which images are opened, mapped and cached. -/
structure Session.ServesImages (host : Host World ImageDriver Probe Page)
    (system : ImageDriver → Gfn → World → MapRequest → Except IoError Page)
    (s : Session World ImageDriver Probe Page) : Prop where
  accepts : ∀ size access writable, (∃ d, ImageDriver.ofSize size access writable = .ok d) ↔ WholePages size
  rejects : ∀ size access writable, ¬ WholePages size →
    ImageDriver.ofSize size access writable = .error .invalidImage
  divides : ∀ size access writable d, ImageDriver.ofSize size access writable = .ok d →
    d.writable = writable ∧ d.Divides size
  decides : ∀ d gfn protection world, (host.map d gfn protection world).1 =
    if d.maxGfn.number < gfn.number then .error (.custom .invalidInput "page outside of the memory image")
    else if protection.contains .w = true ∧ d.writable = false then
      .error (.custom .permissionDenied "memory image is read-only")
    else system d gfn world ⟨gfn.number * pageBytes, protection.contains .w⟩
  empty : ∀ cache d, s.cache = some cache → cache.driver = some d → d.writable = false →
    cache.store.entries = [] ∧ cache.store.size? = .ok 0
  /-- Pages are asked for in vain, also if the attempt cannot be counted. -/
  refuses : ∀ (op : Op World ImageDriver Probe) gfn holder cache d, op.acquires? = some (gfn, holder) →
    s.cache = some cache → cache.driver = some d → d.writable = false → (s.step host op).1 =
      if (s.machine cache).countMapping?.isSome then .refused (.mapFailed gfn (d.refusal gfn).toIoError)
      else .broken .additionOverflow

/-- A driver that may not write refuses whatever a cache asks for. -/
theorem ImageDriver.answer_of_readOnly {d : ImageDriver} (readOnly : d.writable = false)
    (grant : MapRequest → Except IoError Page) (gfn : Gfn) :
    d.answer grant gfn .rw = .error (d.refusal gfn).toIoError := by
  have writes : Protection.rw.contains .w = true := rfl
  rw [d.answer_eq, refusal]
  split
  · rfl
  · rw [if_pos ⟨writes, readOnly⟩]
    rfl

theorem Store.entries_eq_nil {s : Store Page} (missing : ∀ gfn, s.find? gfn = none) : s.entries = [] := by
  refine List.eq_nil_iff_forall_not_mem.mpr fun e cached => ?_
  obtain ⟨gfn, found⟩ := Store.mem_entries.mp cached
  cases (missing gfn).symm.trans found

/-- A cache is without pages as long as its driver may not map them for writing. -/
def Machine.Barren (m : Machine World ImageDriver Probe Page) : Prop :=
  ∀ d, m.cache.driver = some d → d.writable = false → ∀ gfn, m.cache.store.find? gfn = none

namespace Machine.Barren

theorem recounts {m n : Machine World ImageDriver Probe Page}
    (barren : m.Barren) (recounts : m.cache.Recounts n.cache) :
    n.Barren := by
  intro d bound readOnly gfn
  have missing := barren d (recounts.driver_eq ▸ bound) readOnly gfn
  rcases recounts.find?_eq gfn with same | ⟨e, _, _, found, _⟩
  · exact same.trans missing
  · cases missing.symm.trans found

/-- No acquisition brings a page under such a driver. -/
theorem acquire {system : ImageDriver → Gfn → World → MapRequest → Except IoError Page}
    {m : Machine World ImageDriver Probe Page} (maps : host.MapsImages system) (indexed : m.cache.store.Indexed)
    (barren : m.Barren) (gfn : Gfn) (holder : Holder) : (m.acquire host gfn holder).2.Barren := by
  have acquired := Machine.acquire_acquired host indexed gfn holder
  obtain ⟨store, clock, settings⟩ := acquired.settings indexed
  intro d bound readOnly other
  have before : m.cache.driver = some d := by rwa [settings] at bound
  have missing := barren d before readOnly
  have unanswered : ∀ room page, ¬ m.Answers host gfn room page := by
    rintro room page ⟨d', counted, bound', _, _, _, called⟩
    cases before.symm.trans bound'
    rw [maps, ImageDriver.answer_of_readOnly readOnly] at called
    cases called
  generalize (m.acquire host gfn holder).2.cache = after at acquired ⊢
  generalize (m.acquire host gfn holder).1 = outcome at acquired
  cases acquired with
  | failed _ roomy => exact roomy.find?_of_missing (missing other)
  | touched found | pinned found => cases (missing gfn).symm.trans found
  | placed answers | aliased answers => exact absurd answers (unanswered _ _)

/-- No work on a cache brings pages to a driver that may not map them. -/
theorem lasting {system : ImageDriver → Gfn → World → MapRequest → Except IoError Page}
    (maps : host.MapsImages system) :
    Lasting host (fun _ _ => True) (fun m _ => m.Barren) (fun _ => True) where
  start := trivial
  unbound _ _ _ _ _ _ _ gfn := Store.find?_empty gfn
  guards barren _ := barren
  reorder barren same d bound readOnly gfn := by
    have missing := barren d bound readOnly gfn
    exact (same.find?_eq gfn).trans missing
  retune barren retuned d bound readOnly gfn := by
    rw [retuned.store]
    exact barren d (retuned.driver ▸ bound) readOnly gfn
  bind driver _ _ _ _ _ gfn := by
    rw [Machine.bind_store]
    exact Store.find?_empty gfn
  destroy _ _ := trivial
  acquire gfn holder indexed _ barren := barren.acquire maps indexed gfn holder
  release h _ barren := barren.recounts (Machine.release_recounts _ h)
  releaseGuard _ barren := barren.recounts (Machine.releaseGuard_recounts _ _)

/-- An acquisition fails when the driver is asked, unless the attempt cannot be counted. -/
theorem acquire_fst {system : ImageDriver → Gfn → World → MapRequest → Except IoError Page}
    {m : Machine World ImageDriver Probe Page} {d : ImageDriver} (maps : host.MapsImages system)
    (indexed : m.cache.store.Indexed) (barren : m.Barren) (bound : m.cache.driver = some d)
    (readOnly : d.writable = false) (gfn : Gfn) (holder : Holder) : (m.acquire host gfn holder).1 =
      if m.countMapping?.isSome then .refused (.mapFailed gfn (d.refusal gfn).toIoError)
      else .broken .additionOverflow := by
  have missing := barren d bound readOnly
  obtain ⟨room, made⟩ := Machine.makeRoom_of_small host indexed fun other e found => by
    cases (missing other).symm.trans found
  have counts := Machine.makeRoom_countMapping? indexed made
  obtain ⟨acts, dealt, _⟩ := Machine.acquire_dealt host indexed gfn holder
  obtain ⟨_, _, ⟨full, broken, _⟩ | ⟨count, tried, tries, _⟩⟩ := dealt.of_room bound (missing gfn) made
  · rw [← counts, full, broken]
    rfl
  · have refused := (maps d gfn .rw room.world).trans (ImageDriver.answer_of_readOnly readOnly _ gfn)
    rw [← counts, if_pos count]
    exact (Cache.Rejects.failed refused |>.tried tries).1

end Machine.Barren

/-- In every session over memory images, a cache under a read-only driver is empty, and stays so. -/
theorem Session.Reach.serves_images {system : ImageDriver → Gfn → World → MapRequest → Except IoError Page}
    {allowed : Session World ImageDriver Probe Page → Op World ImageDriver Probe → Prop} {world : World}
    {past : List (Op World ImageDriver Probe × Reply)} {s : Session World ImageDriver Probe Page}
    (maps : host.MapsImages system) (reach : Session.Reach host allowed world past s) :
    s.ServesImages host system := by
  have held := (Machine.Barren.lasting maps).always reach
  constructor
  case accepts =>
    refine fun size access writable => ⟨?_, ?_⟩
    · rintro ⟨d, opened⟩
      exact ImageDriver.whole_of_ofSize opened
    · rintro ⟨positive, pages, whole⟩
      exact ImageDriver.ofSize_of_whole (whole.trans (Nat.mul_comm ..)) (by omega) access writable
  case rejects => exact fun size access writable ragged => ImageDriver.ofSize_eq_error ragged access writable
  case divides =>
    intro size access writable d opened
    obtain ⟨_, _, marked, _⟩ := ImageDriver.of_ofSize opened
    exact ⟨marked, ImageDriver.divides opened⟩
  case decides => exact fun d gfn protection world => (maps d gfn protection world).trans (d.answer_eq _ gfn protection)
  case empty =>
    intro cache d present bound readOnly
    obtain ⟨indexed, barren⟩ := Session.sustains_of_cache held present
    have none : cache.store.entries = [] := Store.entries_eq_nil (barren d bound readOnly)
    refine ⟨none, ?_⟩
    rw [indexed.size?_eq, none]
    rfl
  case refuses =>
    intro op gfn holder cache d asks present bound readOnly
    obtain ⟨indexed, barren⟩ := Session.sustains_of_cache held present
    obtain ⟨_, _, _, _, reply⟩ := Session.step_acquires host present asks
    rw [reply, barren.acquire_fst maps indexed bound readOnly gfn holder]
    split
    · exact Reply.ofAcquired_of_refused ..
    · exact Reply.ofAcquired_of_broken ..

/-- The operating system maps what the file was opened for, and refuses anything else. -/
def mapsFile (place : Nat → Handle) (d : ImageDriver) (gfn : Gfn) (w : ImageWorld) (request : MapRequest) :
    Except IoError ImagePage :=
  if request.granted d.access then .ok ⟨w.mapped, gfn, request.offset, request.shared, place w.mapped⟩
  else .error (.system 13)

/-- The images of this library are an instance: the operating system grants what the file allows. -/
theorem imageHost_mapsImages (place : Nat → Handle) : (imageHost place).MapsImages (mapsFile place) := by
  intro d gfn protection w
  unfold ImageDriver.answer
  cases asked : d.request gfn protection with
  | error e =>
    have refused : d.mapping gfn protection = .error e := by
      rw [ImageDriver.mapping, asked]
      rfl
    simp only [imageHost, ImageWorld.map, refused]
    rfl
  | ok request =>
    by_cases granted : request.granted d.access = true
    · have mapped : d.mapping gfn protection = .ok request := by
        rw [ImageDriver.mapping, asked]
        exact if_pos granted
      simp only [imageHost, ImageWorld.map, mapped, mapsFile, if_pos granted]
      rfl
    · have refused : d.mapping gfn protection = .error (.io (.system 13)) := by
        rw [ImageDriver.mapping, asked]
        exact if_neg granted
      simp only [imageHost, ImageWorld.map, refused, mapsFile, if_neg granted]
      rfl

/-- A run in which pages of an image of two pages are wanted, first by a cache whose driver may not map them for
writing and then by one whose driver may. -/
def lockedImage : List (Op ImageWorld ImageDriver Unit) :=
  [.create (some ⟨2, false, .readWrite⟩), .acquire ⟨1⟩, .get ⟨2⟩ "beyond", .setCounting true, .get ⟨0⟩ "first",
    .bind ⟨2, true, .readWrite⟩, .acquire ⟨1⟩, .bind ⟨2, false, .read⟩, .acquire ⟨1⟩]

/-- Only the driver that may map pages for writing serves one. -/
theorem serves_images_lockedImage :
    ImageDriver.ofSize 8192 .readWrite false = .ok ⟨2, false, .readWrite⟩ ∧
    ((Session.start (.ofFile (.numbered 8192) (.error (.plain .notFound)))).moments (imageHost placed)
        lockedImage).map (·.reply (imageHost placed)) =
      [.refused (.mapFailed ⟨1⟩ (.custom .permissionDenied "memory image is read-only")), .nothing,
        .handle (placed 0), .nothing,
        .refused (.mapFailed ⟨0⟩ (.custom .permissionDenied "memory image is read-only")), .nothing,
        .refused (.mapFailed ⟨2⟩ (.custom .invalidInput "page outside of the memory image")),
        .refused (.mapFailed ⟨1⟩ (.custom .permissionDenied "memory image is read-only")), .nothing] ∧
    ((Session.start (.ofFile (.numbered 8192) (.error (.plain .notFound)))).run (imageHost placed)
      lockedImage).ServesImages (imageHost placed) (mapsFile placed) := by
  have permitted : (Session.start (.ofFile (.numbered 8192) (.error (.plain .notFound)))).Permits (imageHost placed)
      (fun _ _ => True) lockedImage := by decide +kernel
  obtain ⟨_, reach⟩ := Session.Reach.start.run permitted
  exact ⟨rfl, by decide +kernel, Session.Reach.serves_images (imageHost_mapsImages placed) reach⟩

end ForeignPages
