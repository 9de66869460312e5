import ForeignPages.Image.Host
import ForeignPages.Proofs.GuardCount
import ForeignPages.Proofs.ImageRequests
import ForeignPages.Proofs.KeptOutside
import ForeignPages.Proofs.RecencySteps
import ForeignPages.Proofs.References

namespace ForeignPages

/-- A mapped page is the part of the image with its number. -/
structure ImagePage.Shows (d : ImageDriver) (gfn : Gfn) (page : ImagePage) : Prop where
  inside : gfn.number.toNat < d.pages.toNat
  offset : page.offset = gfn.number * pageBytes
  shared : page.shared = true

/-- A cache over an image with given bytes. -/
structure Machine.OverImage (place : Nat → Handle) (d : ImageDriver) (byte : Nat → UInt8)
    (m : Machine ImageWorld ImageDriver Unit ImagePage) (live : List Guard) : Prop where
  bound : m.cache.driver = some d
  opened : ImageDriver.ofSize m.world.file.size .readWrite true = .ok d
  bytes : ∀ i, i < m.world.file.size.toNat → m.world.file.byte i = byte i
  copies : ∀ serial, m.world.copies serial = none
  pages : ∀ gfn e, m.cache.store.find? gfn = some e → e.page.Shows d gfn
  guarded : m.cache.store.Guarded live
  lines : ∃ slots, m.cache.Lines (imageHost place) slots

namespace Machine

theorem mapPage_of_lt {d : ImageDriver} {size : UInt64} {gfn : Gfn} (place : Nat → Handle)
    (opened : ImageDriver.ofSize size .readWrite true = .ok d) (inside : gfn.number.toNat < d.pages.toNat)
    (m : Machine ImageWorld ImageDriver Unit ImagePage) :
    ∃ page mapped, m.mapPage (imageHost place) d gfn pageBytes.toNat = (.ok page, mapped) := by
  simp only [mapPage, callDriver, imageHost, ImageWorld.map, ImageDriver.mapping_of_lt opened inside]
  exact ⟨_, _, rfl⟩

theorem mapPage_of_le {d : ImageDriver} {size : UInt64} {gfn : Gfn} (place : Nat → Handle)
    (opened : ImageDriver.ofSize size .readWrite true = .ok d) (outside : d.pages.toNat ≤ gfn.number.toNat)
    (m : Machine ImageWorld ImageDriver Unit ImagePage) (expected : Nat) :
    ∃ mapped, m.mapPage (imageHost place) d gfn expected =
      (.error (.custom .invalidInput "page outside of the memory image"), mapped) := by
  simp only [mapPage, callDriver, imageHost, ImageWorld.map, ImageDriver.mapping_of_le opened outside]
  exact ⟨_, rfl⟩

theorem passesPolicy_image {place : Nat → Handle} (m : Machine ImageWorld ImageDriver Unit ImagePage) (gfn : Gfn)
    (page : ImagePage) (count : Nat) : ∃ probed, m.passesPolicy (imageHost place) gfn page count = (true, probed) := by
  unfold passesPolicy
  split
  · exact ⟨m, rfl⟩
  · exact ⟨_, rfl⟩

/-- Every page that is cached after an acquisition was cached before, or is the answer of the driver. -/
theorem Acquired.page_of_found {gfn : Gfn} {World Driver Probe Page : Type} {host : Host World Driver Probe Page}
    {m : Machine World Driver Probe Page} {P : Gfn → Page → Prop} {holder : Holder} {outcome : Outcome Lease}
    {cache : Cache Driver Probe Page} (acquired : m.Acquired host gfn holder outcome cache)
    (indexed : m.cache.store.Indexed) (held : ∀ other e, m.cache.store.find? other = some e → P other e.page)
    (answered : ∀ room page, m.Answers host gfn room page → P gfn page) {other : Gfn} {e : Entry Page}
    (found : cache.store.find? other = some e) : P other e.page := by
  cases before : m.cache.store.find? other with
  | some old =>
    rcases acquired.find?_of_found indexed before with ⟨gone, _⟩ | ⟨stayed, _⟩ | ⟨_, d, stayed, gains⟩
    · cases gone.symm.trans found
    · cases stayed.symm.trans found
      exact held other e before
    · cases stayed.symm.trans found
      rw [gains.page]
      exact held other old before
  | none =>
    obtain ⟨rfl, _, _, room, answers⟩ := acquired.find?_of_missing indexed before found
    exact answered room e.page answers

end Machine

/-- Nobody but a writer changes the file, and a shared page is never copied. -/
theorem imageHost_keeps (place : Nat → Handle) (file : ImageFile) :
    (imageHost place).Keeps (fun _ => True) fun w => w.file = file ∧ ∀ serial, w.copies serial = none where
  map d gfn protection w _ held := by
    have same : (w.map d gfn protection (place w.mapped)).2.file = w.file ∧
        (w.map d gfn protection (place w.mapped)).2.copies = w.copies := by
      unfold ImageWorld.map
      split <;> exact ⟨rfl, rfl⟩
    change (w.map d gfn protection (place w.mapped)).2.file = file ∧
      ∀ serial, (w.map d gfn protection (place w.mapped)).2.copies serial = none
    rw [same.1, same.2]
    exact held
  unmap page w _ held := by
    have same : (imageHost place).unmap page w = w := by simp only [imageHost, ImageWorld.unmap, held.2]
    rw [same]
    exact held
  probe _ _ _ _ held := held

namespace Machine.OverImage

theorem indexed {place : Nat → Handle} {d : ImageDriver} {byte : Nat → UInt8} {live : List Guard}
    {m : Machine ImageWorld ImageDriver Unit ImagePage} (image : m.OverImage place d byte live) :
    m.cache.store.Indexed := by
  obtain ⟨_, lines⟩ := image.lines
  exact lines.indexed

theorem guards_perm {place : Nat → Handle} {d : ImageDriver} {byte : Nat → UInt8} {live : List Guard}
    {m : Machine ImageWorld ImageDriver Unit ImagePage} {live' : List Guard} (image : m.OverImage place d byte live)
    (same : live.Perm live') :
    m.OverImage place d byte live' := { image with guarded := image.guarded.perm same }

/-- A page that the driver answers is the part of the image that was asked for. -/
theorem answers {place : Nat → Handle} {d : ImageDriver} {byte : Nat → UInt8} {live : List Guard} {gfn : Gfn}
    {m : Machine ImageWorld ImageDriver Unit ImagePage} (image : m.OverImage place d byte live)
    {room : Machine ImageWorld ImageDriver Unit ImagePage} {page : ImagePage}
    (answers : m.Answers (imageHost place) gfn room page) : page.Shows d gfn := by
  obtain ⟨driver, counted, bound, _, _, _, called⟩ := answers
  cases image.bound.symm.trans bound
  rcases Nat.lt_or_ge gfn.number.toNat d.pages.toNat with inside | outside
  · simp only [imageHost, ImageWorld.map, ImageDriver.mapping_of_lt image.opened inside] at called
    cases called
    exact ⟨inside, rfl, rfl⟩
  · simp only [imageHost, ImageWorld.map, ImageDriver.mapping_of_le image.opened outside] at called
    cases called

/-- An acquisition changes no byte of the image, and its guards show the pages that they were taken for. -/
theorem acquire {place : Nat → Handle} {d : ImageDriver} {byte : Nat → UInt8} {live : List Guard} {gfn : Gfn}
    {m : Machine ImageWorld ImageDriver Unit ImagePage} (image : m.OverImage place d byte live)
    (calm : m.Calm (imageHost place) gfn) (holder : Holder) :
    (m.acquire (imageHost place) gfn holder).2.OverImage place d byte
      ((m.acquire (imageHost place) gfn holder).1.guards gfn holder ++ live) := by
  obtain ⟨slots, lines⟩ := image.lines
  have acquired := acquire_acquired (imageHost place) image.indexed gfn holder
  have shown : m.ShownBy (imageHost place) ⟨slots, m.bare⟩ := ⟨lines, rfl⟩
  obtain ⟨file, copies⟩ := acquire_world (imageHost_keeps place m.world.file) image.indexed
    (fun _ _ _ _ _ _ _ => trivial) (fun _ _ _ => trivial) holder ⟨rfl, image.copies⟩
  obtain ⟨_, _, settings⟩ := acquired.settings image.indexed
  have guarded := acquired.guarded image.indexed image.guarded
  refine ⟨?_, ?_, ?_, copies, ?_, guarded, _, (shown.acquire calm holder).shown.lines⟩
  · rw [settings]
    exact image.bound
  · rw [file]
    exact image.opened
  · rw [file]
    exact image.bytes
  · exact fun other e found => acquired.page_of_found image.indexed image.pages (fun _ _ => image.answers) found

theorem acquire_of_found {place : Nat → Handle} {d : ImageDriver} {byte : Nat → UInt8} {live : List Guard} {gfn : Gfn}
    {m : Machine ImageWorld ImageDriver Unit ImagePage} {e : Entry ImagePage} (image : m.OverImage place d byte live)
    (calm : m.Calm (imageHost place) gfn) (found : m.cache.store.find? gfn = some e) (holder : Holder) :
    (m.acquire (imageHost place) gfn holder).1 = .done ⟨e.handle, 4096⟩ := by
  obtain ⟨slots, lines⟩ := image.lines
  have shown : m.ShownBy (imageHost place) ⟨slots, m.bare⟩ := ⟨lines, rfl⟩
  have driver : m.bare.cache.driver = some d := image.bound
  rw [← (shown.acquire calm holder).result]
  unfold Recency.acquire
  rw [driver]
  dsimp only
  rw [shown.find?_eq, found]
  rfl

/-- What becomes of a page that is not cached is up to the driver: there is room, its size is right, and it
is resident. -/
theorem acquire_of_missing {place : Nat → Handle} {d : ImageDriver} {byte : Nat → UInt8} {live : List Guard}
    {gfn : Gfn} {m : Machine ImageWorld ImageDriver Unit ImagePage} (image : m.OverImage place d byte live)
    (calm : m.Calm (imageHost place) gfn) (missing : m.cache.store.find? gfn = none)
    (counts : m.countMapping?.isSome = true) (holder : Holder) :
    ∃ rest : Machine ImageWorld ImageDriver Unit ImagePage, (m.acquire (imageHost place) gfn holder).1 =
      match (rest.mapPage (imageHost place) d gfn pageBytes.toNat).1 with
      | .error source => .refused (.mapFailed gfn source)
      | .ok page => .done ⟨page.address, 4096⟩ := by
  obtain ⟨slots, lines⟩ := image.lines
  have shown : m.ShownBy (imageHost place) ⟨slots, m.bare⟩ := ⟨lines, rfl⟩
  have driver : m.bare.cache.driver = some d := image.bound
  have roomy := makeRoom_counts (imageHost place) ⟨slots, m.bare⟩
  rw [show (⟨slots, m.bare⟩ : Recency ImageWorld ImageDriver Unit ImagePage).rest = m.bare from rfl,
    countMapping?_bare, Option.isSome_map, counts] at roomy
  obtain ⟨rest, count⟩ := Option.isSome_iff_exists.mp roomy
  refine ⟨rest, ?_⟩
  rw [← (shown.acquire calm holder).result]
  unfold Recency.acquire
  rw [driver]
  dsimp only
  rw [shown.find?_eq, missing]
  simp only [Option.map_none, Recency.acquireNew, Recency.counted?_eq, Recency.delivered_eq, Recency.confirmed_eq,
    Recency.complained_eq, count]
  rw [show (imageHost place).pageSize d rest.world = pageBytes.toNat from rfl]
  cases rest.mapPage (imageHost place) d gfn pageBytes.toNat with
  | mk answer mapped =>
    cases answer with
    | error source => rfl
    | ok page =>
      obtain ⟨probed, passed⟩ := passesPolicy_image mapped gfn page pageBytes.toNat
      dsimp only
      rw [passed]
      rfl

/-- Every page within the image is acquired. -/
theorem acquire_of_lt {place : Nat → Handle} {d : ImageDriver} {byte : Nat → UInt8} {live : List Guard} {gfn : Gfn}
    {m : Machine ImageWorld ImageDriver Unit ImagePage} (image : m.OverImage place d byte live)
    (calm : m.Calm (imageHost place) gfn) (counts : m.cache.store.find? gfn = none → m.countMapping?.isSome = true)
    (inside : gfn.number.toNat < d.pages.toNat) (holder : Holder) :
    ∃ h, (m.acquire (imageHost place) gfn holder).1 = .done ⟨h, 4096⟩ := by
  cases found : m.cache.store.find? gfn with
  | some e => exact ⟨e.handle, image.acquire_of_found calm found holder⟩
  | none =>
    obtain ⟨rest, outcome⟩ := image.acquire_of_missing calm found (counts found) holder
    obtain ⟨page, mapped, answer⟩ := mapPage_of_lt place image.opened inside rest
    rw [answer] at outcome
    exact ⟨page.address, outcome⟩

/-- No page behind the end of the image is. -/
theorem acquire_of_le {place : Nat → Handle} {d : ImageDriver} {byte : Nat → UInt8} {live : List Guard} {gfn : Gfn}
    {m : Machine ImageWorld ImageDriver Unit ImagePage} (image : m.OverImage place d byte live)
    (calm : m.Calm (imageHost place) gfn) (counts : m.cache.store.find? gfn = none → m.countMapping?.isSome = true)
    (outside : d.pages.toNat ≤ gfn.number.toNat) (holder : Holder) :
    (m.acquire (imageHost place) gfn holder).1 =
      .refused (.mapFailed gfn (.custom .invalidInput "page outside of the memory image")) := by
  cases found : m.cache.store.find? gfn with
  | some e => exact absurd (image.pages gfn e found).inside (Nat.not_lt.mpr outside)
  | none =>
    obtain ⟨rest, outcome⟩ := image.acquire_of_missing calm found (counts found) holder
    obtain ⟨mapped, answer⟩ := mapPage_of_le place image.opened outside rest pageBytes.toNat
    rw [answer] at outcome
    exact outcome

/-- References are given back without the outside, and the pages stay where they are. -/
theorem recounted {place : Nat → Handle} {d : ImageDriver} {byte : Nat → UInt8} {live : List Guard}
    {m n : Machine ImageWorld ImageDriver Unit ImagePage} {live' : List Guard} (image : m.OverImage place d byte live)
    (recounts : m.cache.Recounts n.cache) (world : n.world = m.world) (guarded : n.cache.store.Guarded live')
    (lines : ∃ slots, n.cache.Lines (imageHost place) slots) : n.OverImage place d byte live' := by
  refine ⟨recounts.driver_eq.trans image.bound, ?_, ?_, ?_, fun gfn e found => ?_, guarded, lines⟩
  · rw [world]
    exact image.opened
  · rw [world]
    exact image.bytes
  · rw [world]
    exact image.copies
  · rcases recounts.find?_eq gfn with same | ⟨old, refs, guards, before, after⟩
    · exact image.pages gfn e (same.symm.trans found)
    · cases after.symm.trans found
      exact image.pages gfn old before

theorem release {place : Nat → Handle} {d : ImageDriver} {byte : Nat → UInt8} {live : List Guard}
    {m : Machine ImageWorld ImageDriver Unit ImagePage} (image : m.OverImage place d byte live) (h : Handle) :
    (m.release h).2.OverImage place d byte live := by
  obtain ⟨slots, lines⟩ := image.lines
  have shown : m.ShownBy (imageHost place) ⟨slots, m.bare⟩ := ⟨lines, rfl⟩
  exact image.recounted (m.release_recounts h) (m.release_world h)
    (image.guarded.of_same (release_keeps_guards m h)) ⟨_, (shown.release h).shown.lines⟩

theorem releaseGuard {place : Nat → Handle} {d : ImageDriver} {byte : Nat → UInt8} {live : List Guard}
    {m : Machine ImageWorld ImageDriver Unit ImagePage} {g : Guard} (image : m.OverImage place d byte (g :: live)) :
    (m.releaseGuard g.gfn).2.OverImage place d byte live := by
  obtain ⟨slots, lines⟩ := image.lines
  have shown : m.ShownBy (imageHost place) ⟨slots, m.bare⟩ := ⟨lines, rfl⟩
  exact image.recounted (m.releaseGuard_recounts g.gfn) (m.releaseGuard_world g.gfn)
    (releaseGuard_guarded image.guarded).2 ⟨_, (shown.releaseGuard g.gfn).shown.lines⟩

theorem setLimit {place : Nat → Handle} {d : ImageDriver} {byte : Nat → UInt8} {live : List Guard}
    {m : Machine ImageWorld ImageDriver Unit ImagePage} (image : m.OverImage place d byte live) (limit : Nat) :
    OverImage place d byte { m with cache := { m.cache with limit } } live := by
  obtain ⟨slots, lines⟩ := image.lines
  exact { image with lines := ⟨slots, lines.of_same rfl rfl⟩ }

theorem reorder {place : Nat → Handle} {d : ImageDriver} {byte : Nat → UInt8} {live : List Guard}
    {m : Machine ImageWorld ImageDriver Unit ImagePage} {store : Store ImagePage}
    (image : m.OverImage place d byte live) (same : m.cache.store.Reordered store) :
    (m.withStore store).OverImage place d byte live := by
  obtain ⟨slots, lines⟩ := image.lines
  refine { image with pages := fun gfn e found => ?_, guarded := ?_, lines := ⟨slots, lines.reorder same⟩ }
  · exact image.pages gfn e ((same.find?_eq gfn).symm.trans found)
  · exact image.guarded.of_same fun gfn => congrArg _ (same.find?_eq gfn)

/-- The page behind a live guard is there, and is one page large. -/
theorem pageFor {place : Nat → Handle} {d : ImageDriver} {byte : Nat → UInt8} {live : List Guard}
    {m : Machine ImageWorld ImageDriver Unit ImagePage} {g : Guard} (image : m.OverImage place d byte live)
    (member : g ∈ live) (size : g.size = 4096) (offset count : Nat) : ∃ page : ImagePage, page.Shows d g.gfn ∧
      m.pageFor (imageHost place) g offset count =
        if offset + count ≤ 4096 then .ok page else .error .outOfBounds := by
  obtain ⟨e, found, _⟩ := image.guarded.cached g member
  refine ⟨e.page, image.pages g.gfn e found, ?_⟩
  have whole : (imageHost place).size e.page m.world = 4096 := rfl
  by_cases within : offset + count ≤ 4096
  · have word : offset + count < UInt64.size := Nat.lt_of_le_of_lt within (by decide)
    have admitted : g.admits offset count = true := by
      simp only [Guard.admits, size, word, within, decide_true, Bool.and_self]
    simp only [Machine.pageFor, admitted, found, whole, if_pos within, if_true]
  · have refused : g.admits offset count = false := by
      simp only [Guard.admits, size, within, decide_false, Bool.and_false]
    simp only [Machine.pageFor, refused, if_neg within, Bool.false_eq_true, if_false]

/-- Every page lies at its number within the file. -/
theorem within {place : Nat → Handle} {d : ImageDriver} {byte : Nat → UInt8} {live : List Guard} {gfn : Gfn}
    {m : Machine ImageWorld ImageDriver Unit ImagePage} {page : ImagePage} (image : m.OverImage place d byte live)
    (shows : page.Shows d gfn) :
    page.offset.toNat = gfn.number.toNat * 4096 ∧ gfn.number.toNat * 4096 + 4096 ≤ m.world.file.size.toNat := by
  obtain ⟨whole, _⟩ := ImageDriver.of_ofSize image.opened
  have inside := shows.inside
  rw [shows.offset, ImageDriver.offset_toNat image.opened inside]
  omega

/-- A byte of a page is that byte of the image. -/
theorem byte_eq {place : Nat → Handle} {d : ImageDriver} {byte : Nat → UInt8} {live : List Guard} {gfn : Gfn}
    {m : Machine ImageWorld ImageDriver Unit ImagePage} {page : ImagePage} {i : Nat}
    (image : m.OverImage place d byte live) (shows : page.Shows d gfn) (inside : i < 4096) :
    m.world.byte page i = byte (gfn.number.toNat * 4096 + i) := by
  obtain ⟨offset, fits⟩ := image.within shows
  have below : gfn.number.toNat * 4096 + i < m.world.file.size.toNat := by omega
  simp only [ImageWorld.byte, image.copies, offset]
  rw [ImageFile.mapped_eq_get below, ImageFile.get, if_pos below]
  exact image.bytes _ below

/-- What a guard reads is what the image holds at the place of its page. -/
theorem readBytes {place : Nat → Handle} {d : ImageDriver} {byte : Nat → UInt8} {live : List Guard}
    {m : Machine ImageWorld ImageDriver Unit ImagePage} {g : Guard} (image : m.OverImage place d byte live)
    (member : g ∈ live) (size : g.size = 4096) (offset count : Nat) : m.readBytes (imageHost place) g offset count =
      if offset + count ≤ 4096 then
        .ok ((List.range count).map fun i => byte (g.gfn.number.toNat * 4096 + offset + i))
      else .error .outOfBounds := by
  obtain ⟨page, shows, found⟩ := image.pageFor member size offset count
  rw [Machine.readBytes_eq, found]
  split
  · next fits =>
    refine congrArg Except.ok (List.map_congr_left fun i there => ?_)
    have below := List.mem_range.mp there
    rw [Nat.add_assoc]
    exact image.byte_eq shows (by omega)
  · rfl

/-- What a guard writes is put into the image at the place of its page, and shows through every guard. -/
theorem write {place : Nat → Handle} {d : ImageDriver} {byte : Nat → UInt8} {live : List Guard}
    {m : Machine ImageWorld ImageDriver Unit ImagePage} {g : Guard} (image : m.OverImage place d byte live)
    (member : g ∈ live) (size : g.size = 4096) {offset : Nat} {bytes : List UInt8}
    (fits : offset + bytes.length ≤ 4096) :
    (m.write (imageHost place) g offset bytes).1 = .ok () ∧
      (m.write (imageHost place) g offset bytes).2.OverImage place d
        (ImageFile.overwrite byte (g.gfn.number.toNat * 4096 + offset) bytes.toArray) live := by
  obtain ⟨page, shows, found⟩ := image.pageFor member size offset bytes.length
  obtain ⟨start, _⟩ := image.within shows
  have changed : (imageHost place).write page offset bytes m.world =
      { m.world with file := m.world.file.write (g.gfn.number.toNat * 4096 + offset) bytes } := by
    simp only [imageHost, ImageWorld.write, shows.shared, if_true, start]
  simp only [Machine.write, found, if_pos fits, changed]
  refine ⟨trivial, { image with bytes := fun i below => ?_ }⟩
  have same := image.bytes i below
  simp only [ImageFile.write, ImageFile.overwrite, same]

/-- A write that is too long for the page is refused as a whole. -/
theorem write_of_gt {place : Nat → Handle} {d : ImageDriver} {byte : Nat → UInt8} {live : List Guard}
    {m : Machine ImageWorld ImageDriver Unit ImagePage} {g : Guard} (image : m.OverImage place d byte live)
    (member : g ∈ live) (size : g.size = 4096) {offset : Nat} {bytes : List UInt8}
    (exceeds : ¬ offset + bytes.length ≤ 4096) :
    m.write (imageHost place) g offset bytes = (.error .outOfBounds, m) := by
  obtain ⟨page, _, found⟩ := image.pageFor member size offset bytes.length
  rw [if_neg exceeds] at found
  simp only [Machine.write, found]

end Machine.OverImage

end ForeignPages
