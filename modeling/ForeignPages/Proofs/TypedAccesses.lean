import ForeignPages.Proofs.GuardCount
import ForeignPages.Proofs.GuardAccesses
import ForeignPages.Proofs.ImageMemory
import ForeignPages.Proofs.Transparency

namespace ForeignPages

variable {World Driver Probe Page : Type} {host : Host World Driver Probe Page}

/-- The byte of a number at a place, of which the least significant one comes first. -/
theorem littleEndian_getElem? {width k : Nat} (n : Nat) (below : k < width) :
    (littleEndian width n)[k]? = some (UInt8.ofNat (n / 256 ^ k)) := by
  induction width generalizing n k with
  | zero => exact absurd below (Nat.not_lt_zero k)
  | succ width ih =>
    cases k with
    | zero => rw [littleEndian, List.getElem?_cons_zero, Nat.pow_zero, Nat.div_one]
    | succ k =>
      rw [littleEndian, List.getElem?_cons_succ, ih _ (Nat.lt_of_succ_lt_succ below), Nat.div_div_eq_div_mul,
        Nat.pow_succ']

namespace ImageFile

theorem overwrite_eq (byte : Nat → UInt8) (offset : Nat) (bytes : List UInt8) (i : Nat) :
    some (overwrite byte offset bytes.toArray i) =
      if offset ≤ i ∧ i < offset + bytes.length then bytes[i - offset]? else some (byte i) := by
  unfold overwrite
  by_cases lower : offset ≤ i
  · by_cases upper : i < offset + bytes.length
    · have inside : i - offset < bytes.length := by omega
      simp [lower, upper, inside]
    · have outside : bytes.length ≤ i - offset := by omega
      simp [lower, upper, outside]
  · simp [lower]

theorem map_overwrite (byte : Nat → UInt8) (offset : Nat) (bytes : List UInt8) :
    (List.range bytes.length).map (fun k => overwrite byte offset bytes.toArray (offset + k)) = bytes := by
  refine List.ext_getElem (by simp) fun k _ inside => ?_
  rw [List.getElem_map, List.getElem_range, overwrite_within (Nat.le_add_right ..) (by simpa using inside)]
  simp

/-- To write what is there already changes nothing. -/
theorem overwrite_map (byte : Nat → UInt8) (offset count : Nat) :
    overwrite byte offset ((List.range count).map fun k => byte (offset + k)).toArray = byte := by
  funext i
  refine Option.some.inj ((overwrite_eq ..).trans ?_)
  split
  · next inside =>
    rw [List.length_map, List.length_range] at inside
    have place : i - offset < count := by omega
    have back : offset + (i - offset) = i := by omega
    rw [List.getElem?_map, List.getElem?_range place, Option.map_some, back]
  · rfl

end ImageFile

/-- Sound pages store what is written to them, and stay as large as they were. -/
structure Host.Remembers (host : Host World Driver Probe Page) (extent : Page → Nat)
    (sound : Page → World → Prop) : Prop extends host.Stores extent sound where
  size_write : ∀ p offset bytes world, sound p world → offset + bytes.length ≤ host.size p world →
    host.size p (host.write p offset bytes world) = host.size p world

/-- A write through a guard: of bytes as they are, or of a value that is laid out first. -/
inductive GuardWrite : Type 1
  | bytes (g : Guard) (offset : Nat) (bytes : List UInt8)
  | value {α : Type} (layout : Layout α) (g : Guard) (offset : Nat) (v : α)

namespace GuardWrite

def guard : GuardWrite → Guard
  | bytes g .. => g
  | value _ g .. => g

def offset : GuardWrite → Nat
  | bytes _ offset _ => offset
  | value _ _ offset _ => offset

def content : GuardWrite → List UInt8
  | bytes _ _ content => content
  | value layout _ _ v => layout.encode v

def perform (host : Host World Driver Probe Page) (m : Machine World Driver Probe Page) :
    GuardWrite → Machine World Driver Probe Page
  | bytes g offset content => (m.write host g offset content).2
  | value layout g offset v => (m.writeAs host layout g offset v).2

/-- The bytes of a page of some size after a write, which does nothing if it does not fit. -/
def onto (size : Nat) (byte : Nat → UInt8) (w : GuardWrite) : Nat → UInt8 :=
  if w.guard.Covers size w.offset w.content.length then ImageFile.overwrite byte w.offset w.content.toArray else byte

theorem perform_eq (host : Host World Driver Probe Page) (m : Machine World Driver Probe Page) (w : GuardWrite) :
    w.perform host m = (m.write host w.guard w.offset w.content).2 := by
  cases w <;> rfl

end GuardWrite

namespace Machine

/-- What guards of a page see of it: the size that it has now, and its bytes. -/
structure Shows (host : Host World Driver Probe Page) (extent : Page → Nat) (sound : Page → World → Prop)
    (gfn : Gfn) (page : Page) (size : Nat) (m : Machine World Driver Probe Page) (byte : Nat → UInt8) : Prop where
  cached : ∃ e, m.cache.store.find? gfn = some e ∧ e.page = page
  isSound : sound page m.world
  size_eq : host.size page m.world = size
  byte_eq : ∀ i < extent page, host.byte page i m.world = byte i

namespace Shows

/-- A buffer is filled with the bytes of its range, or it is left alone. -/
theorem read {extent : Page → Nat} {sound : Page → World → Prop} {m : Machine World Driver Probe Page} {gfn : Gfn}
    {page : Page} {size : Nat} {byte : Nat → UInt8} {g : Guard} (remembers : host.Remembers extent sound)
    (shows' : Shows host extent sound gfn page size m byte) (same : g.gfn = gfn) (offset : Nat) (buffer : List UInt8) :
    m.read host g offset buffer =
      if g.Covers size offset buffer.length then
        (.ok (), (List.range buffer.length).map fun k => byte (offset + k))
      else (.error .outOfBounds, buffer) := by
  obtain ⟨⟨e, found, rfl⟩, sound, rfl, bytes⟩ := shows'
  have extends' := remembers.size_le e.page m.world sound
  rw [Machine.read, pageFor_of_found (same ▸ found)]
  by_cases covers : g.Covers (host.size e.page m.world) offset buffer.length
  · rw [if_pos covers, if_pos covers]
    refine congrArg (Prod.mk _) (List.map_congr_left fun k member => bytes _ ?_)
    have inside := List.mem_range.mp member
    have fits := covers.2.2
    omega
  · rw [if_neg covers, if_neg covers]

theorem readBytes {extent : Page → Nat} {sound : Page → World → Prop} {m : Machine World Driver Probe Page}
    {gfn : Gfn} {page : Page} {size : Nat} {byte : Nat → UInt8} {g : Guard} (remembers : host.Remembers extent sound)
    (shows' : Shows host extent sound gfn page size m byte) (same : g.gfn = gfn) (offset count : Nat) :
    m.readBytes host g offset count =
      if g.Covers size offset count then .ok ((List.range count).map fun k => byte (offset + k))
      else .error .outOfBounds := by
  rw [Machine.readBytes, shows'.read remembers same, List.length_replicate]
  by_cases covers : g.Covers size offset count
  · rw [if_pos covers, if_pos covers]
  · rw [if_neg covers, if_neg covers]

/-- A write changes at most the bytes of its range, and nothing of the cache. -/
theorem write {extent : Page → Nat} {sound : Page → World → Prop} {m : Machine World Driver Probe Page} {gfn : Gfn}
    {page : Page} {size : Nat} {byte : Nat → UInt8} {g : Guard} (remembers : host.Remembers extent sound)
    (shows' : Shows host extent sound gfn page size m byte) (same : g.gfn = gfn) (offset : Nat) (bytes : List UInt8) :
    (m.write host g offset bytes).1 =
        (if g.Covers size offset bytes.length then .ok () else .error .outOfBounds) ∧
      (¬ g.Covers size offset bytes.length → (m.write host g offset bytes).2 = m) ∧
      (m.write host g offset bytes).2 = { m with world := (m.write host g offset bytes).2.world } ∧
      Shows host extent sound gfn page size (m.write host g offset bytes).2
        (if g.Covers size offset bytes.length then ImageFile.overwrite byte offset bytes.toArray else byte) := by
  obtain ⟨⟨e, found, rfl⟩, sound, rfl, content⟩ := id shows'
  rw [Machine.write, pageFor_of_found (same ▸ found)]
  by_cases covers : g.Covers (host.size e.page m.world) offset bytes.length
  · simp only [if_pos covers]
    have fits := covers.2.2
    refine ⟨trivial, fun outside => absurd covers outside, trivial, ⟨e, found, rfl⟩, ?_, ?_, fun i within => ?_⟩
    · exact remembers.stays_sound e.page offset bytes m.world sound fits
    · exact remembers.size_write e.page offset bytes m.world sound fits
    · refine (remembers.byte_write e.page offset bytes m.world sound fits i within).trans ?_
      exact ImageFile.overwrite_congr (content i within) offset bytes.toArray
  · simp only [if_neg covers]
    exact ⟨trivial, fun _ => trivial, trivial, shows'⟩

theorem perform {extent : Page → Nat} {sound : Page → World → Prop} {m : Machine World Driver Probe Page} {gfn : Gfn}
    {page : Page} {size : Nat} {byte : Nat → UInt8} (remembers : host.Remembers extent sound)
    (shows' : Shows host extent sound gfn page size m byte) (w : GuardWrite) (same : w.guard.gfn = gfn) :
    Shows host extent sound gfn page size (w.perform host m) (w.onto size byte) := by
  rw [w.perform_eq host m]
  exact (shows'.write remembers same w.offset w.content).2.2.2

/-- A value that was written is the bytes of its range. -/
theorem written {extent : Page → Nat} {sound : Page → World → Prop} {m : Machine World Driver Probe Page} {gfn : Gfn}
    {page : Page} {size : Nat} {byte : Nat → UInt8} {g : Guard} {α : Type} (remembers : host.Remembers extent sound)
    (shows' : Shows host extent sound gfn page size m byte) (same : g.gfn = gfn) {layout : Layout α} {offset : Nat}
    {v : α} {after : Machine World Driver Probe Page} (done : m.writeAs host layout g offset v = (.ok (), after)) :
    g.Covers size offset layout.width ∧ after = { m with world := after.world } ∧
      Shows host extent sound gfn page size after (ImageFile.overwrite byte offset (layout.encode v).toArray) := by
  have wrote := shows'.write remembers same offset (layout.encode v)
  rw [show m.write host g offset (layout.encode v) = (.ok (), after) from done, layout.length_encode] at wrote
  obtain ⟨result, _, world, next⟩ := wrote
  by_cases covers : g.Covers size offset layout.width
  · rw [if_pos covers] at next
    exact ⟨covers, world, next⟩
  · rw [if_neg covers] at result
    cases result

/-- Writes of all kinds overlap as their bytes do. -/
theorem performAll {extent : Page → Nat} {sound : Page → World → Prop} {m : Machine World Driver Probe Page}
    {gfn : Gfn} {page : Page} {size : Nat} {byte : Nat → UInt8} (remembers : host.Remembers extent sound)
    (shows' : Shows host extent sound gfn page size m byte) (writes : List GuardWrite)
    (same : ∀ w ∈ writes, w.guard.gfn = gfn) :
    Shows host extent sound gfn page size (writes.foldl (fun m w => w.perform host m) m)
      (writes.foldl (fun byte w => w.onto size byte) byte) := by
  induction writes generalizing m byte with
  | nil => exact shows'
  | cons w rest ih =>
    have next := shows'.perform remembers w (same w List.mem_cons_self)
    exact ih next fun v later => same v (List.mem_cons_of_mem w later)

end Shows

/-- Values that are read and written through guards of a page, whatever their layout is, and the bytes that they
are. The guards may have been taken while the page had other sizes. -/
structure TypedViews (host : Host World Driver Probe Page) (extent : Page → Nat) (gfn : Gfn) (page : Page)
    (m : Machine World Driver Probe Page) : Prop where
  word : ∀ (v : UInt64) k, k < 8 → (Layout.word64.encode v)[k]? = some (UInt8.ofNat (v.toNat / 256 ^ k))
  header : ∀ h : Header, Header.layout.encode h =
    littleEndian 4 h.magic.toNat ++ littleEndian 4 h.flags.toNat ++ littleEndian 8 h.base.toNat
  /-- A value can be written where as many bytes can be. -/
  fits : ∀ {α : Type} (layout : Layout α) (g : Guard) offset (v : α) (bytes : List UInt8), g.gfn = gfn →
    bytes.length = layout.width →
    (m.writeAs host layout g offset v).1 = (m.write host g offset bytes).1 ∧
    (m.write host g offset bytes).1 =
      if g.Covers (host.size page m.world) offset layout.width then .ok () else .error .outOfBounds
  refused : ∀ {α : Type} (layout : Layout α) (g : Guard) offset (v : α), g.gfn = gfn →
    (m.writeAs host layout g offset v).1 ≠ .ok () → (m.writeAs host layout g offset v).2 = m
  /-- A write changes the bytes in its range to those of the value, and nothing else. -/
  changes : ∀ {α : Type} (layout : Layout α) (g : Guard) offset (v : α) after, g.gfn = gfn →
    m.writeAs host layout g offset v = (.ok (), after) → after = { m with world := after.world } ∧
    ∀ i < extent page, some (host.byte page i after.world) =
      if offset ≤ i ∧ i < offset + layout.width then (layout.encode v)[i - offset]?
      else some (host.byte page i m.world)
  returns : ∀ {α : Type} (layout : Layout α) (g other : Guard) offset (v : α) after, g.gfn = gfn →
    other.gfn = gfn → m.writeAs host layout g offset v = (.ok (), after) →
    after.readAs host layout other offset =
      if other.Covers (host.size page m.world) offset layout.width then .ok v else .error .outOfBounds
  /-- Ranges that overlap with a written value show their part of its bytes, whatever the buffer held before. -/
  slices : ∀ {α : Type} (layout : Layout α) (g other : Guard) offset (v : α) after start (buffer : List UInt8),
    g.gfn = gfn → other.gfn = gfn → m.writeAs host layout g offset v = (.ok (), after) →
    other.Covers (host.size page m.world) start buffer.length →
    ∃ bytes, after.read host other start buffer = (.ok (), bytes) ∧ bytes.length = buffer.length ∧
      ∀ k < buffer.length, bytes[k]? =
        if offset ≤ start + k ∧ start + k < offset + layout.width then (layout.encode v)[start + k - offset]?
        else some (host.byte page (start + k) m.world)
  restores : ∀ {α : Type} (layout : Layout α) (g other : Guard) offset (v : α), g.gfn = gfn → other.gfn = gfn →
    m.readAs host layout g offset = .ok v → other.Covers (host.size page m.world) offset layout.width →
    (m.writeAs host layout other offset v).1 = .ok () ∧
    ∀ i < extent page, host.byte page i (m.writeAs host layout other offset v).2.world = host.byte page i m.world
  /-- Whatever was written before, a value is made of the bytes that are read in its place. -/
  mixed : ∀ {α : Type} (layout : Layout α) (g : Guard) offset (writes : List GuardWrite) after, g.gfn = gfn →
    (∀ w ∈ writes, w.guard.gfn = gfn) → writes.foldl (fun m w => w.perform host m) m = after →
    after.readAs host layout g offset = (after.readBytes host g offset layout.width).map layout.decode ∧
    after.readBytes host g offset layout.width =
      if g.Covers (host.size page m.world) offset layout.width then
        .ok ((List.range layout.width).map fun k => writes.foldl
          (fun byte w => w.onto (host.size page m.world) byte) (fun i => host.byte page i m.world) (offset + k))
      else .error .outOfBounds

/-- On a sound page, values are the bytes that they are laid out as. -/
theorem typedViews_of_sound {extent : Page → Nat} {sound : Page → World → Prop} {m : Machine World Driver Probe Page}
    {gfn : Gfn} (remembers : host.Remembers extent sound) {e : Entry Page} (found : m.cache.store.find? gfn = some e)
    (isSound : sound e.page m.world) :
    m.TypedViews host extent gfn e.page := by
  have start : Shows host extent sound gfn e.page (host.size e.page m.world) m (fun i => host.byte e.page i m.world) :=
    ⟨⟨e, found, rfl⟩, isSound, rfl, fun _ _ => rfl⟩
  constructor
  case word =>
    intro v k below
    exact littleEndian_getElem? _ below
  case header =>
    intro h
    exact (List.append_assoc ..).symm
  case fits =>
    intro α layout g offset v bytes same length
    have typed := (start.write remembers same offset (layout.encode v)).1
    have plain := (start.write remembers same offset bytes).1
    rw [layout.length_encode] at typed
    rw [length] at plain
    exact ⟨typed.trans plain.symm, plain⟩
  case refused =>
    intro α layout g offset v same failed
    obtain ⟨result, idle, _⟩ := start.write remembers same offset (layout.encode v)
    exact idle fun covers => failed (result.trans (if_pos covers))
  case changes =>
    intro α layout g offset v after same done
    obtain ⟨_, world, next⟩ := start.written remembers same done
    refine ⟨world, fun i within => ?_⟩
    rw [next.byte_eq i within, ImageFile.overwrite_eq, layout.length_encode]
  case returns =>
    intro α layout g other offset v after same same' done
    obtain ⟨_, _, next⟩ := start.written remembers same done
    have back := ImageFile.map_overwrite (fun i => host.byte e.page i m.world) offset (layout.encode v)
    rw [layout.length_encode] at back
    rw [readAs, next.readBytes remembers same', back]
    split
    · exact congrArg Except.ok (layout.decode_encode v)
    · rfl
  case slices =>
    intro α layout g other offset v after start' buffer same same' done covers
    obtain ⟨_, _, next⟩ := start.written remembers same done
    refine ⟨_, (next.read remembers same' start' buffer).trans (if_pos covers), ?_, fun k below => ?_⟩
    · rw [List.length_map, List.length_range]
    · rw [List.getElem?_map, List.getElem?_range below, Option.map_some, ImageFile.overwrite_eq, layout.length_encode]
  case restores =>
    intro α layout g other offset v same same' seen covers
    have read := start.readBytes remembers same offset layout.width
    obtain ⟨result, _, _, next⟩ := start.write remembers same' offset (layout.encode v)
    rw [layout.length_encode, if_pos covers] at result next
    refine ⟨result, fun i within => (next.byte_eq i within).trans ?_⟩
    -- The value that was read is written back as the very bytes that it was made of.
    have bytes : layout.encode v = (List.range layout.width).map fun k => host.byte e.page (offset + k) m.world := by
      rw [readAs, read] at seen
      split at seen
      · cases seen
        exact layout.encode_decode _ (by rw [List.length_map, List.length_range])
      · cases seen
    rw [bytes]
    exact congrFun (ImageFile.overwrite_map (fun i => host.byte e.page i m.world) offset layout.width) i
  case mixed =>
    intro α layout g offset writes after same through run
    have next := start.performAll remembers writes through
    rw [run] at next
    exact ⟨rfl, next.readBytes remembers same offset layout.width⟩

end Machine

/-- A live guard leads to a cached page. If the page is sound, all its guards agree on the values in it. -/
theorem Session.Reach.typed_views {extent : Page → Nat} {sound : Page → World → Prop}
    {allowed : Session World Driver Probe Page → Op World Driver Probe → Prop} {world : World}
    {past : List (Op World Driver Probe × Reply)} {s : Session World Driver Probe Page} {name : String} {g : Guard}
    (remembers : host.Remembers extent sound) (reach : Session.Reach host allowed world past s)
    (taken : s.guards.find? name = some g) :
    ∃ cache e, s.cache = some cache ∧ cache.store.find? g.gfn = some e ∧
      (sound e.page s.world → (s.machine cache).TypedViews host extent g.gfn e.page) := by
  obtain ⟨e, cached, _⟩ := reach.guard_cached taken
  obtain ⟨cache, present, found⟩ := Session.cached?_eq_some.mp cached
  exact ⟨cache, e, present, found, Machine.typedViews_of_sound (m := s.machine cache) remembers found⟩

/-- The memory of an image remembers what is written to it, and its pages have one size for ever. -/
theorem imageHost_remembers (place : Nat → Handle) :
    (imageHost place).Remembers (fun _ => 4096) ImagePage.Backed where
  toStores := imageHost_stores place
  size_write _ _ _ _ _ _ := rfl

/-- A run in which a header and single bytes are written to the end of a page through two guards, and words are read
across them. Another page is written in between. -/
def mixedAccesses : List (Op ImageWorld ImageDriver Unit) :=
  [.get ⟨7⟩ "one", .get ⟨7⟩ "other", .get ⟨8⟩ "apart", .writeHeader "one" 4081 ⟨1, 2, 3⟩,
    .writeHeader "one" 4080 ⟨0x464c457f, 3, 0xfffff80000000000⟩, .writeWord "apart" 4088 5, .write "other" 4089 [9],
    .readHeader "other" 4080, .readWord "one" 4084, .read "one" 4083 4]

theorem typed_views_mixedAccesses :
    ((sixtyPages.moments (imageHost placed) mixedAccesses).take 7).map (·.reply (imageHost placed)) =
      [.bytes [0x46, 3, 0, 0], .word 0x90000000003, .header ⟨0x464c457f, 3, 0xfffff80000000900⟩, .nothing, .nothing,
        .nothing, .refused .outOfBounds] ∧
    (sixtyPages.run (imageHost placed) mixedAccesses).guards.find? "one" = some ⟨⟨7⟩, placed 0, 4096⟩ ∧
    ∃ cache e, (sixtyPages.run (imageHost placed) mixedAccesses).cache = some cache ∧
      cache.store.find? ⟨7⟩ = some e ∧
      ((sixtyPages.run (imageHost placed) mixedAccesses).machine cache).TypedViews (imageHost placed) (fun _ => 4096)
        ⟨7⟩ e.page := by
  have permitted : sixtyPages.Permits (imageHost placed) (fun _ _ => True) mixedAccesses := by decide +kernel
  have taken : (sixtyPages.run (imageHost placed) mixedAccesses).guards.find? "one" = some ⟨⟨7⟩, placed 0, 4096⟩ := by
    decide +kernel
  have backed : ∀ e ∈ (sixtyPages.run (imageHost placed) mixedAccesses).cached? ⟨7⟩,
      e.page.Backed (sixtyPages.run (imageHost placed) mixedAccesses).world := by decide +kernel
  have begun : Session.Reach (imageHost placed) (fun _ _ => True) _ _ sixtyPages := .step _ .start trivial
  obtain ⟨_, reach⟩ := begun.run permitted
  obtain ⟨cache, e, present, found, views⟩ := Session.Reach.typed_views (imageHost_remembers placed) reach taken
  refine ⟨by decide +kernel, taken, cache, e, present, found, views ?_⟩
  exact backed e (Session.cached?_eq_some.mpr ⟨cache, present, found⟩)

end ForeignPages
