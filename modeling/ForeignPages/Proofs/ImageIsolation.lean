import ForeignPages.Proofs.ImageDeeds
import ForeignPages.Proofs.ImageEffects
import ForeignPages.Proofs.ImageRequests

namespace ForeignPages

namespace ImageSession

/-- The sessions that can be reached without changing the size of the file, with what was done with its pages. -/
inductive Reach (file : ImageFile) : List ImageDeed → ImageSession → Prop
  | start : Reach file [] (.start file)
  | step {deeds : List ImageDeed} {s : ImageSession} (op : ImageOp) : Reach file deeds s → op.resizes = false →
      Reach file ((op.deed? (s.step op).1).toList ++ deeds) (s.step op).2.2

/-- The reply to a request for bytes of a page. -/
def reads (s : ImageSession) (name : String) (offset count : Nat) : ImageReply := (s.step (.read name offset count)).1

/-- What the pages of an image show and what its file holds, after the deeds of a run. -/
structure Isolated (file : ImageFile) (deeds : List ImageDeed) (s : ImageSession) : Prop where
  /-- The file is as it was at first, with what was written through pages that were mapped for writing. -/
  content : s.world.file.size = file.size ∧ s.world.file.get = fileAfter file deeds
  live : ∀ name, s.pages.contains name = (mappedAs? name deeds).isSome
  /-- A page of the image is mapped with any protection, if the file was opened for what the driver allows. -/
  maps : ∀ d gfn protection name, s.driver = some d → d.access.readable = true →
    (d.writable = true → d.access.writable = true) →
    ((s.step (.map gfn protection name)).1 = .mapped 4096 ↔
      gfn.start < file.size.toNat ∧ (protection.contains .w = true → d.writable = true))
  /-- Pages that were mapped for writing show the file. -/
  shared : ∀ name gfn protection offset count, mappedAs? name deeds = some (gfn, protection) →
    protection.contains .w = true → offset + count ≤ 4096 →
    s.reads name offset count = .bytes (s.world.file.read (gfn.start + offset) count)
  /-- Any other page shows what was written through it, or what it showed when that began. -/
  apart : ∀ name gfn protection offset count, mappedAs? name deeds = some (gfn, protection) →
    protection.contains .w = false → offset + count ≤ 4096 →
    s.reads name offset count = .bytes ((List.range count).map fun i => viewAfter file name gfn deeds (offset + i))
  /-- Every page can be written, whatever it was mapped for. -/
  writes : ∀ name offset bytes, (mappedAs? name deeds).isSome = true → offset + bytes.length ≤ 4096 →
    (s.step (.write name offset bytes)).1 = .nothing
  /-- What is written through a page that was not mapped for writing is read back through it, and shows nowhere else. -/
  kept : ∀ name gfn protection offset bytes, mappedAs? name deeds = some (gfn, protection) →
    protection.contains .w = false → offset + bytes.length ≤ 4096 →
    (s.step (.write name offset bytes)).2.2.reads name offset bytes.length = .bytes bytes ∧
      (s.step (.write name offset bytes)).2.2.world.file = s.world.file ∧
      ∀ other, other ≠ name → ∀ offset' count,
        (s.step (.write name offset bytes)).2.2.reads other offset' count = s.reads other offset' count
  /-- Nor does it when the page is given back. -/
  dropped : ∀ name, (s.step (.unmap name)).2.2.world.file = s.world.file ∧
    ∀ other, other ≠ name → ∀ offset count,
      (s.step (.unmap name)).2.2.reads other offset count = s.reads other offset count

end ImageSession

/-- A page of a file, as it is after some deeds. -/
structure ImagePage.Holds (file : ImageFile) (deeds : List ImageDeed) (name : String) (gfn : Gfn)
    (protection : Protection) (w : ImageWorld) (page : ImagePage) : Prop where
  offset : page.offset.toNat = gfn.start
  inside : gfn.start + 4096 ≤ file.size.toNat
  shared : page.shared = protection.contains .w
  early : page.serial < w.mapped
  copy : ∀ i < 4096, (w.copies page.serial).map (·.byte i) = (copyAfter file name deeds).map (· i)

namespace ImagePage.Holds

/-- A page is not touched by what leaves its copy as it is. -/
theorem of_same {file : ImageFile} {deeds deeds' : List ImageDeed} {name : String} {gfn : Gfn}
    {protection : Protection} {w w' : ImageWorld} {page : ImagePage}
    (holds : page.Holds file deeds name gfn protection w) (mapped : w.mapped ≤ w'.mapped)
    (copies : w'.copies page.serial = w.copies page.serial)
    (kept : copyAfter file name deeds' = copyAfter file name deeds) :
    page.Holds file deeds' name gfn protection w' where
  offset := holds.offset
  inside := holds.inside
  shared := holds.shared
  early := Nat.lt_of_lt_of_le holds.early mapped
  copy i inside := by
    rw [copies, kept]
    exact holds.copy i inside

end ImagePage.Holds

namespace ImageSession

/-- A session that is as the deeds of its run say. -/
structure Follows (file : ImageFile) (deeds : List ImageDeed) (s : ImageSession) : Prop where
  size : s.world.file.size = file.size
  content : s.world.file.get = fileAfter file deeds
  driver : ∀ d, s.driver = some d → ImageDriver.ofSize file.size d.access d.writable = .ok d
  named : ∀ name, (s.pages.find? name).isSome = (mappedAs? name deeds).isSome
  held : ∀ name gfn protection page, mappedAs? name deeds = some (gfn, protection) →
    s.pages.find? name = some page → page.Holds file deeds name gfn protection s.world
  fresh : ∀ serial, s.world.mapped ≤ serial → s.world.copies serial = none
  distinct : ∀ name other page page', s.pages.find? name = some page → s.pages.find? other = some page' →
    page.serial = page'.serial → name = other

namespace Follows

/-- Before anything was done, the session holds the file as it is. -/
theorem start (file : ImageFile) : (ImageSession.start file).Follows file [] where
  size := rfl
  content := rfl
  driver _ driven := nomatch driven
  named _ := rfl
  held _ _ _ _ mapped := nomatch mapped
  fresh _ _ := rfl
  distinct _ _ _ _ found := nomatch found

theorem mappedAs?_of_found {file : ImageFile} {deeds : List ImageDeed} {s : ImageSession} {name : String}
    {page : ImagePage} (follows : s.Follows file deeds) (found : s.pages.find? name = some page) :
    ∃ gfn protection, mappedAs? name deeds = some (gfn, protection) := by
  have there := follows.named name
  rw [found] at there
  obtain ⟨⟨gfn, protection⟩, mapped⟩ := Option.isSome_iff_exists.mp there.symm
  exact ⟨gfn, protection, mapped⟩

theorem find?_of_mappedAs? {file : ImageFile} {deeds : List ImageDeed} {s : ImageSession} {name : String} {gfn : Gfn}
    {protection : Protection} (follows : s.Follows file deeds)
    (mapped : mappedAs? name deeds = some (gfn, protection)) :
    ∃ page, s.pages.find? name = some page := by
  have there := follows.named name
  rw [mapped] at there
  exact Option.isSome_iff_exists.mp there

/-- What a page shows. -/
theorem byte {file : ImageFile} {deeds : List ImageDeed} {s : ImageSession} {name : String} {gfn : Gfn}
    {protection : Protection} {page : ImagePage} (follows : s.Follows file deeds)
    (holds : page.Holds file deeds name gfn protection s.world) {i : Nat} (inside : i < 4096) :
    s.world.byte page i = viewAfter file name gfn deeds i := by
  have same := holds.copy i inside
  unfold ImageWorld.byte viewAfter
  cases own : s.world.copies page.serial with
  | some copy =>
    rw [own] at same
    cases other : copyAfter file name deeds with
    | some byte =>
      rw [other] at same
      exact Option.some.inj same
    | none =>
      rw [other] at same
      cases same
  | none =>
    rw [own] at same
    cases other : copyAfter file name deeds with
    | some byte =>
      rw [other] at same
      cases same
    | none =>
      have fits := holds.inside
      have below : gfn.start + i < s.world.file.size.toNat := by
        rw [follows.size]
        omega
      rw [holds.offset, ImageFile.mapped_eq_get below, follows.content]
      rfl

theorem counted {file : ImageFile} {deeds : List ImageDeed} {s : ImageSession} (follows : s.Follows file deeds) :
    s.counted.Follows file deeds where
  size := follows.size
  content := follows.content
  driver := follows.driver
  named := follows.named
  held name gfn protection page mapped found :=
    (follows.held name gfn protection page mapped found).of_same (Nat.le_succ _) rfl rfl
  fresh serial later := follows.fresh serial (Nat.le_of_succ_le later)
  distinct := follows.distinct

/-- A page that is given back takes its own bytes along. -/
theorem unmap {file : ImageFile} {deeds : List ImageDeed} {s : ImageSession} (follows : s.Follows file deeds)
    (name : String) :
    (s.unmap name).Follows file (.unmapped name :: deeds) where
  size := by
    rw [unmap_file]
    exact follows.size
  content := by
    rw [unmap_file]
    exact follows.content
  driver d driven := follows.driver d (s.unmap_driver name ▸ driven)
  named other := by
    rw [unmap_find?, mappedAs?]
    split
    · rfl
    · exact follows.named other
  held other gfn protection page mapped found := by
    rw [unmap_find?] at found
    by_cases same : other = name
    · cases (if_pos same).symm.trans found
    · rw [if_neg same] at found
      rw [mappedAs?, if_neg same] at mapped
      refine (follows.held other gfn protection page mapped found).of_same (Nat.le_of_eq (s.unmap_mapped name).symm) ?_
        (if_neg same)
      exact s.unmap_copies name fun gone there numbered =>
        same (follows.distinct other name page gone found there numbered)
  fresh serial later := by
    rw [unmap_mapped] at later
    exact s.unmap_copies_eq_none name (follows.fresh serial later)
  distinct other other' page page' found found' := by
    rw [unmap_find?] at found found'
    split at found
    · cases found
    · split at found'
      · cases found'
      · exact follows.distinct other other' page page' found found'

/-- A page that is mapped under a free name, with a number of its own. -/
theorem insert {file : ImageFile} {deeds : List ImageDeed} {s : ImageSession} {name : String} {gfn : Gfn}
    {protection : Protection} {page : ImagePage} (follows : s.Follows file (.unmapped name :: deeds))
    (holds : page.Holds file (.mapped gfn protection name :: deeds) name gfn protection s.world)
    (numbered : ∀ other page', s.pages.find? other = some page' → page'.serial ≠ page.serial) :
    Follows file (.mapped gfn protection name :: deeds) { s with pages := s.pages.insert name page } where
  size := follows.size
  content := follows.content
  driver := follows.driver
  named other := by
    rw [Index.find?_insert, mappedAs?]
    by_cases same : other = name
    · rw [if_pos same, if_pos same]
      rfl
    · rw [if_neg same, if_neg same, follows.named other, mappedAs?, if_neg same]
  held other gfn' protection' page' mapped found := by
    rw [Index.find?_insert] at found
    by_cases same : other = name
    · subst same
      cases (if_pos rfl).symm.trans found
      cases (if_pos rfl).symm.trans mapped
      exact holds
    · rw [if_neg same] at found
      rw [mappedAs?, if_neg same] at mapped
      have before : mappedAs? other (.unmapped name :: deeds) = some (gfn', protection') := (if_neg same).trans mapped
      refine (follows.held other gfn' protection' page' before found).of_same (Nat.le_refl _) rfl ?_
      rw [copyAfter, copyAfter]
  fresh := follows.fresh
  distinct other other' page₁ page₂ found found' same := by
    rw [Index.find?_insert] at found found'
    split at found
    · next first =>
      split at found'
      · next second => rw [first, second]
      · cases found
        exact absurd same.symm (numbered other' page₂ found')
    · split at found'
      · cases found'
        exact absurd same (numbered other page₁ found)
      · exact follows.distinct other other' page₁ page₂ found found' same

/-- A new page follows its deed, and takes its name from another one. -/
theorem map {file : ImageFile} {deeds : List ImageDeed} {s : ImageSession} {d : ImageDriver}
    (follows : s.Follows file deeds) (driven : s.driver = some d) (gfn : Gfn) (protection : Protection)
    (name : String) :
    (s.map d gfn protection name).2.Follows file
      (((ImageOp.map gfn protection name).deed? (s.map d gfn protection name).1).toList ++ deeds) := by
  cases mapped : d.mapping gfn protection with
  | error e =>
    rw [map_of_error mapped]
    exact follows
  | ok request =>
    have opened := follows.driver d driven
    obtain ⟨whole, _⟩ := ImageDriver.of_ofSize opened
    obtain ⟨inside, _, rfl, _⟩ := (ImageDriver.mapping_eq_ok opened).mp mapped
    rw [map_of_ok mapped]
    have unused : s.world.copies s.world.mapped = none := follows.fresh _ (Nat.le_refl _)
    refine (follows.counted.unmap name).insert
      ⟨ImageDriver.offset_toNat opened inside, ?_, rfl, ?_, fun i _ => ?_⟩ fun other page' found => ?_
    · rw [Gfn.start, whole]
      omega
    · rw [unmap_mapped]
      exact Nat.lt_succ_self _
    · rw [copyAfter, if_pos rfl]
      dsimp only
      rw [s.counted.unmap_copies_eq_none name unused]
      rfl
    · rw [unmap_find?] at found
      split at found
      · cases found
      · obtain ⟨gfn', protection', known⟩ := follows.mappedAs?_of_found found
        exact Nat.ne_of_lt (follows.held other gfn' protection' page' known found).early

/-- What is written through a page that was mapped for writing goes to the file, and no copy changes. -/
theorem write_of_writes {file : ImageFile} {deeds : List ImageDeed} {s : ImageSession} {name : String} {gfn : Gfn}
    {protection : Protection} {page : ImagePage} (follows : s.Follows file deeds)
    (mapped : mappedAs? name deeds = some (gfn, protection)) (writes : protection.contains .w = true)
    (holds : page.Holds file deeds name gfn protection s.world) {offset : Nat} {bytes : List UInt8}
    (fits : offset + bytes.length ≤ 4096) :
    Follows file (.written name offset bytes :: deeds) { s with world := s.world.write page offset bytes } := by
  have kept (other : String) :
      copyAfter file other (.written name offset bytes :: deeds) = copyAfter file other deeds := by
    rw [copyAfter_written mapped, if_neg fun both => Bool.noConfusion (both.2.symm.trans writes)]
  have inside := holds.inside
  rw [s.world.write_of_shared (holds.shared.trans writes)]
  refine { follows with
    content := ?_
    held := fun other gfn' protection' page' mapped' found' =>
      (follows.held other gfn' protection' page' mapped' found').of_same (Nat.le_refl _) rfl (kept other) }
  rw [fileAfter_written mapped, if_pos writes, ImageFile.get_write, follows.content, holds.offset]
  rw [holds.offset, follows.size]
  omega

/-- What is written through any other page goes to its copy, and to no other one. -/
theorem write_of_reads {file : ImageFile} {deeds : List ImageDeed} {s : ImageSession} {name : String} {gfn : Gfn}
    {protection : Protection} {page : ImagePage} (follows : s.Follows file deeds)
    (mapped : mappedAs? name deeds = some (gfn, protection)) (reads : protection.contains .w = false)
    (found : s.pages.find? name = some page) (holds : page.Holds file deeds name gfn protection s.world)
    (offset : Nat) (bytes : List UInt8) :
    Follows file (.written name offset bytes :: deeds) { s with world := s.world.write page offset bytes } := by
  obtain ⟨sameFile, sameCount, copies⟩ := s.world.write_of_private (holds.shared.trans reads) offset bytes
  refine ⟨?_, ?_, follows.driver, follows.named, fun other gfn' protection' page' mapped' found' => ?_,
    fun serial later => ?_, follows.distinct⟩
  · rw [sameFile]
    exact follows.size
  · rw [sameFile, fileAfter_written mapped, if_neg fun writes => Bool.noConfusion (reads.symm.trans writes)]
    exact follows.content
  · have holds' := follows.held other gfn' protection' page' mapped' found'
    by_cases own : other = name ∧ bytes ≠ []
    · obtain ⟨rfl, some⟩ := own
      cases found.symm.trans found'
      cases mapped.symm.trans (show mappedAs? other deeds = _ from mapped')
      refine { holds with early := sameCount ▸ holds.early, copy := fun i inside => ?_ }
      rw [copies, if_pos ⟨rfl, some⟩, copyAfter_written mapped, if_pos ⟨⟨rfl, some⟩, reads⟩]
      exact congrArg Option.some (ImageFile.overwrite_congr (follows.byte holds inside) offset bytes.toArray)
    · refine holds'.of_same (Nat.le_of_eq sameCount.symm) ((copies _).trans (if_neg fun both => own ?_)) ?_
      · exact ⟨follows.distinct other name page' page found' found both.1, both.2⟩
      · rw [copyAfter_written mapped, if_neg fun both => own both.1]
  · rw [sameCount] at later
    have bound : serial ≠ page.serial := (Nat.ne_of_lt (Nat.lt_of_lt_of_le holds.early later)).symm
    rw [copies, if_neg fun both => bound both.1]
    exact follows.fresh serial later

/-- A write follows its deed, for a page of either kind. -/
theorem write {file : ImageFile} {deeds : List ImageDeed} {s : ImageSession} {name : String} {page : ImagePage}
    (follows : s.Follows file deeds) (found : s.pages.find? name = some page) {offset : Nat} {bytes : List UInt8}
    (fits : offset + bytes.length ≤ 4096) :
    Follows file (.written name offset bytes :: deeds) { s with world := s.world.write page offset bytes } := by
  obtain ⟨gfn, protection, mapped⟩ := follows.mappedAs?_of_found found
  have holds := follows.held name gfn protection page mapped found
  cases kind : protection.contains .w with
  | true => exact follows.write_of_writes mapped kind holds fits
  | false => exact follows.write_of_reads mapped kind found holds offset bytes

theorem load {file : ImageFile} {deeds : List ImageDeed} {s : ImageSession} (follows : s.Follows file deeds)
    (access : Access) (writable : Bool) :
    (s.load access writable).2.2.Follows file deeds := by
  rw [ImageSession.load]
  cases s.present with
  | false => exact { follows with driver := nofun }
  | true =>
    rw [if_pos rfl, follows.size]
    cases opened : ImageDriver.ofSize file.size access writable with
    | error e => exact { follows with driver := nofun }
    | ok d =>
      refine { follows with driver := fun d' driven => ?_ }
      cases driven
      obtain ⟨_, _, allows, given⟩ := ImageDriver.of_ofSize opened
      rwa [allows, given]

/-- One operation leaves the pages as its deed says. -/
theorem step {file : ImageFile} {deeds : List ImageDeed} {s : ImageSession} (follows : s.Follows file deeds)
    (op : ImageOp) (steady : op.resizes = false) :
    (s.step op).2.2.Follows file ((op.deed? (s.step op).1).toList ++ deeds) := by
  cases op with
  | load access writable => exact follows.load access writable
  | remove => exact { follows with }
  | resize size => cases steady
  | fileSize => exact follows
  | map gfn protection name =>
    cases driven : s.driver with
    | none =>
      simp only [ImageSession.step, driven]
      exact follows
    | some d =>
      simp only [ImageSession.step, driven]
      exact follows.map driven gfn protection name
  | unmap name =>
    by_cases there : s.pages.contains name = true
    · simp only [ImageSession.step, if_pos there]
      exact follows.unmap name
    · simp only [ImageSession.step, if_neg there]
      exact follows
  | read name offset count =>
    rcases s.onPage_cases name offset count fun page =>
      (.bytes ((List.range count).map fun i => s.world.byte page (offset + i)), s) with
      ⟨page, _, _, worked⟩ | ⟨m, misused⟩
    · simp only [ImageSession.step, worked]
      exact follows
    · simp only [ImageSession.step, misused]
      exact follows
  | write name offset bytes =>
    rcases s.onPage_cases name offset bytes.length fun page =>
      (.nothing, { s with world := s.world.write page offset bytes }) with ⟨page, found, fits, worked⟩ | ⟨m, misused⟩
    · simp only [ImageSession.step, worked]
      exact follows.write found fits
    · simp only [ImageSession.step, misused]
      exact follows
  | fileContent offset count => exact follows

theorem reads {file : ImageFile} {deeds : List ImageDeed} {s : ImageSession} {name : String} {gfn : Gfn}
    {protection : Protection} (follows : s.Follows file deeds)
    (mapped : mappedAs? name deeds = some (gfn, protection)) {offset count : Nat} (fits : offset + count ≤ 4096) :
    s.reads name offset count =
      .bytes ((List.range count).map fun i => viewAfter file name gfn deeds (offset + i)) := by
  obtain ⟨page, found⟩ := follows.find?_of_mappedAs? mapped
  have holds := follows.held name gfn protection page mapped found
  simp only [ImageSession.reads, ImageSession.step, onPage_of_found found fits]
  refine congrArg ImageReply.bytes (List.map_congr_left fun i there => follows.byte holds ?_)
  have below := List.mem_range.mp there
  omega

/-- A page that was mapped for writing has nothing for itself. -/
theorem reads_file {file : ImageFile} {deeds : List ImageDeed} {s : ImageSession} {name : String} {gfn : Gfn}
    {protection : Protection} (follows : s.Follows file deeds)
    (mapped : mappedAs? name deeds = some (gfn, protection)) (writes : protection.contains .w = true)
    {offset count : Nat} (fits : offset + count ≤ 4096) :
    s.reads name offset count = .bytes (s.world.file.read (gfn.start + offset) count) := by
  obtain ⟨page, found⟩ := follows.find?_of_mappedAs? mapped
  have inside := (follows.held name gfn protection page mapped found).inside
  have whole : min count (s.world.file.size.toNat - (gfn.start + offset)) = count := by
    rw [follows.size]
    omega
  rw [follows.reads mapped fits, ImageFile.read, whole, follows.content]
  refine congrArg ImageReply.bytes (List.map_congr_left fun i _ => ?_)
  rw [viewAfter, copyAfter_of_writes mapped writes, Nat.add_assoc]
  rfl

/-- A page is mapped if and only if it lies within the file and the driver may do what it is asked for. -/
theorem maps {file : ImageFile} {deeds : List ImageDeed} {s : ImageSession} {name : String} {gfn : Gfn}
    {protection : Protection} {d : ImageDriver} (follows : s.Follows file deeds) (driven : s.driver = some d)
    (readable : d.access.readable = true) (writable : d.writable = true → d.access.writable = true) :
    (s.step (.map gfn protection name)).1 = .mapped 4096 ↔
      gfn.start < file.size.toNat ∧ (protection.contains .w = true → d.writable = true) := by
  have opened := follows.driver d driven
  obtain ⟨whole, _⟩ := ImageDriver.of_ofSize opened
  have inside : gfn.number.toNat < d.pages.toNat ↔ gfn.start < file.size.toNat := by
    rw [Gfn.start, whole]
    omega
  simp only [ImageSession.step, driven]
  rw [← inside]
  cases mapped : d.mapping gfn protection with
  | error e =>
    rw [map_of_error mapped]
    refine ⟨nofun, fun allowed => ?_⟩
    have granted : MapRequest.granted ⟨gfn.number * pageBytes, protection.contains .w⟩ d.access = true := by
      unfold MapRequest.granted
      cases writes : protection.contains .w with
      | false => simp [readable]
      | true => simp [readable, writable (allowed.2 writes)]
    cases mapped.symm.trans ((ImageDriver.mapping_eq_ok opened).mpr ⟨allowed.1, allowed.2, rfl, granted⟩)
  | ok request =>
    obtain ⟨below, allowed, _⟩ := (ImageDriver.mapping_eq_ok opened).mp mapped
    rw [map_of_ok mapped]
    exact ⟨fun _ => ⟨below, allowed⟩, fun _ => rfl⟩

/-- Nothing that is done with one page shows on another, if it keeps the file as it is. -/
theorem reads_of_same {s t : ImageSession} {other : String}
    (pages : t.pages.find? other = s.pages.find? other)
    (bytes : ∀ page, s.pages.find? other = some page → t.world.byte page = s.world.byte page) (offset count : Nat) :
    t.reads other offset count = s.reads other offset count := by
  simp only [ImageSession.reads, ImageSession.step, onPage, pages]
  cases found : s.pages.find? other with
  | none => rfl
  | some page =>
    dsimp only
    rw [bytes page found]
    split <;> rfl

theorem writes {file : ImageFile} {deeds : List ImageDeed} {s : ImageSession} {name : String}
    (follows : s.Follows file deeds) (mapped : (mappedAs? name deeds).isSome = true) {offset : Nat}
    {bytes : List UInt8} (fits : offset + bytes.length ≤ 4096) : (s.step (.write name offset bytes)).1 = .nothing := by
  obtain ⟨⟨gfn, protection⟩, mapped⟩ := Option.isSome_iff_exists.mp mapped
  obtain ⟨page, found⟩ := follows.find?_of_mappedAs? mapped
  simp only [ImageSession.step, onPage_of_found found fits]

/-- What is written through a page that was not mapped for writing is read back through it alone. -/
theorem kept {file : ImageFile} {deeds : List ImageDeed} {s : ImageSession} {name : String} {gfn : Gfn}
    {protection : Protection} (follows : s.Follows file deeds)
    (mapped : mappedAs? name deeds = some (gfn, protection)) (reads : protection.contains .w = false) {offset : Nat}
    {bytes : List UInt8} (fits : offset + bytes.length ≤ 4096) :
    (s.step (.write name offset bytes)).2.2.reads name offset bytes.length = .bytes bytes ∧
      (s.step (.write name offset bytes)).2.2.world.file = s.world.file ∧
      ∀ other, other ≠ name → ∀ offset' count,
        (s.step (.write name offset bytes)).2.2.reads other offset' count = s.reads other offset' count := by
  obtain ⟨page, found⟩ := follows.find?_of_mappedAs? mapped
  have holds := follows.held name gfn protection page mapped found
  have apart : page.shared = false := holds.shared.trans reads
  have written := follows.write found fits
  simp only [ImageSession.step, onPage_of_found found fits]
  refine ⟨?_, (s.world.write_of_private apart offset bytes).1, fun other different offset' count => ?_⟩
  · rw [written.reads mapped fits]
    refine congrArg ImageReply.bytes (List.ext_getElem (by simp) fun i _ below => ?_)
    have some : bytes ≠ [] := List.ne_nil_of_length_pos (Nat.zero_lt_of_lt below)
    have own : copyAfter file name (.written name offset bytes :: deeds) =
        .some (ImageFile.overwrite (viewAfter file name gfn deeds) offset bytes.toArray) :=
      (copyAfter_written mapped name offset bytes).trans (if_pos ⟨⟨rfl, some⟩, reads⟩)
    have size : offset + i - offset < bytes.toArray.size := by
      rw [List.size_toArray]
      omega
    simp only [List.getElem_map, List.getElem_range, viewAfter, own, Option.getD_some]
    rw [ImageFile.overwrite_within (Nat.le_add_right offset i) size]
    simp
  · refine reads_of_same (s := s) (t := { s with world := s.world.write page offset bytes }) rfl
      (fun page' found' => ?_) offset' count
    refine s.world.byte_write_of_private apart (fun same => different ?_) offset bytes
    exact follows.distinct other name page' page found' found same

/-- A page that is given back changes neither the file nor what others show. -/
theorem dropped {file : ImageFile} {deeds : List ImageDeed} {s : ImageSession} (follows : s.Follows file deeds)
    (name : String) :
    (s.step (.unmap name)).2.2.world.file = s.world.file ∧ ∀ other, other ≠ name → ∀ offset count,
      (s.step (.unmap name)).2.2.reads other offset count = s.reads other offset count := by
  by_cases there : s.pages.contains name = true
  · simp only [ImageSession.step, if_pos there]
    refine ⟨s.unmap_file name, fun other different => ?_⟩
    have stays : (s.unmap name).pages.find? other = s.pages.find? other :=
      (s.unmap_find? name other).trans (if_neg different)
    refine reads_of_same stays fun page found => ?_
    have copies : (s.unmap name).world.copies page.serial = s.world.copies page.serial :=
      s.unmap_copies name fun gone before same => different (follows.distinct other name page gone found before same)
    funext i
    rw [ImageWorld.byte, ImageWorld.byte, copies, unmap_file]
  · simp only [ImageSession.step, if_neg there]
    exact ⟨trivial, fun _ _ _ _ => trivial⟩

end Follows

/-- Whatever was done to an image, in whatever order, its session holds what the deeds say. -/
theorem Reach.follows {file : ImageFile} {deeds : List ImageDeed} {s : ImageSession} (reached : Reach file deeds s) :
    s.Follows file deeds := by
  induction reached with
  | start => exact .start file
  | step op _ steady ih => exact ih.step op steady

/-- However many pages of an image are mapped, and whatever is written through them, those that were mapped for
writing are the file, and all others are on their own. -/
theorem Reach.isolated {file : ImageFile} {deeds : List ImageDeed} {s : ImageSession} (reached : Reach file deeds s) :
    s.Isolated file deeds where
  content := ⟨reached.follows.size, reached.follows.content⟩
  live := reached.follows.named
  maps _ _ _ _ driven readable writable := reached.follows.maps driven readable writable
  shared _ _ _ _ _ mapped writes fits := reached.follows.reads_file mapped writes fits
  apart _ _ _ _ _ mapped _ fits := reached.follows.reads mapped fits
  writes _ _ _ mapped fits := reached.follows.writes mapped fits
  kept _ _ _ _ _ mapped reads fits := reached.follows.kept mapped reads fits
  dropped := reached.follows.dropped

/-- Two pages of one part of the file that are mapped for writing, once with bits that have no name, beside one that is
not. The driver is replaced by one that maps nothing for writing, and a page is replaced under its name. -/
theorem isolated_threeOfOnePart : ∃ deeds s, Reach (.numbered 8192) deeds s ∧ deeds =
    [.mapped ⟨1⟩ ⟨0xfc⟩ "c", .unmapped "b", .written "c" 2 [7, 8], .written "b" 1 [6], .written "a" 0 [5],
      .mapped ⟨1⟩ .r "c", .mapped ⟨1⟩ ⟨0x82⟩ "b", .mapped ⟨1⟩ .rw "a"] ∧
    s.reads "a" 0 3 = .bytes [5, 6, 1] ∧ s.reads "c" 0 3 = .bytes [5, 6, 1] ∧ s.Isolated (.numbered 8192) deeds := by
  have fresh : Reach (.numbered 8192) [] (.start (.numbered 8192)) := .start
  have opened := fresh.step (.load .readWrite true) rfl
  have three := ((opened.step (.map ⟨1⟩ .rw "a") rfl).step (.map ⟨1⟩ ⟨0x82⟩ "b") rfl).step (.map ⟨1⟩ .r "c") rfl
  have written := ((three.step (.write "a" 0 [5]) rfl).step (.write "b" 1 [6]) rfl).step (.write "c" 2 [7, 8]) rfl
  have reopened := (written.step (.unmap "b") rfl).step (.load .readWrite false) rfl
  have replaced := (reopened.step (.map ⟨1⟩ .w "d") rfl).step (.map ⟨1⟩ ⟨0xfc⟩ "c") rfl
  exact ⟨_, _, replaced, by decide +kernel, by decide +kernel, by decide +kernel, replaced.isolated⟩

end ImageSession

end ForeignPages
