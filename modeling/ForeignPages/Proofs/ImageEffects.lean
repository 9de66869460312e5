import ForeignPages.Image.Session

namespace ForeignPages

namespace ImageFile

/-- A write within the file changes what the file holds there. -/
theorem get_write {f : ImageFile} {offset : Nat} {bytes : List UInt8} (fits : offset + bytes.length ≤ f.size.toNat) :
    (f.write offset bytes).get = overwrite f.get offset bytes.toArray := by
  funext i
  by_cases below : i < f.size.toNat
  · rw [get, if_pos (show i < (f.write offset bytes).size.toNat from below)]
    refine overwrite_congr ?_ offset bytes.toArray
    rw [get, if_pos below]
  · have outside : offset + bytes.toArray.size ≤ i := by
      rw [List.size_toArray]
      omega
    rw [get, if_neg (show ¬ i < (f.write offset bytes).size.toNat from below), overwrite_outside (.inr outside), get,
      if_neg below]

end ImageFile

namespace ImageWorld

theorem unmap_file (w : ImageWorld) (page : ImagePage) : (w.unmap page).file = w.file := by
  unfold unmap
  split <;> rfl

theorem unmap_mapped (w : ImageWorld) (page : ImagePage) : (w.unmap page).mapped = w.mapped := by
  unfold unmap
  split <;> rfl

/-- With a page its own bytes go, and those of no other page. -/
theorem unmap_copies (w : ImageWorld) (page : ImagePage) (serial : Nat) :
    (w.unmap page).copies serial = if serial = page.serial then none else w.copies serial := by
  unfold unmap
  split
  · next absent =>
    split
    · next same => rw [same, absent]
    · rfl
  · rfl

theorem write_of_shared (w : ImageWorld) {page : ImagePage} (shared : page.shared = true) (offset : Nat)
    (bytes : List UInt8) :
    w.write page offset bytes = { w with file := w.file.write (page.offset.toNat + offset) bytes } := by
  rw [write, if_pos shared]

/-- A page that is not shared never writes to the file. -/
theorem write_of_private (w : ImageWorld) {page : ImagePage} (kept : page.shared = false) (offset : Nat)
    (bytes : List UInt8) :
    (w.write page offset bytes).file = w.file ∧ (w.write page offset bytes).mapped = w.mapped ∧
      ∀ serial, (w.write page offset bytes).copies serial = if serial = page.serial ∧ bytes ≠ [] then
        some ⟨page.offset, ImageFile.overwrite (w.byte page) offset bytes.toArray⟩ else w.copies serial := by
  have apart : ¬ page.shared = true := by simp [kept]
  rw [write, if_neg apart]
  cases bytes with
  | nil => simp
  | cons => simp

/-- A write through a page that is not shared shows in no page but that one. -/
theorem byte_write_of_private (w : ImageWorld) {page other : ImagePage} (kept : page.shared = false)
    (different : other.serial ≠ page.serial) (offset : Nat) (bytes : List UInt8) :
    (w.write page offset bytes).byte other = w.byte other := by
  obtain ⟨file, _, copies⟩ := w.write_of_private kept offset bytes
  funext i
  rw [byte, byte, copies, if_neg fun own => different own.1, file]

end ImageWorld

namespace ImageSession

theorem unmap_driver (s : ImageSession) (name : String) : (s.unmap name).driver = s.driver := by
  unfold unmap
  split <;> rfl

theorem unmap_file (s : ImageSession) (name : String) : (s.unmap name).world.file = s.world.file := by
  unfold unmap
  split
  · rfl
  · exact s.world.unmap_file _

theorem unmap_mapped (s : ImageSession) (name : String) : (s.unmap name).world.mapped = s.world.mapped := by
  unfold unmap
  split
  · rfl
  · exact s.world.unmap_mapped _

/-- No other page loses its name. -/
theorem unmap_find? (s : ImageSession) (name : String) (other : String) :
    (s.unmap name).pages.find? other = if other = name then none else s.pages.find? other := by
  unfold unmap
  split
  · next missing =>
    split
    · next same => rw [same, missing]
    · rfl
  · exact s.pages.find?_erase name other

theorem unmap_copies (s : ImageSession) (name : String) {serial : Nat}
    (different : ∀ page, s.pages.find? name = some page → serial ≠ page.serial) :
    (s.unmap name).world.copies serial = s.world.copies serial := by
  unfold unmap
  split
  · rfl
  · next page found => exact (s.world.unmap_copies page serial).trans (if_neg (different page found))

theorem unmap_copies_eq_none (s : ImageSession) (name : String) {serial : Nat} (none : s.world.copies serial = none) :
    (s.unmap name).world.copies serial = .none := by
  unfold unmap
  split
  · exact none
  · next page _ =>
    refine (s.world.unmap_copies page serial).trans ?_
    rw [none, ite_self]

theorem map_of_error {s : ImageSession} {d : ImageDriver} {gfn : Gfn} {protection : Protection} {name : String}
    {e : ImageError} (refused : d.mapping gfn protection = .error e) :
    s.map d gfn protection name = (.unmapped e.toIoError, s) := by
  simp only [map, ImageWorld.map, refused]

/-- The session in which one more page is counted. -/
def counted (s : ImageSession) : ImageSession := { s with world := { s.world with mapped := s.world.mapped + 1 } }

/-- A page that is mapped takes the name, and the page that had it before is given back. -/
theorem map_of_ok {s : ImageSession} {d : ImageDriver} {gfn : Gfn} {protection : Protection} {name : String}
    {request : MapRequest} (mapped : d.mapping gfn protection = .ok request) :
    s.map d gfn protection name = (.mapped 4096, { s.counted.unmap name with
      pages := (s.counted.unmap name).pages.insert name
        ⟨s.world.mapped, gfn, request.offset, request.shared, .null⟩ }) := by
  simp only [map, ImageWorld.map, mapped]
  rfl

theorem onPage_of_found {s : ImageSession} {name : String} {page : ImagePage} {offset count : Nat}
    (found : s.pages.find? name = some page) (fits : offset + count ≤ 4096)
    (work : ImagePage → ImageReply × ImageSession) : s.onPage name offset count work = work page := by
  have within : offset + count ≤ pageBytes.toNat := fits
  simp only [onPage, found, if_pos within]

/-- Otherwise nothing is done. -/
theorem onPage_cases (s : ImageSession) (name : String) (offset count : Nat)
    (work : ImagePage → ImageReply × ImageSession) :
    (∃ page, s.pages.find? name = some page ∧ offset + count ≤ 4096 ∧ s.onPage name offset count work = work page) ∨
      ∃ m, s.onPage name offset count work = (.misused m, s) := by
  cases found : s.pages.find? name with
  | none =>
    refine .inr ⟨.noSuchPage, ?_⟩
    simp only [onPage, found]
  | some page =>
    by_cases fits : offset + count ≤ 4096
    · exact .inl ⟨page, rfl, fits, onPage_of_found found fits work⟩
    · have outside : ¬ offset + count ≤ pageBytes.toNat := fits
      refine .inr ⟨.outsidePage, ?_⟩
      simp only [onPage, found, if_neg outside]

end ImageSession

end ForeignPages
