import ForeignPages.Image.Session

namespace ForeignPages

/-- What was done with the pages of an image. -/
inductive ImageDeed
  | mapped (gfn : Gfn) (protection : Protection) (name : String)
  | unmapped (name : String)
  | written (name : String) (offset : Nat) (bytes : List UInt8)
deriving DecidableEq

namespace ImageOp

/-- What an operation has done with a page, by the reply to it. -/
def deed? : ImageOp → ImageReply → Option ImageDeed
  | .map gfn protection name, .mapped _ => some (.mapped gfn protection name)
  | .unmap name, .nothing => some (.unmapped name)
  | .write name offset bytes, .nothing => some (.written name offset bytes)
  | _, _ => none

/-- The file itself is changed in size. -/
def resizes : ImageOp → Bool
  | .resize _ => true
  | _ => false

end ImageOp

/-- The page that is mapped under a name after some deeds, of which the newest comes first. -/
def mappedAs? (name : String) : List ImageDeed → Option (Gfn × Protection)
  | [] => none
  | .mapped gfn protection other :: older => if name = other then some (gfn, protection) else mappedAs? name older
  | .unmapped other :: older => if name = other then none else mappedAs? name older
  | .written .. :: older => mappedAs? name older

/-- The number of the page under a name, if it was mapped for writing or not, as asked. -/
def heldAs? (writes : Bool) (name : String) (deeds : List ImageDeed) : Option Gfn :=
  (mappedAs? name deeds).bind fun page => if page.2.contains .w = writes then some page.1 else none

/-- Where the bytes of a page lie in the file. -/
def Gfn.start (gfn : Gfn) : Nat := gfn.number.toNat * 4096

/-- The bytes of a file after all that was written through pages which were mapped for writing. -/
def fileAfter (file : ImageFile) : List ImageDeed → Nat → UInt8
  | [] => file.get
  | .written name offset bytes :: older => match heldAs? true name older with
    | some gfn => ImageFile.overwrite (fileAfter file older) (gfn.start + offset) bytes.toArray
    | none => fileAfter file older
  | .mapped .. :: older | .unmapped _ :: older => fileAfter file older

/-- The bytes that the page under a name has for itself, once something was written through it that does not
go to the file. -/
def copyAfter (file : ImageFile) (name : String) : List ImageDeed → Option (Nat → UInt8)
  | [] => none
  | .mapped _ _ other :: older | .unmapped other :: older => if name = other then none else copyAfter file name older
  | .written other offset bytes :: older =>
    if name = other ∧ bytes ≠ [] then (heldAs? false name older).map fun gfn =>
      ImageFile.overwrite ((copyAfter file name older).getD fun i => fileAfter file older (gfn.start + i)) offset
        bytes.toArray
    else copyAfter file name older

/-- The bytes of a page that was mapped under a name: its own, or else those of the file. -/
def viewAfter (file : ImageFile) (name : String) (gfn : Gfn) (deeds : List ImageDeed) (i : Nat) : UInt8 :=
  (copyAfter file name deeds).getD (fun i => fileAfter file deeds (gfn.start + i)) i

theorem heldAs?_of_mappedAs? {name : String} {gfn : Gfn} {protection : Protection} {deeds : List ImageDeed}
    (mapped : mappedAs? name deeds = some (gfn, protection)) (writes : Bool) :
    heldAs? writes name deeds = if protection.contains .w = writes then some gfn else none := by
  rw [heldAs?, mapped]
  rfl

/-- Only a page that is there, and was not mapped for writing, has bytes for itself. -/
theorem heldAs?_of_copyAfter {file : ImageFile} {name : String} {deeds : List ImageDeed} {byte : Nat → UInt8}
    (copied : copyAfter file name deeds = some byte) :
    ∃ gfn, heldAs? false name deeds = some gfn := by
  induction deeds generalizing byte with
  | nil => cases copied
  | cons deed older ih =>
    cases deed with
    | mapped _ _ target | unmapped target =>
      by_cases same : name = target
      · cases (if_pos same).symm.trans copied
      · obtain ⟨gfn', held⟩ := ih ((if_neg same).symm.trans copied)
        refine ⟨gfn', ?_⟩
        rwa [heldAs?, mappedAs?, if_neg same]
    | written target offset bytes =>
      by_cases own : name = target ∧ bytes ≠ []
      · obtain ⟨gfn, held, _⟩ := Option.map_eq_some_iff.mp ((if_pos own).symm.trans copied)
        obtain ⟨rfl, _⟩ := own
        exact ⟨gfn, held⟩
      · exact ih ((if_neg own).symm.trans copied)

/-- A page that was mapped for writing never has bytes of its own. -/
theorem copyAfter_of_writes {file : ImageFile} {name : String} {gfn : Gfn} {protection : Protection}
    {deeds : List ImageDeed} (mapped : mappedAs? name deeds = some (gfn, protection))
    (writes : protection.contains .w = true) : copyAfter file name deeds = none := by
  cases copied : copyAfter file name deeds with
  | none => rfl
  | some byte =>
    obtain ⟨gfn, held⟩ := heldAs?_of_copyAfter copied
    rw [heldAs?_of_mappedAs? mapped, writes] at held
    cases held

/-- A write through a page changes the file if the page was mapped for writing, and at the place of that page. -/
theorem fileAfter_written {file : ImageFile} {name : String} {gfn : Gfn} {protection : Protection}
    {deeds : List ImageDeed} (mapped : mappedAs? name deeds = some (gfn, protection)) (offset : Nat)
    (bytes : List UInt8) :
    fileAfter file (.written name offset bytes :: deeds) = if protection.contains .w = true then
      ImageFile.overwrite (fileAfter file deeds) (gfn.start + offset) bytes.toArray else fileAfter file deeds := by
  rw [fileAfter, heldAs?_of_mappedAs? mapped]
  by_cases writes : protection.contains .w = true
  · rw [if_pos writes, if_pos writes]
  · rw [if_neg writes, if_neg writes]

/-- Otherwise it gives the page bytes of its own, starting from what the page showed. -/
theorem copyAfter_written {file : ImageFile} {name : String} {gfn : Gfn} {protection : Protection}
    {deeds : List ImageDeed} (mapped : mappedAs? name deeds = some (gfn, protection)) (other : String) (offset : Nat)
    (bytes : List UInt8) : copyAfter file other (.written name offset bytes :: deeds) =
      if (other = name ∧ bytes ≠ []) ∧ protection.contains .w = false then
        some (ImageFile.overwrite (viewAfter file name gfn deeds) offset bytes.toArray)
      else copyAfter file other deeds := by
  rw [copyAfter]
  by_cases own : other = name ∧ bytes ≠ []
  · obtain ⟨rfl, some⟩ := own
    rw [if_pos ⟨rfl, some⟩, heldAs?_of_mappedAs? mapped]
    by_cases kept : protection.contains .w = false
    · rw [if_pos kept, if_pos ⟨⟨rfl, some⟩, kept⟩]
      rfl
    · rw [if_neg kept, if_neg fun both => kept both.2, copyAfter_of_writes mapped (Bool.not_eq_false _ ▸ kept)]
      rfl
  · rw [if_neg own, if_neg fun both => own both.1]

end ForeignPages
