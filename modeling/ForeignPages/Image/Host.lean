import ForeignPages.Host
import ForeignPages.Image.Driver
import ForeignPages.Image.File

namespace ForeignPages

/-- A mapped page of an image. -/
structure ImagePage where
  /-- How many pages were mapped before this one. -/
  serial : Nat
  gfn : Gfn
  offset : UInt64
  shared : Bool
  address : Handle
deriving DecidableEq

/-- The bytes of a page that were written without touching the file. -/
structure PrivateCopy where
  offset : UInt64
  byte : Nat → UInt8

/-- A memory image as the outside of a cache. A page that was mapped for writing is the file itself;
any other page shows the file until it is written, and is a copy of its own from then on. -/
structure ImageWorld where
  file : ImageFile
  /-- The pages that became copies of their own, by serial. -/
  copies : Nat → Option PrivateCopy
  /-- How many pages were mapped so far. -/
  mapped : Nat
  /-- The content of the file that holds the release text of the kernel. -/
  release : Except IoError (List UInt8)

namespace ImageWorld

/-- An image of which no page was mapped yet. -/
def ofFile (file : ImageFile) (release : Except IoError (List UInt8)) : ImageWorld :=
  ⟨file, fun _ => none, 0, release⟩

/-- Maps a page at the address that the operating system chose for it. -/
def map (w : ImageWorld) (d : ImageDriver) (gfn : Gfn) (protection : Protection)
    (address : Handle) : Except ImageError ImagePage × ImageWorld :=
  match d.mapping gfn protection with
  | .error e => (.error e, w)
  | .ok request =>
    (.ok ⟨w.mapped, gfn, request.offset, request.shared, address⟩,
      { w with mapped := w.mapped + 1 })

/-- A byte of a mapped page. -/
def byte (w : ImageWorld) (page : ImagePage) (i : Nat) : UInt8 :=
  match w.copies page.serial with
  | some copy => copy.byte i
  | none => w.file.mapped (page.offset.toNat + i)

/-- Writes to a mapped page: to the file if it is shared, else to a copy. Writing nothing makes no
copy. -/
def write (w : ImageWorld) (page : ImagePage) (offset : Nat) (bytes : List UInt8) : ImageWorld :=
  if page.shared then { w with file := w.file.write (page.offset.toNat + offset) bytes }
  else if bytes.isEmpty then w
  else
    let copy := ⟨page.offset, ImageFile.overwrite (w.byte page) offset bytes.toArray⟩
    { w with copies := fun serial => if serial = page.serial then some copy else w.copies serial }

/-- A copy is lost when its page is given back. -/
def unmap (w : ImageWorld) (page : ImagePage) : ImageWorld :=
  match w.copies page.serial with
  | none => w
  | some _ =>
    { w with copies := fun serial => if serial = page.serial then none else w.copies serial }

/-- Changes the size of the file. Copies of pages that are cut off with it are lost. -/
def resize (w : ImageWorld) (size : UInt64) : ImageWorld :=
  { w with
    file := w.file.resize size
    copies := fun serial => (w.copies serial).filter (·.offset < size) }

end ImageWorld

/-- An image as the outside of a cache, in which the `n`-th mapped page lies at `place n`. The
pages of a file are resident once they are mapped. -/
def imageHost (place : Nat → Handle) : Host ImageWorld ImageDriver Unit ImagePage where
  pageSize _ _ := pageBytes.toNat
  map d gfn protection w :=
    let (answer, w) := w.map d gfn protection (place w.mapped)
    (answer.mapError ImageError.toIoError, w)
  unmap page w := w.unmap page
  address page := page.address
  size _ _ := pageBytes.toNat
  byte page i w := w.byte page i
  write page offset bytes w := w.write page offset bytes
  probe _ _ _ w := (.ok true, w)
  standardProbe := ()
  release w := w.release

end ForeignPages
