import ForeignPages.Frame
import ForeignPages.IoError
import ForeignPages.Protection

namespace ForeignPages

/-- Why an image cannot be used, or a page of it not be mapped. -/
inductive ImageError
  | io (source : IoError)
  /-- The image is empty or ends within a page. -/
  | invalidImage
  | outOfBounds
  /-- A page of a read-only image was to be mapped for writing. -/
  | readOnly
deriving DecidableEq

namespace ImageError

/-- The name under which an error is reported. -/
def name : ImageError → String
  | io _ => "Io"
  | invalidImage => "InvalidImage"
  | outOfBounds => "OutOfBounds"
  | readOnly => "ReadOnly"

def text : ImageError → String
  | io source => source.text
  | invalidImage => "invalid memory image size"
  | outOfBounds => "page outside of the memory image"
  | readOnly => "memory image is read-only"

/-- The structural form. -/
def inspect : ImageError → String
  | io source => "Io(" ++ source.inspect ++ ")"
  | e => e.name

/-- The failure that a cache sees. -/
def toIoError : ImageError → IoError
  | io source => source
  | invalidImage => .custom .invalidData invalidImage.text
  | outOfBounds => .custom .invalidInput outOfBounds.text
  | readOnly => .custom .permissionDenied readOnly.text

end ImageError

/-- For what a file was opened. -/
structure Access where
  readable : Bool
  writable : Bool
deriving DecidableEq

def Access.read : Access := ⟨true, false⟩

def Access.write : Access := ⟨false, true⟩

def Access.readWrite : Access := ⟨true, true⟩

/-- The number of bytes of a page. -/
def pageBytes : UInt64 := 4096

/-- A driver for an image of so many pages. The image is a flat copy of the guest's memory, in which
each page lies at its number times the page size. -/
structure ImageDriver where
  pages : UInt64
  /-- Whether pages may be mapped for writing. -/
  writable : Bool
  access : Access
deriving DecidableEq

/-- What the operating system is asked for: one page of the file, shared with it or as a copy. -/
structure MapRequest where
  offset : UInt64
  shared : Bool
deriving DecidableEq

/-- A shared mapping needs both kinds of access to the file, because it is read and written. A
copy is written without touching the file. -/
def MapRequest.granted (request : MapRequest) (access : Access) : Bool :=
  access.readable && (!request.shared || access.writable)

namespace ImageDriver

/-- The driver for a file of some size. -/
def ofSize (size : UInt64) (access : Access) (writable : Bool) : Except ImageError ImageDriver :=
  if size = 0 ∨ size % pageBytes ≠ 0 then .error .invalidImage
  else .ok { pages := size / pageBytes, writable, access }

/-- The number of the last page. -/
def maxGfn (d : ImageDriver) : Gfn := ⟨d.pages - 1⟩

/-- What to ask the operating system for. A page outside of the image is refused first. -/
def request (d : ImageDriver) (gfn : Gfn) (protection : Protection) :
    Except ImageError MapRequest :=
  if d.maxGfn.number < gfn.number then .error .outOfBounds
  else if protection.contains .w && !d.writable then .error .readOnly
  else .ok { offset := gfn.number * pageBytes, shared := protection.contains .w }

/-- The mapping that a driver gets, if it asks for one and the operating system grants it. -/
def mapping (d : ImageDriver) (gfn : Gfn) (protection : Protection) :
    Except ImageError MapRequest := do
  let request ← d.request gfn protection
  if request.granted d.access then .ok request else .error (.io (.system 13))

end ImageDriver

end ForeignPages
