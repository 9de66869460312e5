import ForeignPages.Event
import ForeignPages.Image.Host
import ForeignPages.Index

namespace ForeignPages

/-- An image, the driver that was opened last, and the pages that are mapped, by name. -/
structure ImageSession where
  world : ImageWorld
  /-- Whether the file is still there under its name. -/
  present : Bool
  driver : Option ImageDriver
  pages : Index String ImagePage

/-- What can be done with an image. -/
inductive ImageOp
  /-- Opens the file for some access, and makes a driver that maps for writing or not. -/
  | load (access : Access) (writable : Bool)
  | remove
  | resize (size : UInt64)
  | fileSize
  /-- Maps a page under a name. A page that had the name before is given back. -/
  | map (gfn : Gfn) (protection : Protection) (name : String)
  | unmap (name : String)
  | read (name : String) (offset count : Nat)
  | write (name : String) (offset : Nat) (bytes : List UInt8)
  | fileContent (offset count : Nat)

inductive ImageMisuse
  | noDriver | noSuchPage | outsidePage
deriving DecidableEq

def ImageMisuse.text : ImageMisuse → String
  | noDriver => "no driver"
  | noSuchPage => "no such page"
  | outsidePage => "outside of the page"

inductive ImageReply
  | nothing
  | opened (driver : ImageDriver)
  | unopened (e : ImageError)
  | mapped (size : Nat)
  | unmapped (e : IoError)
  | number (n : Nat)
  | bytes (bytes : List UInt8)
  | misused (m : ImageMisuse)
deriving DecidableEq

namespace ImageSession

/-- A session with an image that was not opened yet. -/
def start (file : ImageFile) : ImageSession where
  world := .ofFile file (.ok [])
  present := true
  driver := none
  pages := .empty

/-- Opens the file. If that fails, there is no driver any more. -/
def load (s : ImageSession) (access : Access) (writable : Bool) :
    ImageReply × List Event × ImageSession :=
  let opened :=
    if s.present then ImageDriver.ofSize s.world.file.size access writable
    else .error (.io (.system 2))
  match opened with
  | .error e => (.unopened e, [], { s with driver := none })
  | .ok d => (.opened d, [.imageOpened d.pages.toNat writable], { s with driver := some d })

/-- Gives back the page under a name. -/
def unmap (s : ImageSession) (name : String) : ImageSession :=
  match s.pages.find? name with
  | none => s
  | some page => { s with world := s.world.unmap page, pages := s.pages.erase name }

/-- Maps a page under a name, at an address of no importance. -/
def map (s : ImageSession) (d : ImageDriver) (gfn : Gfn) (protection : Protection)
    (name : String) : ImageReply × ImageSession :=
  match s.world.map d gfn protection .null with
  | (.error e, world) => (.unmapped e.toIoError, { s with world })
  | (.ok page, world) =>
    let s := { s with world }.unmap name
    (.mapped pageBytes.toNat, { s with pages := s.pages.insert name page })

/-- Works on a range of a page. -/
def onPage (s : ImageSession) (name : String) (offset count : Nat)
    (work : ImagePage → ImageReply × ImageSession) : ImageReply × ImageSession :=
  match s.pages.find? name with
  | none => (.misused .noSuchPage, s)
  | some page =>
    if offset + count ≤ pageBytes.toNat then work page else (.misused .outsidePage, s)

/-- Performs one operation. -/
def step (s : ImageSession) : ImageOp → ImageReply × List Event × ImageSession
  | .load access writable => s.load access writable
  | .remove => (.nothing, [], { s with present := false })
  | .resize size => (.nothing, [], { s with world := s.world.resize size })
  | .fileSize => (.number s.world.file.size.toNat, [], s)
  | .map gfn protection name => match s.driver with
    | none => (.misused .noDriver, [], s)
    | some d =>
      let (reply, s) := s.map d gfn protection name
      (reply, [], s)
  | .unmap name =>
    if s.pages.contains name then (.nothing, [], s.unmap name) else (.misused .noSuchPage, [], s)
  | .read name offset count =>
    let (reply, s) := s.onPage name offset count fun page =>
      (.bytes ((List.range count).map fun i => s.world.byte page (offset + i)), s)
    (reply, [], s)
  | .write name offset bytes =>
    let (reply, s) := s.onPage name offset bytes.length fun page =>
      (.nothing, { s with world := s.world.write page offset bytes })
    (reply, [], s)
  | .fileContent offset count => (.bytes (s.world.file.read offset count), [], s)

end ImageSession

end ForeignPages
