import ForeignPages.Bench.Places
import ForeignPages.Host
import ForeignPages.Image.Host
import ForeignPages.Index
import ForeignPages.LittleEndian

namespace ForeignPages

/-- A stretch of memory that a backend made. It stays where it is after its page was given back. -/
structure Area where
  /-- The number of bytes that were mapped. -/
  size : Nat
  /-- How many of them are accessible now; the others are kept. -/
  shown : Nat
  /-- The bytes up to the last one that was written; all behind them are zeros. -/
  content : Array UInt8
  /-- Whether the area starts on a page of the host. -/
  aligned : Bool

/-- Where the pages of a backend come from. -/
inductive Maker
  /-- Memory of the current page size, or of a size that was set for the page. -/
  | table
  /-- Memory within the page's own value, of a fixed size and at no particular alignment. -/
  | inline
  | image (driver : ImageDriver) (world : ImageWorld)

structure Backend where
  maker : Maker
  /-- What the backend claims for the size of its pages. -/
  pageSize : Nat
  attempts : Nat := 0
  maps : Nat := 0
  unmaps : Nat := 0
  /-- The protections that were asked for. -/
  protections : List Protection := []
  failures : Index Gfn IoError := .empty
  sizes : Index Gfn Nat := .empty
  aliases : Index Gfn Gfn := .empty
  /-- The area of the last mapping of each page, where memory can be shared. -/
  latest : Index Gfn Nat := .empty

inductive BenchMemory
  | area (number : Nat)
  | image (page : ImagePage)

/-- A page that a backend of the bench mapped. -/
structure BenchPage where
  backend : Nat
  gfn : Gfn
  memory : BenchMemory

inductive BenchProbe
  /-- Asks the operating system. -/
  | system
  /-- Looks the page that was mapped last up in a table. -/
  | table
deriving DecidableEq

/-- A bench on which caches are tried out without a hypervisor. Its backends make pages out of
tables or map them from an image, and can be told to fail, to map pages of odd sizes, to show less
of a page than was mapped, or to map two pages to one address. -/
structure BenchWorld where
  backends : Array Backend
  areas : Array Area := #[]
  /-- Where the pages of all images lie. -/
  places : Places := {}
  /-- What the table of the probe says; pages that it does not know are resident. -/
  residents : Index Gfn (Except IoError Bool) := .empty
  lastMapped : Option Gfn := none

/-- The size of the pages of memory within values, and of images. -/
def fixedPageSize : Nat := 4096

/-- The space of addresses that each area has to itself. -/
def areaStride : Nat := 0x100_0000

/-- The place of the first area. Areas lie below the pages of images, as memory that a process asks
for lies below what it maps. -/
def firstArea : Nat := 0x5600_0000_0000

def areaAddress (number : Nat) : Handle := ⟨UInt64.ofNat (firstArea + number * areaStride)⟩

def BenchPage.address (page : BenchPage) : Handle :=
  match page.memory with
  | .area number => areaAddress number
  | .image page => page.address

/-- A fresh area for a page starts with the page's number. -/
def Area.fresh (gfn : Gfn) (size : Nat) (aligned : Bool) : Area where
  size := size
  shown := size
  content := ((littleEndian 8 gfn.number.toNat).take size).toArray
  aligned := aligned

def Area.byte (a : Area) (i : Nat) : UInt8 := a.content[i]?.getD 0

def Area.write (a : Area) (offset : Nat) (bytes : List UInt8) : Area :=
  let reached := max a.content.size (offset + bytes.length)
  let block := bytes.toArray
  { a with content := Array.ofFn fun i : Fin reached => ImageFile.overwrite a.byte offset block i }

namespace Backend

/-- Counts an attempt to map a page. -/
def attempt (b : Backend) (protection : Protection) : Backend :=
  { b with
    attempts := b.attempts + 1
    protections :=
      if protection ∈ b.protections then b.protections else protection :: b.protections }

def succeed (b : Backend) : Backend := { b with maps := b.maps + 1 }

/-- The area whose memory a page shares, if it is to share one and there is one. -/
def sharedArea? (b : Backend) (gfn : Gfn) : Option Nat :=
  (b.aliases.find? gfn).bind b.latest.find?

/-- The number of bytes of a page's memory. -/
def sizeOf (b : Backend) (gfn : Gfn) : Nat :=
  match b.maker with
  | .table => (b.sizes.find? gfn).getD b.pageSize
  | _ => fixedPageSize

/-- Claims a size for pages. The driver of an image does not have it changed. -/
def claim (b : Backend) (size : Nat) : Backend :=
  match b.maker with
  | .image .. => b
  | _ => { b with pageSize := size }

def isInline (b : Backend) : Bool :=
  match b.maker with
  | .inline => true
  | _ => false

end Backend

namespace BenchWorld

def backend? (w : BenchWorld) (index : Nat) : Option Backend := w.backends[index]?

def changeBackend (w : BenchWorld) (index : Nat) (f : Backend → Backend) : BenchWorld :=
  { w with backends := w.backends.modify index f }

def changeArea (w : BenchWorld) (number : Nat) (f : Area → Area) : BenchWorld :=
  { w with areas := w.areas.modify number f }

/-- The image behind a backend. -/
def image? (w : BenchWorld) (index : Nat) : Option ImageWorld :=
  (w.backend? index).bind fun b => match b.maker with
    | .image _ world => some world
    | _ => none

/-- Changes the image behind a backend. -/
def changeImage (w : BenchWorld) (index : Nat) (f : ImageWorld → ImageWorld) : BenchWorld :=
  w.changeBackend index fun b => match b.maker with
    | .image driver image => { b with maker := .image driver (f image) }
    | _ => b

/-- Maps a page to memory of the bench. -/
def mapArea (w : BenchWorld) (index : Nat) (b : Backend) (gfn : Gfn) : BenchPage × BenchWorld :=
  let (number, w) := match b.sharedArea? gfn with
    | some number => (number, w)
    | none =>
      (w.areas.size, { w with areas := w.areas.push (.fresh gfn (b.sizeOf gfn) (!b.isInline)) })
  let b := { b.succeed with
    latest := if b.isInline then b.latest else b.latest.insert gfn number }
  (⟨index, gfn, .area number⟩, { w.changeBackend index fun _ => b with lastMapped := some gfn })

/-- A call of a backend: it is counted first, then it may be told to fail. -/
def map (w : BenchWorld) (index : Nat) (gfn : Gfn) (protection : Protection) :
    Except IoError BenchPage × BenchWorld :=
  match w.backend? index with
  | none => (.error (.plain .notFound), w)
  | some b =>
    let b := b.attempt protection
    let w := w.changeBackend index fun _ => b
    match b.failures.find? gfn, b.maker with
    | some failure, _ => (.error failure, w)
    | none, .image driver image =>
      match image.map driver gfn protection (placeAddress w.places.first) with
      | (.error e, _) => (.error e.toIoError, w)
      | (.ok page, image) =>
        let b := { b.succeed with maker := .image driver image }
        (.ok ⟨index, gfn, .image page⟩,
          { w.changeBackend index fun _ => b with
            places := w.places.take, lastMapped := some gfn })
    | none, _ =>
      let (page, w) := w.mapArea index b gfn
      (.ok page, w)

def unmap (w : BenchWorld) (page : BenchPage) : BenchWorld :=
  let w := w.changeBackend page.backend fun b => { b with unmaps := b.unmaps + 1 }
  match page.memory with
  | .area _ => w
  | .image inner =>
    { w.changeImage page.backend (·.unmap inner) with
      places := w.places.leave (placeAt inner.address) }

def size (w : BenchWorld) (page : BenchPage) : Nat :=
  match page.memory with
  | .area number => (w.areas[number]?.map (·.shown)).getD 0
  | .image _ => fixedPageSize

def byte (w : BenchWorld) (page : BenchPage) (i : Nat) : UInt8 :=
  match page.memory with
  | .area number => (w.areas[number]?.map (·.byte i)).getD 0
  | .image inner => ((w.image? page.backend).map (·.byte inner i)).getD 0

def write (w : BenchWorld) (page : BenchPage) (offset : Nat) (bytes : List UInt8) : BenchWorld :=
  match page.memory with
  | .area number => w.changeArea number (·.write offset bytes)
  | .image inner => w.changeImage page.backend (·.write inner offset bytes)

/-- The area that starts at an address. -/
def areaAt? (w : BenchWorld) (address : Handle) : Option Area :=
  w.areas[(address.address.toNat - firstArea) / areaStride]?

/-- All memory of the bench is resident, but the operating system answers only for ranges that
start on a page. -/
def probe (w : BenchWorld) (probe : BenchProbe) (address : Handle) : Except IoError Bool :=
  match probe with
  | .system =>
    if (w.areaAt? address).all (·.aligned) then .ok true else .error (.system 22)
  | .table => (w.lastMapped.bind w.residents.find?).getD (.ok true)

/-- What the backend claims for the size of its pages. -/
def pageSize (w : BenchWorld) (index : Nat) : Nat := ((w.backend? index).map (·.pageSize)).getD 0

end BenchWorld

/-- The release text of the bench's kernel, which is a trusted one. -/
def benchRelease : String := "6.8.0"

/-- The bench as the outside of a cache. A driver is the index of a backend. -/
def benchHost : Host BenchWorld Nat BenchProbe BenchPage where
  pageSize index w := w.pageSize index
  map index gfn protection w := w.map index gfn protection
  unmap page w := w.unmap page
  address page := page.address
  size page w := w.size page
  byte page i w := w.byte page i
  write page offset bytes w := w.write page offset bytes
  probe probe address _ w := (w.probe probe address, w)
  standardProbe := .system
  release _ := .ok benchRelease.toUTF8.toList

end ForeignPages
