import ForeignPages.Event
import ForeignPages.Protection

namespace ForeignPages

/-- The outside of a cache, acting on a state of its own. Nothing is assumed about how it behaves:
it may fail, map pages of any size anywhere, and change under the cache's feet. -/
structure Host (World Driver Probe Page : Type) where
  /-- The size that a driver claims for its pages. -/
  pageSize : Driver → World → Nat
  map : Driver → Gfn → Protection → World → Except IoError Page × World
  unmap : Page → World → World
  /-- Where a mapped page lies; it stays there. -/
  address : Page → Handle
  /-- How many bytes of a mapped page are accessible now. -/
  size : Page → World → Nat
  byte : Page → Nat → World → UInt8
  /-- Writes bytes to a mapped page from an offset on. -/
  write : Page → Nat → List UInt8 → World → World
  /-- Whether all memory from an address on is resident, over a number of bytes. -/
  probe : Probe → Handle → Nat → World → Except IoError Bool × World
  /-- The probe of a cache that was given none. -/
  standardProbe : Probe
  /-- The content of the file that holds the release text of the kernel. -/
  release : World → Except IoError (List UInt8)

/-- The bytes of a mapped page from an offset on. -/
def Host.read {World Driver Probe Page : Type} (host : Host World Driver Probe Page) (page : Page)
    (offset count : Nat) (world : World) : List UInt8 :=
  (List.range count).map fun i => host.byte page (offset + i) world

/-- One thing that passed between a cache and its outside. -/
inductive Act (Driver Probe Page : Type)
  /-- A driver was attached. What was mapped before belongs to earlier ones. -/
  | bound (driver : Driver)
  | mapped (driver : Driver) (gfn : Gfn) (protection : Protection) (answer : Except IoError Page)
  | unmapped (page : Page)
  | probed (probe : Probe) (address : Handle) (size : Nat) (answer : Except IoError Bool)
  | told (event : Event)

end ForeignPages
