import ForeignPages.Bench.World
import ForeignPages.Session
import ForeignPages.Value

namespace ForeignPages

/-- A handle as a trial names it: the number of a page, and a distance from its address. -/
structure HandleName where
  number : Nat
  plus : UInt64 := 0

/-- Pages at equal distances, counted from one of them. -/
structure Stride where
  first : UInt64
  count : Nat
  distance : UInt64

/-- The numbers of the pages; the space of numbers is a circle. -/
def Stride.pages (s : Stride) : List Gfn :=
  (List.range s.count).map fun i => ⟨s.first + UInt64.ofNat i * s.distance⟩

/-- What a trial does. -/
inductive BenchStep
  | new (backend : Option Nat)
  | dropCache
  | bind (backend : Nat)
  | kernel (version : Option KernelVersion)
  | residency (policy : Residency)
  | probe (probe : BenchProbe)
  | metrics (counting : Bool)
  | options (value : Value)
  | setLimit (limit : Nat)
  | info
  | counters
  | acquire (gfn : Gfn)
  | status (gfn : Gfn)
  | acquireMany (pages : Stride)
  /-- Each page is released before the next one is acquired. -/
  | churn (pages : Stride)
  | release (handle : HandleName)
  /-- Releases every `stride`-th handle of a range, its ends included. -/
  | releaseMany (first last stride : Nat)
  | contains (gfn : Gfn)
  | refs (gfn : Gfn)
  | page (handle : HandleName)
  | dump
  | get (gfn : Gfn) (guard : String)
  | drop (guard : String)
  | guardInfo (guard : String)
  | read (guard : String) (offset count : Nat)
  | write (guard : String) (offset : Nat) (bytes : List UInt8)
  | readWord (guard : String) (offset : Nat)
  | writeWord (guard : String) (offset : Nat) (value : UInt64)
  | readHeader (guard : String) (offset : Nat)
  | writeHeader (guard : String) (offset : Nat) (value : Header)
  | backendInfo (backend : Nat)
  | failMaps (backend : Nat) (gfn : Gfn) (failure : Option IoError)
  | setLength (backend : Nat) (gfn : Gfn) (size : Nat)
  | setPageSize (backend size : Nat)
  | shrink (backend : Nat) (gfn : Gfn) (size : Nat)
  | alias (backend : Nat) (gfn other : Gfn)
  | fileContent (backend offset count : Nat)
  | resident (gfn : Gfn) (answer : Except IoError Bool)
  | unknown (name : String)

/-- What there is to know about a cache. -/
structure CacheInfo where
  limit : Nat
  size : Nat
  residency : Residency
  /-- The page size of the driver, if one is bound. -/
  pageSize : Option Nat

/-- What there is to know about a guard. -/
structure GuardInfo where
  gfn : Gfn
  /-- The number of its handle. -/
  number : Nat
  handle : Handle
  size : Nat
  text : String

/-- The accounts of a backend. -/
structure BackendInfo where
  attempts : Nat
  maps : Nat
  unmaps : Nat
  protections : List String

/-- What a step gives. -/
inductive BenchResult
  | nothing
  | absent
  | accepted
  | handle (number : Nat)
  | lease (number size : Nat)
  | bytes (bytes : List UInt8)
  | word (value : UInt64)
  | header (value : Header)
  | text (s : String)
  | number (n : Nat)
  | flag (b : Bool)
  | fileBytes (bytes : List UInt8)
  | cache (info : CacheInfo)
  | guard (info : GuardInfo)
  | backend (info : BackendInfo)
  | table (counters : List (String × UInt64))
  | pages (pages : List (Gfn × UInt32))
  | many (results : List BenchResult)
  | failed (handles : List (Nat × Fault))
  | refused (e : MapError)
  | broken (f : Fault)
  /-- The value of the options could not be read. -/
  | malformed
  | misused (reason : String)
deriving Inhabited

/-- What a step gives, and what could be seen of it from outside. -/
structure BenchReport where
  result : BenchResult
  /-- The number of cached pages, if there is a cache. -/
  size : Option Nat
  /-- The pages that were given back. -/
  unmapped : List Gfn
  /-- The questions to the table of the probe. -/
  probed : List (Gfn × Nat)
  events : List Event

end ForeignPages
