import ForeignPages.Counters
import ForeignPages.Host
import ForeignPages.Options
import ForeignPages.Store

namespace ForeignPages

/-- A cache. Its pages are bounded by a soft limit, and held pages may exceed it. -/
structure Cache (Driver Probe Page : Type) where
  store : Store Page
  driver : Option Driver
  limit : Nat
  /-- The next recency token. -/
  clock : UInt64
  /-- The residency policy, once one was chosen. -/
  policy : Option Residency
  probe : Probe
  /-- Whether mappings are counted. -/
  counting : Bool
  logMapFailures : Bool

namespace Cache

variable {World Driver Probe Page : Type}

/-- A new cache without a driver. -/
def unbound (host : Host World Driver Probe Page) : Cache Driver Probe Page where
  store := .empty
  driver := none
  limit := defaultLimit
  clock := 0
  policy := none
  probe := host.standardProbe
  counting := false
  logMapFailures := false

/-- The policy in effect. -/
def residency (c : Cache Driver Probe Page) : Residency := c.policy.getD .trust

def contains (c : Cache Driver Probe Page) (gfn : Gfn) : Bool := (c.store.find? gfn).isSome

/-- The number of references to a cached page, of both kinds. -/
def references? (c : Cache Driver Probe Page) (gfn : Gfn) : Except Fault (Option UInt32) :=
  match c.store.find? gfn with
  | none => .ok none
  | some e => match e.references? with
    | some n => .ok (some n)
    | none => .error .additionOverflow

/-- The next recency token, and the cache that has given it out. -/
def tick? (c : Cache Driver Probe Page) : Option (UInt64 × Cache Driver Probe Page) :=
  (add64? c.clock 1).map fun next => (c.clock, { c with clock := next })

/-- Limits below the minimum are refused and change nothing. A lower limit evicts no page before
the next one is mapped. -/
def setLimit (c : Cache Driver Probe Page) (limit : Nat) : Except MapError (Cache Driver Probe Page) :=
  if limit < minLimit then .error (.limitTooSmall limit minLimit) else .ok { c with limit }

end Cache

/-- How an operation ends. -/
inductive Outcome (α : Type)
  | done (a : α)
  | refused (e : MapError)
  | broken (f : Fault)

/-- A cache at work. -/
structure Machine (World Driver Probe Page : Type) where
  cache : Cache Driver Probe Page
  world : World
  counters : Counters
  /-- What passed between the cache and its outside, the newest first. -/
  journal : List (Act Driver Probe Page)

namespace Machine

variable {World Driver Probe Page : Type} (host : Host World Driver Probe Page)

def record (m : Machine World Driver Probe Page) (act : Act Driver Probe Page) :
    Machine World Driver Probe Page :=
  { m with journal := act :: m.journal }

def tell (m : Machine World Driver Probe Page) (event : Event) : Machine World Driver Probe Page :=
  m.record (.told event)

def withStore (m : Machine World Driver Probe Page) (store : Store Page) :
    Machine World Driver Probe Page :=
  { m with cache := { m.cache with store } }

/-- Gives a page back to the outside. -/
def unmap (m : Machine World Driver Probe Page) (page : Page) : Machine World Driver Probe Page :=
  { m.record (.unmapped page) with world := host.unmap page m.world }

/-- Gives pages back, one after another. -/
def unmapAll (m : Machine World Driver Probe Page) (entries : List (Entry Page)) :
    Machine World Driver Probe Page :=
  entries.foldl (fun m e => m.unmap host e.page) m

/-- Gives back every page of the cache, held or not. -/
def clear (m : Machine World Driver Probe Page) : Machine World Driver Probe Page :=
  (m.withStore .empty).unmapAll host m.cache.store.entries

/-- The end of a cache. -/
def destroy (m : Machine World Driver Probe Page) : Machine World Driver Probe Page :=
  (m.clear host).tell (.destroyed m.cache.store.entries.length)

end Machine

end ForeignPages
