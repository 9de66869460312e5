import ForeignPages.Acquire
import ForeignPages.Binding
import ForeignPages.Guard
import ForeignPages.Release

namespace ForeignPages

/-- Requests that make no sense in the state they are made in. -/
inductive Misuse
  | noCache | guardsAlive | noSuchGuard
deriving DecidableEq

def Misuse.text : Misuse → String
  | noCache => "no cache"
  | guardsAlive => "guards alive"
  | noSuchGuard => "no such guard"

/-- What callers can ask for. -/
inductive Op (World Driver Probe : Type)
  /-- A new cache in place of the old one, with or without a driver. -/
  | create (driver : Option Driver)
  | discard
  | bind (driver : Driver)
  | setKernel (version : Option KernelVersion)
  | setPolicy (policy : Residency)
  | setProbe (probe : Probe)
  | setCounting (counting : Bool)
  | setOptions (options : Options)
  | setLimit (limit : Nat)
  | acquire (gfn : Gfn)
  | release (handle : Handle)
  /-- Takes a guard under a name, and drops the guard that had the name before. -/
  | get (gfn : Gfn) (name : String)
  | dropGuard (name : String)
  | read (name : String) (offset count : Nat)
  | write (name : String) (offset : Nat) (bytes : List UInt8)
  | readWord (name : String) (offset : Nat)
  | writeWord (name : String) (offset : Nat) (value : UInt64)
  | readHeader (name : String) (offset : Nat)
  | writeHeader (name : String) (offset : Nat) (value : Header)
  /-- Something that happens outside of the cache. -/
  | outside (change : World → World)

/-- The answer to an operation. -/
inductive Reply
  | nothing
  | policy (policy : Residency)
  | handle (handle : Handle)
  | lease (lease : Lease)
  | bytes (bytes : List UInt8)
  | word (value : UInt64)
  | header (value : Header)
  | refused (e : MapError)
  | broken (f : Fault)
  | misused (m : Misuse)
deriving DecidableEq

/-- The reply to an operation that can only be refused. -/
def Reply.ofExcept {α : Type} (reply : α → Reply) : Except MapError α → Reply
  | .ok a => reply a
  | .error e => .refused e

/-- The reply to an operation that can be refused or run into a fault. -/
def Reply.ofOutcome {α : Type} (reply : α → Reply) : Outcome α → Reply
  | .done a => reply a
  | .refused e => .refused e
  | .broken f => .broken f

/-- A cache with its callers. A guard borrows the cache, so the cache cannot be configured while a
guard lives, and it ends only after all guards were dropped. -/
structure Session (World Driver Probe Page : Type) where
  cache : Option (Cache Driver Probe Page)
  /-- The live guards, by the names that callers gave them. -/
  guards : Index String Guard
  world : World
  counters : Counters
  journal : List (Act Driver Probe Page)

namespace Session

variable {World Driver Probe Page : Type} (host : Host World Driver Probe Page)

/-- A session before its first cache. -/
def start (world : World) : Session World Driver Probe Page where
  cache := none
  guards := .empty
  world := world
  counters := .empty
  journal := []

/-- The session around a cache at work. -/
def resume (s : Session World Driver Probe Page) (m : Machine World Driver Probe Page) :
    Session World Driver Probe Page where
  cache := some m.cache
  guards := s.guards
  world := m.world
  counters := m.counters
  journal := m.journal

/-- A cache of the session at work. -/
def machine (s : Session World Driver Probe Page) (cache : Cache Driver Probe Page) :
    Machine World Driver Probe Page where
  cache := cache
  world := s.world
  counters := s.counters
  journal := s.journal

/-- Drops all guards. -/
def dropGuards (s : Session World Driver Probe Page) : Session World Driver Probe Page :=
  match s.cache with
  | none => { s with guards := .empty }
  | some cache =>
    let m := s.guards.values.foldl (fun m g => (m.releaseGuard g.gfn).2) (s.machine cache)
    { s.resume m with guards := .empty }

/-- Drops all guards and then the cache. -/
def close (s : Session World Driver Probe Page) : Session World Driver Probe Page :=
  let s := s.dropGuards
  match s.cache with
  | none => s
  | some cache => { s.resume ((s.machine cache).destroy host) with cache := none }

/-- Works on the cache, if there is one. -/
def onCache (s : Session World Driver Probe Page)
    (work : Machine World Driver Probe Page → Reply × Machine World Driver Probe Page) :
    Reply × Session World Driver Probe Page :=
  match s.cache with
  | none => (.misused .noCache, s)
  | some cache =>
    let (reply, m) := work (s.machine cache)
    (reply, s.resume m)

/-- Configures the cache, which no guard may borrow meanwhile. -/
def configure (s : Session World Driver Probe Page)
    (work : Machine World Driver Probe Page → Reply × Machine World Driver Probe Page) :
    Reply × Session World Driver Probe Page :=
  if s.guards.size = 0 then s.onCache work else (.misused .guardsAlive, s)

/-- Works on the cache through a guard. -/
def onGuard (s : Session World Driver Probe Page) (name : String)
    (work : Guard → Machine World Driver Probe Page →
      Reply × Machine World Driver Probe Page) :
    Reply × Session World Driver Probe Page :=
  match s.guards.find? name with
  | none => (.misused .noSuchGuard, s)
  | some g => s.onCache (work g)

def create (s : Session World Driver Probe Page) (driver : Option Driver) :
    Session World Driver Probe Page :=
  let s := s.close host
  let m := s.machine (.unbound host)
  match driver with
  | none => s.resume m
  | some driver => s.resume (m.bind host driver)

/-- Applies options. A cache whose options are refused is gone. -/
def setOptions (s : Session World Driver Probe Page) (options : Options) :
    Reply × Session World Driver Probe Page :=
  if s.guards.size = 0 then
    match s.cache with
    | none => (.misused .noCache, s)
    | some cache => match (s.machine cache).withOptions host options with
      | (.ok (), m) => (.nothing, s.resume m)
      | (.error e, m) => (.refused e, { s.resume m with cache := none })
  else (.misused .guardsAlive, s)

def dropGuard (s : Session World Driver Probe Page) (name : String) :
    Reply × Session World Driver Probe Page :=
  match s.guards.find? name with
  | none => (.misused .noSuchGuard, s)
  | some g =>
    ({ s with guards := s.guards.erase name }).onCache fun m =>
      let (outcome, m) := m.releaseGuard g.gfn
      (.ofOutcome (fun _ => .nothing) outcome, m)

/-- Takes a guard under a name. The guard that had the name before is dropped afterwards. -/
def get (s : Session World Driver Probe Page) (gfn : Gfn) (name : String) :
    Reply × Session World Driver Probe Page :=
  match s.cache with
  | none => (.misused .noCache, s)
  | some cache => match (s.machine cache).acquire host gfn .guard with
    | (.done lease, m) =>
      let m := match s.guards.find? name with
        | none => m
        | some old => (m.releaseGuard old.gfn).2
      (.lease lease,
        { s.resume m with guards := s.guards.insert name ⟨gfn, lease.handle, lease.size⟩ })
    | (.refused e, m) => (.refused e, s.resume m)
    | (.broken f, m) => (.broken f, s.resume m)

/-- Performs one operation. -/
def step (s : Session World Driver Probe Page) :
    Op World Driver Probe → Reply × Session World Driver Probe Page
  | .create driver => (.nothing, s.create host driver)
  | .discard => (.nothing, s.close host)
  | .bind driver => s.configure fun m => (.nothing, m.bind host driver)
  | .setKernel version => s.configure fun m =>
    (.policy (.forKernel version), m.withPolicy (.forKernel version))
  | .setPolicy policy => s.configure fun m => (.nothing, m.withPolicy policy)
  | .setProbe probe => s.configure fun m => (.nothing, m.withProbe probe)
  | .setCounting counting => s.configure fun m =>
    (.nothing, if counting then m.withCounters else m.withoutCounters)
  | .setOptions options => s.setOptions host options
  | .setLimit limit => s.onCache fun m => match m.cache.setLimit limit with
    | .ok cache => (.nothing, { m with cache })
    | .error e => (.refused e, m)
  | .acquire gfn => s.onCache fun m =>
    let (outcome, m) := m.acquire host gfn .handle
    (.ofOutcome (fun lease => .handle lease.handle) outcome, m)
  | .release h => s.onCache fun m =>
    let (outcome, m) := m.release h
    (.ofOutcome (fun _ => .nothing) outcome, m)
  | .get gfn name => s.get host gfn name
  | .dropGuard name => s.dropGuard name
  | .read name offset count => s.onGuard name fun g m =>
    (.ofExcept .bytes (m.readBytes host g offset count), m)
  | .write name offset bytes => s.onGuard name fun g m =>
    let (result, m) := m.write host g offset bytes
    (.ofExcept (fun _ => .nothing) result, m)
  | .readWord name offset => s.onGuard name fun g m =>
    (.ofExcept .word (m.readAs host .word64 g offset), m)
  | .writeWord name offset value => s.onGuard name fun g m =>
    let (result, m) := m.writeAs host .word64 g offset value
    (.ofExcept (fun _ => .nothing) result, m)
  | .readHeader name offset => s.onGuard name fun g m =>
    (.ofExcept .header (m.readAs host Header.layout g offset), m)
  | .writeHeader name offset value => s.onGuard name fun g m =>
    let (result, m) := m.writeAs host Header.layout g offset value
    (.ofExcept (fun _ => .nothing) result, m)
  | .outside change => (.nothing, { s with world := change s.world })

/-- Performs operations one after another. -/
def run (s : Session World Driver Probe Page) (ops : List (Op World Driver Probe)) :
    Session World Driver Probe Page :=
  ops.foldl (fun s op => (s.step host op).2) s

end Session

end ForeignPages
