import ForeignPages.Cache

namespace ForeignPages

/-- What a successful acquisition hands out. -/
structure Lease where
  handle : Handle
  /-- The number of bytes that the page has now. -/
  size : Nat
deriving DecidableEq

namespace Machine

variable {World Driver Probe Page : Type} (host : Host World Driver Probe Page)

/-- One more reference to a cached page, which is now the most recently used one. -/
def acquireCached (m : Machine World Driver Probe Page) (gfn : Gfn) (e : Entry Page)
    (holder : Holder) : Outcome Lease × Machine World Driver Probe Page :=
  match m.cache.tick? with
  | none => (.broken .additionOverflow, m)
  | some (token, cache) =>
    let used : Entry Page := { e with lastUse := token }
    match used.pin? holder with
    | none =>
      (.broken .additionOverflow,
        { m with cache := { cache with store := cache.store.change gfn fun _ => used } })
    | some pinned =>
      (.done ⟨e.handle, host.size e.page m.world⟩,
        { m with cache := { cache with store := cache.store.change gfn fun _ => pinned } })

/-- Evicts unused pages, at most half as many as the limit allows, the least recently used ones
first. -/
def cleanUp (m : Machine World Driver Probe Page) :
    Except Fault Unit × Machine World Driver Probe Page :=
  match m.cache.store.size? with
  | .error fault => (.error fault, m)
  | .ok total => match m.cache.store.unused? with
    | none => (.error .additionOverflow, m)
    | some unused =>
      let (evicted, store) := m.cache.store.removeAll (Store.victims m.cache.limit unused)
      (.ok (), ((m.withStore store).unmapAll host evicted).tell
        (.cleanedUp total unused.length evicted.length))

/-- Cleans up if the limit is reached. -/
def makeRoom (m : Machine World Driver Probe Page) :
    Except Fault Unit × Machine World Driver Probe Page :=
  match m.cache.store.size? with
  | .error fault => (.error fault, m)
  | .ok size => if m.cache.limit ≤ size then m.cleanUp host else (.ok (), m)

/-- The name under which attempts to map a page are counted. -/
def mapCounter : String := "map_page"

/-- Counts an attempt to map a page, if there is a table for it. -/
def countMapping? (m : Machine World Driver Probe Page) : Option (Machine World Driver Probe Page) :=
  if m.cache.counting then
    (m.counters.increment? mapCounter).map fun counters => { m with counters }
  else some m

/-- Asks the driver for a page that can be read and written. -/
def callDriver (m : Machine World Driver Probe Page) (driver : Driver) (gfn : Gfn) :
    Except IoError Page × Machine World Driver Probe Page :=
  let (answer, world) := host.map driver gfn .rw m.world
  (answer, { m.record (.mapped driver gfn .rw answer) with world })

/-- The failure of a driver that mapped something else than one page. -/
def wrongSize (size expected : Nat) : IoError :=
  .custom .invalidData
    ("mapped " ++ toString size ++ " bytes, expected " ++ toString expected)

/-- Maps exactly one page. A mapping of another size is given back and counts as a failure. -/
def mapPage (m : Machine World Driver Probe Page) (driver : Driver) (gfn : Gfn) (expected : Nat) :
    Except IoError Page × Machine World Driver Probe Page :=
  match m.callDriver host driver gfn with
  | (.error source, m) => (.error source, m)
  | (.ok page, m) =>
    let size := host.size page m.world
    if size = expected then (.ok page, m)
    else (.error (wrongSize size expected), m.unmap host page)

/-- Tells about a mapping that failed, if that is wanted. -/
def tellMapFailure (m : Machine World Driver Probe Page) (gfn : Gfn) (source : IoError) :
    Machine World Driver Probe Page :=
  if m.cache.logMapFailures then m.tell (.mapFailed gfn source) else m

/-- Whether a new page passes the residency policy. A probe that fails is as good as one that
denies. -/
def passesPolicy (m : Machine World Driver Probe Page) (gfn : Gfn) (page : Page) (size : Nat) :
    Bool × Machine World Driver Probe Page :=
  match m.cache.residency with
  | .trust => (true, m)
  | .probe =>
    let (answer, world) := host.probe m.cache.probe (host.address page) size m.world
    let m := { m.record (.probed m.cache.probe (host.address page) size answer) with world }
    match answer with
    | .ok true => (true, m)
    | .ok false => (false, m.tell (.notResident gfn))
    | .error source => (false, m.tell (.probeFailed gfn source))

/-- The entry of a page that was just mapped for its first holder. -/
def firstEntry (gfn : Gfn) (page : Page) (token : UInt64) (holder : Holder) : Entry Page where
  gfn := gfn
  handle := host.address page
  lastUse := token
  refs := match holder with | .handle => 1 | .guard => 0
  guards := match holder with | .handle => 0 | .guard => 1
  page := page

/-- Puts a new page into the store. If its handle is that of a cached page, the page is given
back, but the handle leads to its number from then on. -/
def place (m : Machine World Driver Probe Page) (gfn : Gfn) (page : Page) (size : Nat)
    (holder : Holder) : Outcome Lease × Machine World Driver Probe Page :=
  match m.cache.tick? with
  | none => (.broken .additionOverflow, m.unmap host page)
  | some (token, cache) =>
    let entry := firstEntry host gfn page token holder
    let m := { m with cache }.tell (.pageMapped gfn entry.handle)
    match cache.store.insert entry with
    | (.fresh, store) => (.done ⟨entry.handle, size⟩, m.withStore store)
    | (.handleKnown, store) => (.broken .handleTaken, (m.withStore store).unmap host page)
    | (.pageKnown old, store) => (.broken .pageTaken, (m.withStore store).unmap host old.page)

/-- Maps a page that is not cached. -/
def acquireNew (m : Machine World Driver Probe Page) (driver : Driver) (gfn : Gfn)
    (holder : Holder) : Outcome Lease × Machine World Driver Probe Page :=
  match m.makeRoom host with
  | (.error fault, m) => (.broken fault, m)
  | (.ok (), m) => match m.countMapping? with
    | none => (.broken .additionOverflow, m)
    | some m =>
      let size := host.pageSize driver m.world
      match m.mapPage host driver gfn size with
      | (.error source, m) => (.refused (.mapFailed gfn source), m.tellMapFailure gfn source)
      | (.ok page, m) => match m.passesPolicy host gfn page size with
        | (false, m) => (.refused (.pageNotPresent gfn), m.unmap host page)
        | (true, m) => m.place host gfn page size holder

/-- Acquires a page for a holder. -/
def acquire (m : Machine World Driver Probe Page) (gfn : Gfn) (holder : Holder) :
    Outcome Lease × Machine World Driver Probe Page :=
  match m.cache.driver with
  | none => (.refused .noSession, m)
  | some driver => match m.cache.store.find? gfn with
    | some entry => m.acquireCached host gfn entry holder
    | none => m.acquireNew host driver gfn holder

end Machine

end ForeignPages
