import ForeignPages.Session

namespace ForeignPages

variable {World Driver Probe Page : Type}

/-- A cached page as it stands in the list, with the number of holders of either kind. -/
structure Slot (Page : Type) where
  gfn : Gfn
  handle : Handle
  refs : Nat
  guards : Nat
  page : Page

namespace Slot

/-- Nobody holds the page. -/
def unpinned (slot : Slot Page) : Bool := slot.refs == 0 && slot.guards == 0

/-- One more reference. -/
def pin (slot : Slot Page) : Holder → Slot Page
  | .handle => { slot with refs := slot.refs + 1 }
  | .guard => { slot with guards := slot.guards + 1 }

/-- The slot of a page that was just mapped. -/
def first (host : Host World Driver Probe Page) (gfn : Gfn) (page : Page) : Holder → Slot Page :=
  pin ⟨gfn, host.address page, 0, 0, page⟩

end Slot

/-- Takes the first elements with a property out of a list, up to a number, and leaves the rest in
its order. -/
def takeFirst {α : Type} (p : α → Bool) : Nat → List α → List α × List α
  | 0, rest => ([], rest)
  | _ + 1, [] => ([], [])
  | n + 1, a :: rest =>
    if p a then (a :: (takeFirst p n rest).1, (takeFirst p n rest).2)
    else ((takeFirst p (n + 1) rest).1, a :: (takeFirst p (n + 1) rest).2)

/-- Gives pages back, one after another. -/
def Machine.giveBack (host : Host World Driver Probe Page) (m : Machine World Driver Probe Page)
    (pages : List Page) : Machine World Driver Probe Page :=
  pages.foldl (fun m page =>
    { m with world := host.unmap page m.world, journal := .unmapped page :: m.journal }) m

/-- A cache at work whose pages stand in a list, the least recently acquired one first. -/
structure Recency (World Driver Probe Page : Type) where
  slots : List (Slot Page)
  /-- Everything else. The store of this machine stays empty, and its clock stands still. -/
  rest : Machine World Driver Probe Page

namespace Recency

variable (host : Host World Driver Probe Page)

/-- The slot of a page. -/
def find? (r : Recency World Driver Probe Page) (gfn : Gfn) : Option (Slot Page) :=
  r.slots.find? fun slot => slot.gfn = gfn

/-- The page that has a handle. -/
def findHandle? (r : Recency World Driver Probe Page) (h : Handle) : Option (Slot Page) :=
  r.slots.find? fun slot => slot.handle = h

/-- Changes the slot of a page where it stands. -/
def change (r : Recency World Driver Probe Page) (gfn : Gfn) (f : Slot Page → Slot Page) :
    Recency World Driver Probe Page :=
  { r with slots := r.slots.map fun slot => if slot.gfn = gfn then f slot else slot }

/-- One more reference to a page, which moves to the end. -/
def acquireCached (r : Recency World Driver Probe Page) (slot : Slot Page) (holder : Holder) :
    Outcome Lease × Recency World Driver Probe Page :=
  (.done ⟨slot.handle, host.size slot.page r.rest.world⟩,
    { r with slots := r.slots.filter (fun other => other.gfn ≠ slot.gfn) ++ [slot.pin holder] })

/-- At the limit, the first unpinned pages are evicted, at most half as many as the limit allows. -/
def makeRoom (r : Recency World Driver Probe Page) : Recency World Driver Probe Page :=
  if r.rest.cache.limit ≤ r.slots.length then
    let (evicted, kept) := takeFirst Slot.unpinned (r.rest.cache.limit / 2) r.slots
    ⟨kept, (r.rest.giveBack host (evicted.map (·.page))).tell
      (.cleanedUp r.slots.length (r.slots.countP Slot.unpinned) evicted.length)⟩
  else r

/-- Counts an attempt to map a page, if there is a table for it. -/
def counted? (rest : Machine World Driver Probe Page) : Option (Machine World Driver Probe Page) :=
  if rest.cache.counting then
    (rest.counters.increment? "map_page").map fun counters => { rest with counters }
  else some rest

/-- Asks the driver for a page. One of another size is given back, and is as good as none. -/
def delivered (rest : Machine World Driver Probe Page) (driver : Driver) (gfn : Gfn) (size : Nat) :
    Except IoError Page × Machine World Driver Probe Page :=
  match host.map driver gfn .rw rest.world with
  | (.error source, world) =>
    (.error source, { rest with world, journal := .mapped driver gfn .rw (.error source) :: rest.journal })
  | (.ok page, world) =>
    let asked := { rest with world, journal := .mapped driver gfn .rw (.ok page) :: rest.journal }
    if host.size page world = size then (.ok page, asked)
    else
      (.error (.custom .invalidData
        ("mapped " ++ toString (host.size page world) ++ " bytes, expected " ++ toString size)),
        asked.giveBack host [page])

/-- Tells about a page that could not be mapped, if that is wanted. -/
def complained (rest : Machine World Driver Probe Page) (gfn : Gfn) (source : IoError) :
    Machine World Driver Probe Page :=
  if rest.cache.logMapFailures then { rest with journal := .told (.mapFailed gfn source) :: rest.journal } else rest

/-- Asks the probe about a new page, if that is the policy. -/
def confirmed (rest : Machine World Driver Probe Page) (gfn : Gfn) (page : Page) (size : Nat) :
    Bool × Machine World Driver Probe Page :=
  if rest.cache.policy = some .probe then
    let (answer, world) := host.probe rest.cache.probe (host.address page) size rest.world
    let question : Act Driver Probe Page := .probed rest.cache.probe (host.address page) size answer
    match answer with
    | .ok true => (true, { rest with world, journal := question :: rest.journal })
    | .ok false => (false, { rest with world, journal := .told (.notResident gfn) :: question :: rest.journal })
    | .error source =>
      (false, { rest with world, journal := .told (.probeFailed gfn source) :: question :: rest.journal })
  else (true, rest)

/-- Maps a page that is not cached, and puts it at the end. -/
def acquireNew (r : Recency World Driver Probe Page) (driver : Driver) (gfn : Gfn) (holder : Holder) :
    Outcome Lease × Recency World Driver Probe Page :=
  let r := r.makeRoom host
  match counted? r.rest with
  | none => (.broken .additionOverflow, r)
  | some rest =>
    let size := host.pageSize driver rest.world
    match delivered host rest driver gfn size with
    | (.error source, rest) => (.refused (.mapFailed gfn source), ⟨r.slots, complained rest gfn source⟩)
    | (.ok page, rest) => match confirmed host rest gfn page size with
      | (false, rest) => (.refused (.pageNotPresent gfn), ⟨r.slots, rest.giveBack host [page]⟩)
      | (true, rest) => (.done ⟨host.address page, size⟩,
        ⟨r.slots ++ [.first host gfn page holder], rest.tell (.pageMapped gfn (host.address page))⟩)

/-- Acquires a page: a listed one moves to the end, any other is mapped and comes to the end. -/
def acquire (r : Recency World Driver Probe Page) (gfn : Gfn) (holder : Holder) :
    Outcome Lease × Recency World Driver Probe Page :=
  match r.rest.cache.driver with
  | none => (.refused .noSession, r)
  | some driver => match r.find? gfn with
    | some slot => r.acquireCached host slot holder
    | none => r.acquireNew host driver gfn holder

/-- Gives back one reference through a handle. -/
def release (r : Recency World Driver Probe Page) (h : Handle) :
    Outcome Unit × Recency World Driver Probe Page :=
  match r.findHandle? h with
  | none => (.done (), r)
  | some slot =>
    if slot.refs = 0 then
      if slot.guards = 0 then (.broken (.overReleased slot.gfn), r)
      else (.done (), { r with rest := r.rest.tell (.releasedUnreferenced slot.gfn slot.guards) })
    else (.done (), r.change slot.gfn fun slot => { slot with refs := slot.refs - 1 })

/-- Gives back the reference of a guard. -/
def releaseGuard (r : Recency World Driver Probe Page) (gfn : Gfn) :
    Outcome Unit × Recency World Driver Probe Page :=
  match r.find? gfn with
  | none => (.done (), r)
  | some slot =>
    if slot.guards = 0 then (.broken (.guardMissing gfn), r)
    else (.done (), r.change gfn fun slot => { slot with guards := slot.guards - 1 })

/-- Attaches a driver. The first one makes the release of the kernel decide about the policy, unless one was
chosen before. -/
def attached (rest : Machine World Driver Probe Page) (driver : Driver) : Machine World Driver Probe Page :=
  match rest.cache.policy with
  | some _ =>
    { rest with cache := { rest.cache with driver := some driver }, journal := .bound driver :: rest.journal }
  | none =>
    let (version, events) := KernelVersion.ofFile (host.release rest.world)
    { rest with
      cache := { rest.cache with driver := some driver, policy := some (.forKernel version) }
      journal := .bound driver :: .told (.policySelected version) :: (events.map .told).reverse ++ rest.journal }

/-- The pages are given back in some order, and a driver is attached. -/
def bind (r : Recency World Driver Probe Page) (order : List Page) (driver : Driver) :
    Recency World Driver Probe Page :=
  ⟨[], attached host (r.rest.giveBack host order) driver⟩

/-- The end of a cache, whose pages are given back in some order. -/
def destroy (r : Recency World Driver Probe Page) (order : List Page) : Recency World Driver Probe Page :=
  ⟨[], (r.rest.giveBack host order).tell (.destroyed r.slots.length)⟩

/-- The page behind a guard, if a range of its bytes is accessible. -/
def pageFor (r : Recency World Driver Probe Page) (g : Guard) (offset count : Nat) : Except MapError Page :=
  if offset + count < UInt64.size ∧ offset + count ≤ g.size then
    match r.find? g.gfn with
    | none => .error (.pageNotPresent g.gfn)
    | some slot =>
      if offset + count ≤ host.size slot.page r.rest.world then .ok slot.page else .error .outOfBounds
  else .error .outOfBounds

/-- Reads bytes through a guard. -/
def readBytes (r : Recency World Driver Probe Page) (g : Guard) (offset count : Nat) : Except MapError (List UInt8) :=
  (r.pageFor host g offset count).map fun page => host.read page offset count r.rest.world

/-- Writes bytes through a guard. -/
def write (r : Recency World Driver Probe Page) (g : Guard) (offset : Nat) (bytes : List UInt8) :
    Except MapError Unit × Recency World Driver Probe Page :=
  match r.pageFor host g offset bytes.length with
  | .error e => (.error e, r)
  | .ok page => (.ok (), { r with rest := { r.rest with world := host.write page offset bytes r.rest.world } })

def readAs {α : Type} (layout : Layout α) (r : Recency World Driver Probe Page) (g : Guard) (offset : Nat) :
    Except MapError α :=
  (r.readBytes host g offset layout.width).map layout.decode

def writeAs {α : Type} (layout : Layout α) (r : Recency World Driver Probe Page) (g : Guard) (offset : Nat)
    (value : α) : Except MapError Unit × Recency World Driver Probe Page :=
  r.write host g offset (layout.encode value)

/-- Work that has nothing to do with pages. -/
def onRest (work : Machine World Driver Probe Page → Reply × Machine World Driver Probe Page)
    (r : Recency World Driver Probe Page) : Reply × Recency World Driver Probe Page :=
  ((work r.rest).1, { r with rest := (work r.rest).2 })

end Recency

/-- A session with a cache whose pages stand in a list. -/
structure RecencySession (World Driver Probe Page : Type) where
  /-- The pages of the cache; none without a cache. -/
  slots : List (Slot Page)
  rest : Session World Driver Probe Page

namespace RecencySession

variable (host : Host World Driver Probe Page)

/-- The list at work, with the rest of the cache. -/
def recency (q : RecencySession World Driver Probe Page) (cache : Cache Driver Probe Page) :
    Recency World Driver Probe Page := ⟨q.slots, q.rest.machine cache⟩

/-- The session around a list at work. -/
def resume (q : RecencySession World Driver Probe Page) (r : Recency World Driver Probe Page) :
    RecencySession World Driver Probe Page := ⟨r.slots, q.rest.resume r.rest⟩

def onCache (q : RecencySession World Driver Probe Page)
    (work : Recency World Driver Probe Page → Reply × Recency World Driver Probe Page) :
    Reply × RecencySession World Driver Probe Page :=
  match q.rest.cache with
  | none => (.misused .noCache, q)
  | some cache => ((work (q.recency cache)).1, q.resume (work (q.recency cache)).2)

def configure (q : RecencySession World Driver Probe Page)
    (work : Recency World Driver Probe Page → Reply × Recency World Driver Probe Page) :
    Reply × RecencySession World Driver Probe Page :=
  if q.rest.guards.size = 0 then q.onCache work else (.misused .guardsAlive, q)

def onGuard (q : RecencySession World Driver Probe Page) (name : String)
    (work : Guard → Recency World Driver Probe Page → Reply × Recency World Driver Probe Page) :
    Reply × RecencySession World Driver Probe Page :=
  match q.rest.guards.find? name with
  | none => (.misused .noSuchGuard, q)
  | some g => q.onCache (work g)

/-- Drops all guards and then the cache, whose pages are given back in some order. -/
def close (q : RecencySession World Driver Probe Page) (order : List Page) :
    RecencySession World Driver Probe Page :=
  match q.rest.cache with
  | none => ⟨[], { q.rest with guards := .empty }⟩
  | some cache =>
    let r := q.rest.guards.values.foldl (fun r g => (r.releaseGuard g.gfn).2) (q.recency cache)
    ⟨[], { q.rest.resume (r.destroy host order).rest with cache := none, guards := .empty }⟩

/-- Ends the previous cache and begins another one. -/
def create (q : RecencySession World Driver Probe Page) (order : List Page) (driver : Option Driver) :
    RecencySession World Driver Probe Page :=
  let q := q.close host order
  let r := q.recency (.unbound host)
  match driver with
  | none => q.resume r
  | some driver => q.resume (r.bind host [] driver)

def setOptions (q : RecencySession World Driver Probe Page) (order : List Page) (options : Options) :
    Reply × RecencySession World Driver Probe Page :=
  if q.rest.guards.size = 0 then
    match q.rest.cache with
    | none => (.misused .noCache, q)
    | some cache =>
      if options.limit < minLimit then
        (.refused (.limitTooSmall options.limit minLimit),
          ⟨[], { q.rest.resume ((q.recency cache).destroy host order).rest with cache := none }⟩)
      else (.nothing, q.resume
        (q.recency { cache with limit := options.limit, logMapFailures := options.logMapFailures }))
  else (.misused .guardsAlive, q)

def dropGuard (q : RecencySession World Driver Probe Page) (name : String) :
    Reply × RecencySession World Driver Probe Page :=
  match q.rest.guards.find? name with
  | none => (.misused .noSuchGuard, q)
  | some g =>
    ({ q with rest := { q.rest with guards := q.rest.guards.erase name } }).onCache fun r =>
      (.ofOutcome (fun _ => .nothing) (r.releaseGuard g.gfn).1, (r.releaseGuard g.gfn).2)

def get (q : RecencySession World Driver Probe Page) (gfn : Gfn) (name : String) :
    Reply × RecencySession World Driver Probe Page :=
  match q.rest.cache with
  | none => (.misused .noCache, q)
  | some cache => match (q.recency cache).acquire host gfn .guard with
    | (.done lease, r) =>
      let r := match q.rest.guards.find? name with
        | none => r
        | some old => (r.releaseGuard old.gfn).2
      (.lease lease, ⟨r.slots,
        { q.rest.resume r.rest with guards := q.rest.guards.insert name ⟨gfn, lease.handle, lease.size⟩ }⟩)
    | (.refused e, r) => (.refused e, q.resume r)
    | (.broken f, r) => (.broken f, q.resume r)

/-- Performs one operation. If it takes the whole cache apart, the order in which the pages are given
back is the given one. -/
def step (order : List Page) (q : RecencySession World Driver Probe Page) :
    Op World Driver Probe → Reply × RecencySession World Driver Probe Page
  | .create driver => (.nothing, q.create host order driver)
  | .discard => (.nothing, q.close host order)
  | .bind driver => q.configure fun r => (.nothing, r.bind host order driver)
  | .setKernel version => q.configure (Recency.onRest fun m =>
    (.policy (.forKernel version), { m with cache := { m.cache with policy := some (.forKernel version) } }))
  | .setPolicy policy => q.configure (Recency.onRest fun m =>
    (.nothing, { m with cache := { m.cache with policy := some policy } }))
  | .setProbe probe => q.configure (Recency.onRest fun m => (.nothing, { m with cache := { m.cache with probe } }))
  | .setCounting counting => q.configure (Recency.onRest fun m => (.nothing, { m with
    cache := { m.cache with counting }
    counters := if counting then .empty else m.counters }))
  | .setOptions options => q.setOptions host order options
  | .setLimit limit => q.onCache (Recency.onRest fun m =>
    if limit < minLimit then (.refused (.limitTooSmall limit minLimit), m)
    else (.nothing, { m with cache := { m.cache with limit } }))
  | .acquire gfn => q.onCache fun r =>
    (.ofOutcome (fun lease => .handle lease.handle) (r.acquire host gfn .handle).1, (r.acquire host gfn .handle).2)
  | .release h => q.onCache fun r => (.ofOutcome (fun _ => .nothing) (r.release h).1, (r.release h).2)
  | .get gfn name => q.get host gfn name
  | .dropGuard name => q.dropGuard name
  | .read name offset count => q.onGuard name fun g r => (.ofExcept .bytes (r.readBytes host g offset count), r)
  | .write name offset bytes => q.onGuard name fun g r =>
    (.ofExcept (fun _ => .nothing) (r.write host g offset bytes).1, (r.write host g offset bytes).2)
  | .readWord name offset => q.onGuard name fun g r => (.ofExcept .word (r.readAs host .word64 g offset), r)
  | .writeWord name offset value => q.onGuard name fun g r =>
    (.ofExcept (fun _ => .nothing) (r.writeAs host .word64 g offset value).1,
      (r.writeAs host .word64 g offset value).2)
  | .readHeader name offset => q.onGuard name fun g r =>
    (.ofExcept .header (r.readAs host Header.layout g offset), r)
  | .writeHeader name offset value => q.onGuard name fun g r =>
    (.ofExcept (fun _ => .nothing) (r.writeAs host Header.layout g offset value).1,
      (r.writeAs host Header.layout g offset value).2)
  | .outside change => (.nothing, { q with rest := { q.rest with world := change q.rest.world } })

/-- The sessions that a run can lead to, with the operations and the replies to them, the newest first.
Whenever pages are given back all at once, any order of them will do. -/
inductive Reach (host : Host World Driver Probe Page) (world : World) :
    List (Op World Driver Probe × Reply) → RecencySession World Driver Probe Page → Prop
  | start : Reach host world [] ⟨[], .start world⟩
  | step {past : List (Op World Driver Probe × Reply)} {q : RecencySession World Driver Probe Page}
      (op : Op World Driver Probe) (order : List Page) : Reach host world past q →
      (q.slots.map (·.page)).Perm order →
      Reach host world ((op, (q.step host order op).1) :: past) (q.step host order op).2

end RecencySession

end ForeignPages
