import ForeignPages.Bench.Step
import ForeignPages.Exchange

namespace ForeignPages

/-- A trial: a session on the bench, and the addresses of the pages that were put into caches, in
that order. -/
structure Bench where
  session : Session BenchWorld Nat BenchProbe BenchPage
  created : Array Handle := #[]

namespace Bench

def start (backends : List Backend) : Bench where
  session := .start { backends := backends.toArray }

/-- The greatest number, up to a bound, of a page at an address, or zero. -/
def lastNumber (created : Array Handle) (h : Handle) : Nat → Nat
  | 0 => 0
  | number + 1 =>
    if created[number]? = some h then number + 1 else lastNumber created h number

/-- The number of the newest page at an address, or zero. -/
def numberOf (b : Bench) (h : Handle) : Nat := lastNumber b.created h b.created.size

/-- The address with a number. A number that was not given out, or whose address belongs to a newer
page, stands for no memory. -/
def handleOf (b : Bench) (number : Nat) : Handle :=
  let known := b.created[number - 1]?.filter fun h => b.numberOf h = number
  known.getD .null

/-- An address at which no page lies. -/
def stray : Handle := ⟨1⟩

/-- The address that a name of a handle stands for, if the distance does not lead out of memory. No
page lies at a distance from another, so it does not matter where else it leads. -/
def named? (b : Bench) (name : HandleName) : Option Handle :=
  let h := b.handleOf name.number
  if name.plus = 0 then some h else (add64? h.address name.plus).map fun _ => stray

def size (b : Bench) : Option Nat := b.session.cache.map (·.store.byGfn.size)

/-- Performs an operation of the session. -/
def perform (b : Bench) (op : Op BenchWorld Nat BenchProbe) : Reply × Bench :=
  let (reply, session) := b.session.step benchHost op
  (reply, { b with session })

/-- What an operation gives that has nothing to hand out. -/
def plainResult : Reply → BenchResult
  | .policy policy => .text policy.name
  | .bytes bytes => .bytes bytes
  | .word value => .word value
  | .header value => .header value
  | .refused e => .refused e
  | .broken f => .broken f
  | .misused m => .misused m.text
  | .nothing | .handle _ | .lease _ => .nothing

/-- What an operation gives that hands out nothing but its success. -/
def acceptedResult : Reply → BenchResult
  | .nothing => .accepted
  | reply => plainResult reply

/-- Gives the next number to a page that was just put into the cache. -/
def count (b : Bench) (cached : Bool) (h : Handle) : Bench :=
  if cached then b else { b with created := b.created.push h }

/-- Whether a page is cached. -/
def caches (b : Bench) (gfn : Gfn) : Bool := b.session.cache.any (·.contains gfn)

/-- Acquires a page, and numbers it if it was not cached. -/
def acquire (b : Bench) (gfn : Gfn) : Reply × Bench :=
  let cached := b.caches gfn
  match b.perform (.acquire gfn) with
  | (.handle h, b) => (.handle h, b.count cached h)
  | other => other

/-- What an acquisition gives. -/
def acquired (b : Bench) : Reply → BenchResult
  | .handle h => .handle (b.numberOf h)
  | .lease lease => .lease (b.numberOf lease.handle) lease.size
  | reply => plainResult reply

/-- The status of an acquisition. -/
def statusOf : Reply → BenchResult
  | .handle _ => .text MapStatus.success.text
  | .refused e => .text e.status.text
  | reply => plainResult reply

/-- In a list, a page stands for its number alone. -/
def listed (b : Bench) : Reply → BenchResult
  | .handle h => .number (b.numberOf h)
  | reply => plainResult reply

/-- Acquires pages one after another. -/
def acquireEach (b : Bench) : List Gfn → List BenchResult × Bench
  | [] => ([], b)
  | gfn :: rest =>
    let (reply, b) := b.acquire gfn
    let result := b.listed reply
    let (results, b) := b.acquireEach rest
    (result :: results, b)

/-- Releases what an acquisition handed out, if it handed out anything. -/
def giveBack (b : Bench) : Reply → Except Fault Unit × Bench
  | .handle h => match b.perform (.release h) with
    | (.broken f, b) => (.error f, b)
    | (_, b) => (.ok (), b)
  | _ => (.ok (), b)

/-- Acquires pages one after another and releases each before the next. An acquisition that fails
has its place among the results, but a release that breaks off ends the whole. -/
def churnEach (b : Bench) : List Gfn → Except Fault (List BenchResult) × Bench
  | [] => (.ok [], b)
  | gfn :: rest =>
    let (reply, b) := b.acquire gfn
    let result := b.listed reply
    match b.giveBack reply with
    | (.error f, b) => (.error f, b)
    | (.ok (), b) =>
      let (results, b) := b.churnEach rest
      (results.map (result :: ·), b)

/-- Releases handles by their numbers, and keeps the faults. -/
def releaseEach (b : Bench) : List Nat → List (Nat × Fault) × Bench
  | [] => ([], b)
  | number :: rest =>
    let (reply, b) := b.perform (.release (b.handleOf number))
    let (faults, b) := b.releaseEach rest
    match reply with
    | .broken f => ((number, f) :: faults, b)
    | _ => (faults, b)

/-- Answers a question about the cache. -/
def ask (b : Bench) (question : Cache Nat BenchProbe BenchPage → BenchResult) : BenchResult :=
  match b.session.cache with
  | none => .misused Misuse.noCache.text
  | some cache => question cache

def info (b : Bench) (c : Cache Nat BenchProbe BenchPage) : BenchResult :=
  match c.store.size? with
  | .error f => .broken f
  | .ok size =>
    .cache ⟨c.limit, size, c.residency, c.driver.map b.session.world.pageSize⟩

/-- The references to a page. -/
def refs (c : Cache Nat BenchProbe BenchPage) (gfn : Gfn) : BenchResult :=
  match c.references? gfn with
  | .error f => .broken f
  | .ok none => .absent
  | .ok (some n) => .number n.toNat

/-- The cached pages with their references, sorted by number. -/
def dump (c : Cache Nat BenchProbe BenchPage) : BenchResult :=
  let pages := c.store.entries.mergeSort fun e f => e.gfn.number ≤ f.gfn.number
  match pages.mapM fun e => e.references?.map fun n => (e.gfn, n) with
  | none => .broken .additionOverflow
  | some pages => .pages pages

def guardInfo (b : Bench) (name : String) : BenchResult :=
  match b.session.guards.find? name with
  | none => .misused Misuse.noSuchGuard.text
  | some g =>
    let number := b.numberOf g.handle
    .guard ⟨g.gfn, number, g.handle, g.size, g.inspect ("#" ++ toString number)⟩

/-- The accounts of a backend; the protections are sorted by their text. -/
def accounts (b : Backend) : BackendInfo where
  attempts := b.attempts
  maps := b.maps
  unmaps := b.unmaps
  protections := (b.protections.map (·.text)).eraseDups.mergeSort fun p q => decide (p ≤ q)

def noSuchBackend : BenchResult := .misused "no such backend"

/-- Does something with a backend, if there is one. -/
def onBackend (b : Bench) (index : Nat) (work : Backend → BenchResult × Bench) :
    BenchResult × Bench :=
  match b.session.world.backend? index with
  | none => (noSuchBackend, b)
  | some backend => work backend

/-- Changes the world around the cache. -/
def outside (b : Bench) (change : BenchWorld → BenchWorld) : BenchResult × Bench :=
  (.nothing, (b.perform (.outside change)).2)

/-- Changes a backend. -/
def changeBackend (b : Bench) (index : Nat) (change : Backend → Backend) : BenchResult × Bench :=
  b.onBackend index fun _ => b.outside fun w => w.changeBackend index change

/-- Shows less of the memory that a page was mapped to last, or again more. -/
def shrink (b : Bench) (index : Nat) (gfn : Gfn) (size : Nat) : BenchResult × Bench :=
  b.onBackend index fun backend => match backend.latest.find? gfn with
    | none => (.nothing, b)
    | some number => b.outside fun w =>
      w.changeArea number fun a => { a with shown := min size a.size }

/-- Performs an operation that hands out nothing. -/
def plain (b : Bench) (op : Op BenchWorld Nat BenchProbe) : BenchResult × Bench :=
  let (reply, b) := b.perform op
  (plainResult reply, b)

/-- A new cache in place of the old one. The old one is gone even if there is no such backend. -/
def renew (b : Bench) : Option Nat → BenchResult × Bench
  | none => b.plain (.create none)
  | some index =>
    let b := (b.perform .discard).2
    b.onBackend index fun _ => b.plain (.create (some index))

/-- Binds the cache to a backend. If there is no such backend the cache is gone. -/
def bind (b : Bench) (index : Nat) : BenchResult × Bench :=
  if b.session.guards.size ≠ 0 then (.misused Misuse.guardsAlive.text, b)
  else if b.session.cache.isNone then (.misused Misuse.noCache.text, b)
  else match b.session.world.backend? index with
    | some _ => b.plain (.bind index)
    | none => (noSuchBackend, (b.perform .discard).2)

/-- Reads options and applies them. They are read first, whatever state the cache is in, and options
that cannot be read change nothing. -/
def options (b : Bench) (value : Value) : BenchResult × Bench :=
  match Options.ofValue? value with
  | none => (.malformed, b)
  | some options => b.plain (.setOptions options)

/-- Brings pages into the cache one after another. For no page at all, no cache is needed. -/
def onPages (b : Bench) (pages : Stride) (work : List Gfn → BenchResult × Bench) :
    BenchResult × Bench :=
  if b.session.cache.isNone && pages.count != 0 then (.misused Misuse.noCache.text, b)
  else work pages.pages

/-- Does something on the cache with the handle that a name stands for. -/
def onHandle (b : Bench) (name : HandleName) (work : Handle → BenchResult × Bench) :
    BenchResult × Bench :=
  if b.session.cache.isNone then (.misused Misuse.noCache.text, b)
  else match b.named? name with
    | none => (.broken .additionOverflow, b)
    | some h => work h

/-- Performs an operation that hands out its success. -/
def accepted (b : Bench) (op : Op BenchWorld Nat BenchProbe) : BenchResult × Bench :=
  let (reply, b) := b.perform op
  (acceptedResult reply, b)

/-- Every `stride`-th number of a range, its ends included. -/
def numbers (first last stride : Nat) : List Nat :=
  (List.range ((last + 1 - first + stride - 1) / stride)).map fun i => first + i * stride

/-- Carries out one step. -/
def carryOut (b : Bench) : BenchStep → BenchResult × Bench
  | .new backend => b.renew backend
  | .dropCache => b.plain .discard
  | .bind index => b.bind index
  | .kernel version => b.plain (.setKernel version)
  | .residency policy => b.plain (.setPolicy policy)
  | .probe probe => b.plain (.setProbe probe)
  | .metrics counting => b.plain (.setCounting counting)
  | .options value => b.options value
  | .setLimit limit => b.accepted (.setLimit limit)
  | .info => (b.ask b.info, b)
  | .counters => (.table b.session.counters.snapshot, b)
  | .acquire gfn =>
    let (reply, b) := b.acquire gfn
    (b.acquired reply, b)
  | .status gfn =>
    let (reply, b) := b.acquire gfn
    (statusOf reply, b)
  | .acquireMany pages => b.onPages pages fun gfns =>
    let (results, b) := b.acquireEach gfns
    (.many results, b)
  | .churn pages => b.onPages pages fun gfns =>
    match b.churnEach gfns with
    | (.ok results, b) => (.many results, b)
    | (.error f, b) => (.broken f, b)
  | .release handle => b.onHandle handle fun h => b.plain (.release h)
  | .releaseMany first last stride =>
    if b.session.cache.isNone then (.misused Misuse.noCache.text, b)
    else
      let (faults, b) := b.releaseEach (numbers first last stride)
      (.failed faults, b)
  | .contains gfn => (b.ask fun c => .flag (c.contains gfn), b)
  | .refs gfn => (b.ask fun c => refs c gfn, b)
  | .page handle => b.onHandle handle fun h =>
    (b.ask fun c => match c.store.gfnOf? h with
      | some gfn => .number gfn.number.toNat
      | none => .absent, b)
  | .dump => (b.ask dump, b)
  | .get gfn guard =>
    let cached := b.caches gfn
    match b.perform (.get gfn guard) with
    | (.lease lease, b) =>
      let b := b.count cached lease.handle
      (b.acquired (.lease lease), b)
    | (reply, b) => (plainResult reply, b)
  | .drop guard => b.plain (.dropGuard guard)
  | .guardInfo guard => (b.guardInfo guard, b)
  | .read guard offset count => b.plain (.read guard offset count)
  | .write guard offset bytes => b.accepted (.write guard offset bytes)
  | .readWord guard offset => b.plain (.readWord guard offset)
  | .writeWord guard offset value => b.accepted (.writeWord guard offset value)
  | .readHeader guard offset => b.plain (.readHeader guard offset)
  | .writeHeader guard offset value => b.accepted (.writeHeader guard offset value)
  | .backendInfo index => b.onBackend index fun backend => (.backend (accounts backend), b)
  | .failMaps index gfn failure => b.changeBackend index fun backend =>
    { backend with
      failures := match failure with
        | some failure => backend.failures.insert gfn failure
        | none => backend.failures.erase gfn }
  | .setLength index gfn size => b.changeBackend index fun backend =>
    { backend with sizes := backend.sizes.insert gfn size }
  | .setPageSize index size => b.changeBackend index (·.claim size)
  | .shrink index gfn size => b.shrink index gfn size
  | .alias index gfn other => b.changeBackend index fun backend =>
    { backend with aliases := backend.aliases.insert gfn other }
  | .fileContent index offset count => b.onBackend index fun _ =>
    match b.session.world.image? index with
    | some image => (.fileBytes (image.file.read offset count), b)
    | none => (.fileBytes [], b)
  | .resident gfn answer => b.outside fun w =>
    { w with residents := w.residents.insert gfn answer }
  | .unknown name => (.misused ("unknown step " ++ name), b)

/-- The pages that a journal, its oldest act first, gives back. -/
def unmappedIn (acts : List (Act Nat BenchProbe BenchPage)) : List Gfn :=
  acts.filterMap fun
    | .unmapped page => some page.gfn
    | _ => none

def eventsIn (acts : List (Act Nat BenchProbe BenchPage)) : List Event :=
  acts.filterMap fun
    | .told event => some event
    | _ => none

/-- The questions to the table of the probe, each about the page that was mapped last. -/
def probedIn (last : Gfn) : List (Act Nat BenchProbe BenchPage) → List (Gfn × Nat)
  | .mapped _ gfn _ (.ok _) :: rest => probedIn gfn rest
  | .probed .table _ size _ :: rest => (last, size) :: probedIn last rest
  | _ :: rest => probedIn last rest
  | [] => []

/-- Whether a step gives back whole caches, whose pages have no order. -/
def givesBackAll : BenchStep → Bool
  | .new _ | .bind _ | .dropCache | .options _ => true
  | _ => false

def sorted (pages : List Gfn) : List Gfn := pages.mergeSort fun p q => p.number ≤ q.number

/-- Carries out one step with an empty journal, and reports on it. -/
def report (traced : Bool) (b : Bench) (step : BenchStep) : BenchReport × Bench :=
  let last := b.session.world.lastMapped.getD ⟨0⟩
  let (result, b) := { b with session := { b.session with journal := [] } }.carryOut step
  let acts := b.session.journal.reverse
  let unmapped := unmappedIn acts
  ({ result
     size := b.size
     unmapped := if givesBackAll step then sorted unmapped else unmapped
     probed := probedIn last acts
     events := (eventsIn acts).filter fun e => traced || e.level ≠ .trace }, b)

/-- Carries out steps one after another. -/
def reports (traced : Bool) (b : Bench) : List BenchStep → List BenchReport × Bench
  | [] => ([], b)
  | step :: rest =>
    let (first, b) := b.report traced step
    let (others, b) := b.reports traced rest
    (first :: others, b)

/-- A whole trial. It ends like a `dropCache` step, after which the accounts of all backends are
taken. -/
def trial (traced : Bool) (backends : List Backend) (steps : List BenchStep) :
    List BenchReport × BenchReport × List BackendInfo :=
  let (all, b) := (start backends).reports traced steps
  let (last, b) := b.report traced .dropCache
  (all, last, b.session.world.backends.toList.map accounts)

end Bench

end ForeignPages
