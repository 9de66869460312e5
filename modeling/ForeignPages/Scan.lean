import ForeignPages.Acquire
import ForeignPages.Binding
import ForeignPages.Guard
import ForeignPages.Image.Host
import ForeignPages.Release

namespace ForeignPages

/-- One line of what a scan prints. -/
inductive ScanLine
  | told (event : Event)
  | counter (name : String) (count : Nat)

/-- The line without what depends on the machine. -/
def ScanLine.text : ScanLine → String
  | told event => event.line
  | counter name count => name ++ ": " ++ toString count

/-- The line with all that is logged. -/
def ScanLine.whole : ScanLine → String
  | told event => event.entry.line
  | counter name count => name ++ ": " ++ toString count

/-- Why a scan ends early. -/
inductive ScanFailure
  | image (e : ImageError)
  | map (e : MapError)
  | broken (f : Fault)

/-- The structural form of the error. -/
def ScanFailure.inspect : ScanFailure → String
  | image e => e.inspect
  | map e => e.inspect
  | broken f => f.text

/-- What a scan leaves behind: the lines of its output, and how it failed if it did. -/
structure ScanReport where
  lines : List ScanLine
  failure : Option ScanFailure

/-- The exit code of a scan. -/
def ScanReport.code (r : ScanReport) : Nat :=
  match r.failure with
  | none => 0
  | some (.broken _) => 101
  | some _ => 1

namespace Scan

/-- The limit of the cache that a scan uses. -/
def limit : Nat := 64

/-- How many pages stay pinned. -/
def pinnedPages : Nat := 8

/-- The pages with the lowest numbers. -/
def firstPages (count : Nat) : List Gfn := (List.range count).map fun n => ⟨UInt64.ofNat n⟩

abbrev ScanMachine := Machine ImageWorld ImageDriver Unit ImagePage

variable (place : Nat → Handle)

/-- Takes a guard for a page. -/
def take (m : ScanMachine) (gfn : Gfn) : Except ScanFailure Guard × ScanMachine :=
  match m.acquire (imageHost place) gfn .guard with
  | (.done lease, m) => (.ok ⟨gfn, lease.handle, lease.size⟩, m)
  | (.refused e, m) => (.error (.map e), m)
  | (.broken f, m) => (.error (.broken f), m)

/-- Drops guards. -/
def dropAll (m : ScanMachine) (guards : List Guard) : ScanMachine :=
  guards.foldl (fun m g => (m.releaseGuard g.gfn).2) m

/-- Takes guards for pages, or for none of them. -/
def pin (m : ScanMachine) : List Gfn → Except ScanFailure (List Guard) × ScanMachine
  | [] => (.ok [], m)
  | gfn :: rest => match take place m gfn with
    | (.error e, m) => (.error e, m)
    | (.ok g, m) => match pin m rest with
      | (.error e, m) => (.error e, dropAll m [g])
      | (.ok guards, m) => (.ok (g :: guards), m)

/-- Reads the number that a page starts with. -/
def visit (m : ScanMachine) (gfn : Gfn) : Except ScanFailure UInt64 × ScanMachine :=
  match take place m gfn with
  | (.error e, m) => (.error e, m)
  | (.ok g, m) =>
    let value := m.readAs (imageHost place) .word64 g 0
    (value.mapError .map, dropAll m [g])

/-- Visits pages, and combines the numbers that they start with. -/
def sweep (m : ScanMachine) (checksum : UInt64) : List Gfn →
    Except ScanFailure UInt64 × ScanMachine
  | [] => (.ok checksum, m)
  | gfn :: rest => match visit place m gfn with
    | (.error e, m) => (.error e, m)
    | (.ok value, m) => sweep m (checksum ^^^ value) rest

/-- The events of a journal, the oldest first. A scan prints no traces. -/
def told (m : ScanMachine) : List ScanLine :=
  m.journal.reverse.filterMap fun
    | .told event => if event.level = .trace then none else some (.told event)
    | _ => none

/-- Ends a scan early. -/
def abort (m : ScanMachine) (failure : ScanFailure) : ScanReport :=
  ⟨told (m.destroy (imageHost place)), some failure⟩

/-- Tells about each pinned page how many references it has. -/
def tellPinned (m : ScanMachine) (guards : List Guard) : Except Fault ScanMachine :=
  guards.foldlM (fun m g => do
    let references ← m.cache.references? g.gfn
    return m.tell (.pagePinned g.gfn (references.map (·.toNat)))) m

/-- Asks for the page behind the last one, and tells what becomes of it. -/
def askPastTheEnd (m : ScanMachine) (last : Gfn) : Except Fault ScanMachine :=
  match add64? last.number 1 with
  | none => .error .additionOverflow
  | some next => match m.acquire (imageHost place) ⟨next⟩ .handle with
    | (.done _, m) => .ok (m.tell (.pastTheEnd .success))
    | (.refused e, m) => .ok (m.tell (.pastTheEnd e.status))
    | (.broken f, _) => .error f

/-- What a scan tells when all pages were visited. -/
def conclude (m : ScanMachine) (d : ImageDriver) (guards : List Guard) (checksum : UInt64) :
    Except Fault ScanMachine := do
  let live ← m.cache.store.size?
  let pages ← match add64? d.maxGfn.number 1 with
    | some pages => .ok pages
    | none => .error .additionOverflow
  let m := m.tell (.scanFinished pages.toNat live m.cache.limit checksum.toNat)
  let m ← tellPinned m guards
  askPastTheEnd place m d.maxGfn

/-- Scans the pages of an image through a configured cache. The first pages stay pinned while every
page is read once and released right away, so the cache has to make room again and again. -/
def scanPages (m : ScanMachine) (d : ImageDriver) : ScanReport :=
  match pin place m (firstPages pinnedPages) with
  | (.error e, m) => abort place m e
  | (.ok guards, m) => match sweep place m 0 (firstPages (d.maxGfn.number.toNat + 1)) with
    | (.error e, m) => abort place (dropAll m guards) e
    | (.ok checksum, m) => match conclude place m d guards checksum with
      | .error f => abort place (dropAll m guards) (.broken f)
      | .ok m =>
        let m := dropAll m guards
        let counters := m.counters.snapshot.map fun (name, count) => .counter name count.toNat
        let ended := { m with journal := [] }.destroy (imageHost place)
        ⟨told m ++ counters ++ told ended, none⟩

/-- Where the image lies that is scanned when none is given. -/
def samplePath : String := "/tmp/vmi-cache-demo.raw"

/-- A scan of an image that could not be opened. -/
def unopenedAt (path : String) (e : ImageError) : ScanReport :=
  ⟨[.told (.scanStarted path)], some (.image e)⟩

def unopened (e : ImageError) : ScanReport := unopenedAt samplePath e

/-- Scans the image at a path with a driver that was opened for it, or that could not be opened. -/
def run (world : ImageWorld) (opened : Except ImageError ImageDriver) (path : String) :
    ScanReport :=
  match opened with
  | .error e => unopenedAt path e
  | .ok d =>
    let host := imageHost place
    let empty : ScanMachine := ⟨.unbound host, world, .empty, []⟩
    let m := (empty.tell (.scanStarted path)).tell (.imageOpened d.pages.toNat d.writable)
    let m := (m.bind host d).withCounters
    match m.withOptions host ⟨limit, true⟩ with
    | (.error e, m) => ⟨told m, some (.map e)⟩
    | (.ok (), m) => scanPages place m d

/-- Where the pages of a scan are mapped. -/
def addressOf (serial : Nat) : Handle := ⟨UInt64.ofNat (0x100_0000_0000 + serial * pageBytes.toNat)⟩

/-- The image that is scanned when none is given: each page starts with its own number. -/
def sampleImage : ImageFile :=
  .ofBytes (256 * pageBytes) fun i =>
    if i % 4096 < 8 then (littleEndian 8 (i / 4096)).getD (i % 4096) 0 else 0

/-- Scans the file at a path that was opened for reading and writing. -/
def ofFileAt (path : String) (file : ImageFile) (release : Except IoError (List UInt8)) :
    ScanReport :=
  run place (.ofFile file release) (ImageDriver.ofSize file.size .readWrite true) path

/-- Scans a file that lies where the sample image does. -/
def ofFile (file : ImageFile) (release : Except IoError (List UInt8)) : ScanReport :=
  ofFileAt place samplePath file release

end Scan

end ForeignPages
