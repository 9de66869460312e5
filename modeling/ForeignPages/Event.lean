import ForeignPages.MapError
import ForeignPages.Residency

namespace ForeignPages

inductive Level
  | trace | debug | info | warn | error
deriving DecidableEq

def Level.name : Level → String
  | trace => "TRACE"
  | debug => "DEBUG"
  | info => "INFO"
  | warn => "WARN"
  | error => "ERROR"

/-- What is worth telling about a cache, an image or a scan. What happened is a value; its level,
wording and fields are stated once, by `Event.entry`. -/
inductive Event
  | pageMapped (gfn : Gfn) (handle : Handle)
  /-- The version of the host kernel decided about the residency policy. -/
  | policySelected (version : Option KernelVersion)
  /-- Unused pages were evicted to make room: `deleted` of the `unused` ones among `total`. -/
  | cleanedUp (total unused deleted : Nat)
  /-- A cache is gone, and with it the `count` pages that it still held. -/
  | destroyed (count : Nat)
  | imageOpened (pages : Nat) (writable : Bool)
  /-- A handle of a page that only guards hold was released. -/
  | releasedUnreferenced (gfn : Gfn) (guards : Nat)
  | mapFailed (gfn : Gfn) (source : IoError)
  | notResident (gfn : Gfn)
  | probeFailed (gfn : Gfn) (source : IoError)
  | releaseUnreadable (path : String) (source : IoError)
  | releaseMalformed (release : String)
  | scanStarted (path : String)
  | scanFinished (pages live limit checksum : Nat)
  | pagePinned (gfn : Gfn) (references : Option Nat)
  | pastTheEnd (status : MapStatus)
deriving DecidableEq

/-- The value of a field. -/
inductive Field
  | number (n : Nat)
  | flag (b : Bool)
  | text (s : String)
deriving DecidableEq

/-- An entry of the log. -/
structure LogEntry where
  level : Level
  message : String
  fields : List (String × Field)
deriving DecidableEq

/-- A field as it stands in a line of text. -/
def Field.line : Field → String
  | number n => toString n
  | flag b => if b then "true" else "false"
  | text s => s

/-- The entry as a line of text. -/
def LogEntry.line (e : LogEntry) : String :=
  e.level.name ++ " " ++ e.message ++
    String.join (e.fields.map fun (key, value) => " " ++ key ++ "=" ++ value.line)

/-- The structural form of a value that may be missing. -/
def inspectOption {α : Type} (inspect : α → String) : Option α → String
  | some a => "Some(" ++ inspect a ++ ")"
  | none => "None"

namespace Event

def level : Event → Level
  | pageMapped .. => .trace
  | policySelected _ | cleanedUp .. | destroyed _ | imageOpened .. => .debug
  | scanStarted _ | scanFinished .. | pagePinned .. | pastTheEnd _ => .info
  | releasedUnreferenced .. => .warn
  | mapFailed .. | notResident _ | probeFailed .. | releaseUnreadable .. |
    releaseMalformed _ => .error

def message : Event → String
  | pageMapped .. => "page mapped"
  | policySelected _ => "residency check selected"
  | cleanedUp .. => "page cache cleanup"
  | destroyed _ => "page cache destroyed"
  | imageOpened .. => "memory image opened"
  | releasedUnreferenced .. => "released a page without raw references"
  | mapFailed .. => "failed to map page"
  | notResident _ => "page not resident"
  | probeFailed .. => "residency check failed"
  | releaseUnreadable .. => "cannot access kernel release"
  | releaseMalformed _ => "cannot parse kernel release"
  | scanStarted _ => "opening memory image"
  | scanFinished .. => "scan finished"
  | pagePinned .. => "pinned page"
  | pastTheEnd _ => "mapping past the end"

/-- The fields of the event, in the order in which they are logged. -/
def details : Event → List (String × Field)
  | pageMapped gfn handle => [("gfn", .text gfn.text), ("handle", .text handle.text)]
  | policySelected version =>
    [("version", .text (inspectOption KernelVersion.inspect version)),
      ("residency", .text (Residency.forKernel version).name)]
  | cleanedUp total unused deleted =>
    [("total", .number total), ("unused", .number unused), ("deleted", .number deleted)]
  | destroyed count => [("count", .number count)]
  | imageOpened pages writable => [("pages", .number pages), ("writable", .flag writable)]
  | releasedUnreferenced gfn guards => [("gfn", .text gfn.text), ("guards", .number guards)]
  | mapFailed gfn source => [("gfn", .text gfn.text), ("source", .text source.text)]
  | notResident gfn => [("gfn", .text gfn.text)]
  | probeFailed gfn source => [("gfn", .text gfn.text), ("err", .text source.text)]
  | releaseUnreadable path source => [("path", .text path), ("err", .text source.text)]
  | releaseMalformed release => [("release", .text release)]
  | scanStarted path => [("path", .text path)]
  | scanFinished pages live limit checksum =>
    [("pages", .number pages), ("live", .number live), ("limit", .number limit),
      ("checksum", .number checksum)]
  | pagePinned gfn references =>
    [("gfn", .text gfn.text), ("refs", .text (inspectOption toString references))]
  | pastTheEnd status => [("status", .text status.text)]

/-- What is logged about the event. -/
def entry (e : Event) : LogEntry := ⟨e.level, e.message, e.details⟩

/-- The fields that do not depend on the machine: neither where a page lies, nor which kernel the
host runs, nor where a file is. -/
def fields (e : Event) : List (String × Field) :=
  e.details.filter fun (key, _) => key ≠ "handle" ∧ key ≠ "version" ∧ key ≠ "path"

/-- The event as a line of text that does not depend on the machine. -/
def line (e : Event) : String := { e.entry with fields := e.fields }.line

end Event

end ForeignPages
