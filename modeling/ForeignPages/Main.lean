import ForeignPages.Scan

namespace ForeignPages.Main

/-- A failure to read a file, as far as its cause is known. -/
def ioErrorOf : IO.Error → IoError
  | .noFileOrDirectory .. => .system 2
  | .permissionDenied .. => .system 13
  | e => .custom .other (toString e)

/-- The content of a file. -/
def content (path : String) : IO (Except IoError ByteArray) := do
  try return .ok (← IO.FS.readBinFile path)
  catch e => return .error (ioErrorOf e)

/-- The bytes of a file as an image. -/
def imageOf (bytes : ByteArray) : ImageFile where
  size := UInt64.ofNat bytes.size
  byte i := bytes.data.getD i 0

/-- What a scan of the file at a path reports, or of the sample image. -/
def scan (path : Option String) (release : Except IoError (List UInt8)) : IO ScanReport := do
  match path with
  | none => return Scan.ofFile Scan.addressOf Scan.sampleImage release
  | some path => match ← content path with
    | .ok bytes => return Scan.ofFileAt Scan.addressOf path (imageOf bytes) release
    | .error source => return Scan.unopenedAt path (.io source)

end ForeignPages.Main

open ForeignPages in
/-- Prints what a scan tells, and its failure apart from that. -/
def main (args : List String) : IO UInt32 := do
  let release ← Main.content KernelVersion.releasePath
  let report ← Main.scan args.head? (release.map fun bytes => bytes.data.toList)
  for line in report.lines do
    IO.println line.whole
  match report.failure with
  | none => pure ()
  | some failure => IO.eprintln ("Error: " ++ failure.inspect)
  return UInt32.ofNat report.code
