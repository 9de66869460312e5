import ForeignPages.Event

namespace ForeignPages

/-- The text that bytes spell, if they spell one. -/
def decodeText (bytes : List UInt8) : Except IoError String :=
  match String.fromUTF8? bytes.toByteArray with
  | some text => .ok text
  | none => .error (.custom .invalidData "stream did not contain valid UTF-8")

namespace KernelVersion

/-- The version that the content of a file with a release text gives, and what there is to tell
about it. A failure is told, but it stops nobody: the version is then unknown. -/
def read (path : String) (content : Except IoError (List UInt8)) :
    Option KernelVersion × List Event :=
  match content.bind decodeText with
  | .error source => (none, [.releaseUnreadable path source])
  | .ok release =>
    match ofRelease? release.toList with
    | some version => (some version, [])
    | none => (none, [.releaseMalformed (String.ofList (trim release.toList))])

/-- The file that holds the release text of the host kernel. -/
def releasePath : String := "/proc/sys/kernel/osrelease"

/-- The version of the host kernel, by the content of its release file. -/
def ofFile (content : Except IoError (List UInt8)) : Option KernelVersion × List Event :=
  read releasePath content

end KernelVersion

end ForeignPages
