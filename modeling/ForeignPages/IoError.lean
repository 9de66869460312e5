import ForeignPages.Quoted
import ForeignPages.SystemError

namespace ForeignPages

/-- A failure, with what is known of it. -/
inductive IoError
  | system (code : Int32)
  | plain (kind : IoKind)
  | custom (kind : IoKind) (message : String)
deriving DecidableEq, Inhabited

namespace IoError

def kind : IoError → IoKind
  | system code => (systemError code).1
  | plain kind => kind
  | custom kind _ => kind

/-- The error code, where the failure came with one. -/
def code? : IoError → Option Int32
  | system code => some code
  | _ => none

/-- What a reader of a log is told. -/
def text : IoError → String
  | system code => (systemError code).2 ++ " (os error " ++ toString code.toInt ++ ")"
  | plain kind => kind.message
  | custom _ message => message

/-- The structural form. -/
def inspect : IoError → String
  | system code =>
    "Os \x7b code: " ++ toString code.toInt ++ ", kind: " ++ (systemError code).1.name ++
      ", message: " ++ quoted (systemError code).2 ++ " \x7d"
  | plain kind => "Kind(" ++ kind.name ++ ")"
  | custom kind message =>
    "Custom \x7b kind: " ++ kind.name ++ ", error: " ++ quoted message ++ " \x7d"

end IoError

end ForeignPages
