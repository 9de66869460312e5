import ForeignPages.Frame
import ForeignPages.IoError

namespace ForeignPages

/-- Why a request was refused. -/
inductive MapError
  /-- No driver is bound. -/
  | noSession
  /-- The page could not be mapped, or not as exactly one page. -/
  | mapFailed (gfn : Gfn) (source : IoError)
  /-- The page was mapped but has no memory behind it, or is not cached any more. -/
  | pageNotPresent (gfn : Gfn)
  | limitTooSmall (requested minimum : Nat)
  /-- An access outside of the page. -/
  | outOfBounds
deriving DecidableEq

/-- The outcome of an acquisition. -/
inductive MapStatus
  | success | genericFailure | pageNotPresent
deriving DecidableEq

namespace MapStatus

def text : MapStatus → String
  | success => "success"
  | genericFailure => "generic failure"
  | pageNotPresent => "page not present"

/-- The structural form. -/
def inspect : MapStatus → String
  | success => "Success"
  | genericFailure => "GenericFailure"
  | pageNotPresent => "PageNotPresent"

def ofName? (s : String) : Option MapStatus :=
  [success, genericFailure, pageNotPresent].find? (·.inspect = s)

end MapStatus

namespace MapError

/-- Only a page without memory has a status of its own. -/
def status : MapError → MapStatus
  | pageNotPresent _ => .pageNotPresent
  | _ => .genericFailure

/-- The failure below this one. -/
def source? : MapError → Option IoError
  | mapFailed _ source => some source
  | _ => none

def name : MapError → String
  | noSession => "NoSession"
  | mapFailed .. => "MapFailed"
  | pageNotPresent _ => "PageNotPresent"
  | limitTooSmall .. => "LimitTooSmall"
  | outOfBounds => "OutOfBounds"

/-- What the caller is told. -/
def text : MapError → String
  | noSession => "The page cache is not bound to a session."
  | mapFailed gfn source => "Failed to map page " ++ gfn.text ++ ": " ++ source.text
  | pageNotPresent gfn => "Page not present (" ++ gfn.text ++ ")"
  | limitTooSmall requested minimum =>
    "Cache limit " ++ toString requested ++ " is below the minimum of " ++ toString minimum
  | outOfBounds => "Out of bounds"

/-- The structural form. -/
def inspect : MapError → String
  | noSession => "NoSession"
  | mapFailed gfn source =>
    "MapFailed \x7b gfn: " ++ gfn.text ++ ", source: " ++ source.inspect ++ " \x7d"
  | pageNotPresent gfn => "PageNotPresent \x7b gfn: " ++ gfn.text ++ " \x7d"
  | limitTooSmall requested minimum =>
    "LimitTooSmall \x7b requested: " ++ toString requested ++ ", minimum: " ++ toString minimum ++
      " \x7d"
  | outOfBounds => "OutOfBounds"

end MapError

end ForeignPages
