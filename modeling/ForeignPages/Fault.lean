import ForeignPages.Frame

namespace ForeignPages

/-- A broken expectation. It is nobody's answer: it ends the operation that runs into it, and what
was done until then stays done. -/
inductive Fault
  /-- A counter or the clock has no next value. -/
  | additionOverflow
  | subtractionOverflow
  /-- A new page has the address of a page that is still cached. -/
  | handleTaken
  | pageTaken
  /-- The two indices of a store have come apart. -/
  | sizesDiffer (pages handles : Nat)
  /-- A handle was released more often than it was acquired. -/
  | overReleased (gfn : Gfn)
  | guardMissing (gfn : Gfn)
deriving DecidableEq

/-- The wording of a fault. -/
def Fault.text : Fault → String
  | additionOverflow => "attempt to add with overflow"
  | subtractionOverflow => "attempt to subtract with overflow"
  | handleTaken => "mapping handle already cached"
  | pageTaken => "page already cached"
  | sizesDiffer pages handles =>
    "assertion `left == right` failed\n  left: " ++ toString pages ++ "\n right: " ++
      toString handles
  | overReleased gfn => "page " ++ gfn.text ++ " released too many times"
  | guardMissing gfn => "page " ++ gfn.text ++ " has no guards"

end ForeignPages
