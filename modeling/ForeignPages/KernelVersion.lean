import ForeignPages.Blank

namespace ForeignPages

/-- The version of the host kernel, as far as it matters: the two leading numbers of its release
text. -/
structure KernelVersion where
  major : UInt32
  minor : UInt32
deriving DecidableEq, Inhabited

namespace KernelVersion

def text (v : KernelVersion) : String :=
  toString v.major.toNat ++ "." ++ toString v.minor.toNat

/-- The structural form. -/
def inspect (v : KernelVersion) : String :=
  "KernelVersion \x7b major: " ++ toString v.major.toNat ++ ", minor: " ++ toString v.minor.toNat ++
    " \x7d"

/-- Versions are ordered by their major numbers first. -/
def compare (v w : KernelVersion) : Ordering :=
  (Ord.compare v.major.toNat w.major.toNat).then (Ord.compare v.minor.toNat w.minor.toNat)

/-- An ASCII digit. No other script's digits occur in a release text. -/
def isDigit (c : Char) : Bool := '0' ≤ c && c ≤ '9'

/-- The value of a row of digits. -/
def decimal (digits : List Char) : Nat :=
  digits.foldl (fun high c => 10 * high + (c.toNat - '0'.toNat)) 0

/-- The value of a row of digits, if there are any and it fits a 32-bit word. -/
def number? (digits : List Char) : Option UInt32 :=
  if digits = [] ∨ UInt32.size ≤ decimal digits then none else some (UInt32.ofNat (decimal digits))

/-- Reads a release text such as `5.15.0-91-generic`: the digits that it starts with, blanks
aside, and those after the one character behind them. A minor number that is missing or too large
counts as zero. -/
def ofRelease? (release : List Char) : Option KernelVersion :=
  match splitAt (! isDigit ·) (trim release) with
  | [] => none
  | first :: rest => do
    let major ← number? first
    return ⟨major, (rest.head?.bind number?).getD 0⟩

end KernelVersion

end ForeignPages
