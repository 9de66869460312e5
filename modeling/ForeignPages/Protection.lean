import ForeignPages.Blank
import ForeignPages.Hex

namespace ForeignPages

/-- What may be done with a mapped page: a byte of flags, of which two have a name. Unknown bits are
kept. -/
structure Protection where
  bits : UInt8
deriving DecidableEq, Inhabited

namespace Protection

def empty : Protection := ⟨0⟩

/-- The page may be read. -/
def r : Protection := ⟨1⟩

/-- The page may be written. -/
def w : Protection := ⟨2⟩

def rw : Protection := ⟨3⟩

/-- The bits that have a name. -/
def known : UInt8 := rw.bits

/-- All flags of `q` are set in `p`. -/
def contains (p q : Protection) : Bool := p.bits &&& q.bits = q.bits

def intersects (p q : Protection) : Bool := p.bits &&& q.bits ≠ 0

def isEmpty (p : Protection) : Bool := p.bits = 0

/-- All flags with a name are set, whatever the other bits are. -/
def isAll (p : Protection) : Bool := known ||| p.bits = p.bits

/-- The flags of a byte, unless a bit has no name. -/
def ofBits? (b : UInt8) : Option Protection := if b &&& known = b then some ⟨b⟩ else none

/-- The flags of a byte without its unknown bits. -/
def truncate (b : UInt8) : Protection := ⟨b &&& known⟩

def union (p q : Protection) : Protection := ⟨p.bits ||| q.bits⟩

def intersection (p q : Protection) : Protection := ⟨p.bits &&& q.bits⟩

/-- The bits of `p` that are not set in `q`, unknown ones included. -/
def difference (p q : Protection) : Protection := ⟨p.bits &&& ~~~q.bits⟩

def toggle (p q : Protection) : Protection := ⟨p.bits ^^^ q.bits⟩

/-- The named flags that are not set. -/
def complement (p : Protection) : Protection := truncate (~~~p.bits)

/-- One letter for each right that is granted, a dash for one that is not. -/
def text (p : Protection) : String :=
  (if p.contains r then "r" else "-") ++ (if p.contains w then "w" else "-")

/-- The names of the set flags, and the other bits as one number. -/
def parts (p : Protection) : List String :=
  let rest := p.bits &&& ~~~known
  (if p.contains r then ["R"] else []) ++ (if p.contains w then ["W"] else []) ++
    (if rest = 0 then [] else ["0x" ++ Hex.padded 1 rest.toNat])

/-- The flags as a list that `ofList?` reads back. -/
def list (p : Protection) : String := " | ".intercalate p.parts

/-- The structural form, in which an empty set of flags shows its byte. -/
def inspect (p : Protection) : String :=
  "Protection(" ++ (if p.isEmpty then "0x0" else p.list) ++ ")"

/-- The byte that hexadecimal digits write, after an optional plus sign. -/
def byteOfHex? (cs : List Char) : Option UInt8 := do
  let value ← Hex.read? (match cs with | '+' :: rest => rest | _ => cs)
  if value < 256 then some (UInt8.ofNat value) else none

/-- One part of a list of flags: a name, or bits as a hexadecimal number. -/
def part? : List Char → Option UInt8
  | ['R'] => some r.bits
  | ['W'] => some w.bits
  | ['R', 'W'] => some rw.bits
  | '0' :: 'x' :: digits => byteOfHex? digits
  | _ => none

/-- Reads a list of flags between bars. Blanks around a part do not matter, a blank text is the
empty set, and an empty part is refused. -/
def ofList? (s : String) : Option Protection :=
  match trim s.toList with
  | [] => some empty
  | cs => do
    let bytes ← (splitAt (· = '|') cs).mapM fun part => part? (trim part)
    return ⟨bytes.foldl (· ||| ·) 0⟩

end Protection

end ForeignPages
