namespace ForeignPages

/-- A structured value, as a configuration file or a message holds it. Whole numbers are kept apart
from all others, because no quantity here is ever read from a fraction. -/
inductive Value
  | null
  | flag (b : Bool)
  | whole (n : Int)
  /-- A number that was not written as a whole one, or is beyond 64 bits. -/
  | fraction
  | text (s : String)
  | list (items : List Value)
  | record (fields : List (String × Value))
deriving Inhabited

namespace Value

/-- The field of a record; of several with one name, the last. -/
def field? (name : String) : Value → Option Value
  | record fields => fields.reverse.lookup name
  | _ => none

/-- A whole number from zero to below `bound`. -/
def below? (bound : Nat) : Value → Option Nat
  | whole n => if 0 ≤ n ∧ n < bound then some n.toNat else none
  | _ => none

/-- A whole number of 64 bits. -/
def word64? (v : Value) : Option UInt64 := (v.below? UInt64.size).map UInt64.ofNat

/-- A whole number of 32 bits. -/
def word32? (v : Value) : Option UInt32 := (v.below? UInt32.size).map UInt32.ofNat

def flag? : Value → Option Bool
  | flag b => some b
  | _ => none

def text? : Value → Option String
  | text s => some s
  | _ => none

/-- A number of the library as a value. -/
def ofNat (n : Nat) : Value := whole n

end Value

end ForeignPages
