import ForeignPages.Index
import ForeignPages.Word

namespace ForeignPages

/-- A table of named counters. A name that was never counted stands at zero. -/
structure Counters where
  cells : Index String UInt64 := .empty

namespace Counters

def empty : Counters := {}

def get (t : Counters) (name : String) : UInt64 := (t.cells.find? name).getD 0

/-- All counters, sorted by name. -/
def snapshot (t : Counters) : List (String × UInt64) :=
  t.cells.cells.mergeSort fun c d => decide (c.1 ≤ d.1)

/-- One more for a name, unless its counter is full. -/
def increment? (t : Counters) (name : String) : Option Counters :=
  (add64? (t.get name) 1).map fun next => ⟨t.cells.insert name next⟩

/-- The structural form of a table without counters. -/
def inspectEmpty : String := "Counters \x7b counters: RefCell \x7b value: \x7b\x7d \x7d \x7d"

/-- An increment moves one counter by one and leaves all others alone. -/
theorem get_of_increment? {t u : Counters} {name : String} (counted : t.increment? name = some u)
    (other : String) :
    (u.get other).toNat = (t.get other).toNat + if other = name then 1 else 0 := by
  obtain ⟨next, sum, rfl⟩ := Option.map_eq_some_iff.mp counted
  by_cases same : other = name
  · subst same
    have value := add64?_eq_some.mp sum
    simpa [get] using value
  · simp [get, same]

end Counters

end ForeignPages
