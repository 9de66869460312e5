import ForeignPages.Fault
import ForeignPages.Index
import ForeignPages.Word

namespace ForeignPages

/-- Who takes a reference to a page. -/
inductive Holder
  /-- Somebody who keeps the bare handle and has to release it. -/
  | handle
  /-- A guard, which releases its reference when it is dropped. -/
  | guard
deriving DecidableEq

/-- One mapped page. -/
structure Entry (Page : Type) where
  gfn : Gfn
  handle : Handle
  /-- The clock at the last acquisition. -/
  lastUse : UInt64
  /-- How many holders have the bare handle. -/
  refs : UInt32
  /-- How many guards hold the page. -/
  guards : UInt32
  page : Page

namespace Entry

variable {Page : Type}

/-- One more reference, unless its counter is full. -/
def pin? (e : Entry Page) : Holder → Option (Entry Page)
  | .handle => (add32? e.refs 1).map fun refs => { e with refs }
  | .guard => (add32? e.guards 1).map fun guards => { e with guards }

/-- All references to the page, if their sum is a 32-bit word. -/
def references? (e : Entry Page) : Option UInt32 := add32? e.refs e.guards

/-- The order in which unused pages are evicted: by their last use, then by number. -/
def evictedBefore (e f : Entry Page) : Bool :=
  e.lastUse < f.lastUse || (e.lastUse == f.lastUse && decide (e.gfn.number ≤ f.gfn.number))

end Entry

/-- The pages of a cache, found by frame number and by handle. The two indices are separate: what
one of them says about the other is a matter of theorems, not of the type. -/
structure Store (Page : Type) where
  byGfn : Index Gfn (Entry Page)
  byHandle : Index Handle Gfn

/-- What became of a page that was put into a store. -/
inductive Placed (Page : Type)
  | fresh
  /-- Its handle was known already. The handle now leads to the new page's number, but the page
  itself is not in the store. -/
  | handleKnown
  /-- Its number was known already; the old entry has left the store. -/
  | pageKnown (old : Entry Page)

namespace Store

variable {Page : Type}

def empty : Store Page := ⟨.empty, .empty⟩

def entries (s : Store Page) : List (Entry Page) := s.byGfn.values

def find? (s : Store Page) (gfn : Gfn) : Option (Entry Page) := s.byGfn.find? gfn

/-- The page to which a handle refers. -/
def gfnOf? (s : Store Page) (h : Handle) : Option Gfn := s.byHandle.find? h

def change (s : Store Page) (gfn : Gfn) (f : Entry Page → Entry Page) : Store Page :=
  { s with byGfn := s.byGfn.change gfn f }

/-- The number of pages, on which both indices have to agree. -/
def size? (s : Store Page) : Except Fault Nat :=
  if s.byGfn.size = s.byHandle.size then .ok s.byGfn.size
  else .error (.sizesDiffer s.byGfn.size s.byHandle.size)

/-- Enters a page into the index of handles and then into that of numbers. -/
def insert (s : Store Page) (e : Entry Page) : Placed Page × Store Page :=
  let indexed := { s with byHandle := s.byHandle.insert e.handle e.gfn }
  match s.byHandle.find? e.handle with
  | some _ => (.handleKnown, indexed)
  | none =>
    let stored := { indexed with byGfn := s.byGfn.insert e.gfn e }
    match s.byGfn.find? e.gfn with
    | some old => (.pageKnown old, stored)
    | none => (.fresh, stored)

/-- Takes a page out of the store, together with the key of its handle. -/
def remove (s : Store Page) (gfn : Gfn) : Option (Entry Page) × Store Page :=
  match s.byGfn.find? gfn with
  | none => (none, s)
  | some e => (some e, ⟨s.byGfn.erase gfn, s.byHandle.erase e.handle⟩)

@[simp] theorem find?_empty (gfn : Gfn) : (empty : Store Page).find? gfn = none := rfl

@[simp] theorem gfnOf?_empty (h : Handle) : (empty : Store Page).gfnOf? h = none := rfl

@[simp] theorem find?_change (s : Store Page) (gfn other : Gfn) (f : Entry Page → Entry Page) :
    (s.change gfn f).find? other =
      if other = gfn then (s.find? other).map f else s.find? other :=
  s.byGfn.find?_change gfn other f

@[simp] theorem gfnOf?_change (s : Store Page) (gfn : Gfn) (f : Entry Page → Entry Page)
    (h : Handle) : (s.change gfn f).gfnOf? h = s.gfnOf? h := rfl

theorem gfnOf?_insert (s : Store Page) (e : Entry Page) (h : Handle) :
    (s.insert e).2.gfnOf? h = if h = e.handle then some e.gfn else s.gfnOf? h := by
  have redirected := s.byHandle.find?_insert e.handle h e.gfn
  unfold insert
  split
  · exact redirected
  · split <;> exact redirected

theorem find?_insert_of_known {s : Store Page} {e : Entry Page} {gfn : Gfn}
    (known : s.gfnOf? e.handle = some gfn) (other : Gfn) :
    (s.insert e).2.find? other = s.find? other := by
  have found : s.byHandle.find? e.handle = some gfn := known
  simp only [insert, found, find?]

/-- A page under a handle that nobody knows is found under its number, and hides no other page. -/
theorem find?_insert_of_new {s : Store Page} {e : Entry Page} (new : s.gfnOf? e.handle = none)
    (other : Gfn) :
    (s.insert e).2.find? other = if other = e.gfn then some e else s.find? other := by
  have missing : s.byHandle.find? e.handle = none := new
  have stored := s.byGfn.find?_insert e.gfn other e
  simp only [insert, missing]
  split <;> exact stored

/-- Only the page that is removed is gone. -/
theorem find?_remove (s : Store Page) (gfn other : Gfn) :
    (s.remove gfn).2.find? other = if other = gfn then none else s.find? other := by
  unfold remove
  split
  · next missing =>
    by_cases same : other = gfn
    · rw [if_pos same, same]
      exact missing
    · rw [if_neg same]
  · exact s.byGfn.find?_erase gfn other

/-- Takes pages out of the store one after another. -/
def removeAll (s : Store Page) : List Gfn → List (Entry Page) × Store Page
  | [] => ([], s)
  | gfn :: rest =>
    let (removed, s) := s.remove gfn
    let (others, s) := s.removeAll rest
    (removed.toList ++ others, s)

/-- The pages that nobody holds, if the references of every page can be added up. -/
def unused? (s : Store Page) : Option (List (Entry Page)) :=
  if s.entries.all (·.references?.isSome) then
    some (s.entries.filter (·.references? = some 0))
  else none

/-- The unused pages that are evicted under a limit: the first half of the limit's number, in the
order of eviction. -/
def victims (limit : Nat) (unused : List (Entry Page)) : List Gfn :=
  ((unused.mergeSort Entry.evictedBefore).take (limit / 2)).map (·.gfn)

end Store

end ForeignPages
