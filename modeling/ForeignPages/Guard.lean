import ForeignPages.Cache
import ForeignPages.LittleEndian

namespace ForeignPages

/-- A reference to a cached page that is given back when the guard is dropped. -/
structure Guard where
  gfn : Gfn
  handle : Handle
  /-- The size of the page when the guard was taken. -/
  size : Nat
deriving DecidableEq

/-- The structural form, with the handle as its owner writes it. -/
def Guard.inspect (g : Guard) (handle : String) : String :=
  "PageGuard \x7b gfn: " ++ g.gfn.text ++ ", handle: " ++ handle ++ ", len: " ++ toString g.size ++
    " \x7d"

/-- The range lies within the guard, and its end is a 64-bit word. -/
def Guard.admits (g : Guard) (offset count : Nat) : Bool :=
  decide (offset + count < UInt64.size) && decide (offset + count ≤ g.size)

namespace Machine

variable {World Driver Probe Page : Type} (host : Host World Driver Probe Page)

/-- The page behind a guard, if a range of its bytes is accessible. -/
def pageFor (m : Machine World Driver Probe Page) (g : Guard) (offset count : Nat) :
    Except MapError Page :=
  if g.admits offset count then
    match m.cache.store.find? g.gfn with
    | none => .error (.pageNotPresent g.gfn)
    | some e =>
      if offset + count ≤ host.size e.page m.world then .ok e.page else .error .outOfBounds
  else .error .outOfBounds

/-- Reads as many bytes from an offset on as a buffer has room for. The buffer is filled with them, or
it is left alone. -/
def read (m : Machine World Driver Probe Page) (g : Guard) (offset : Nat) (buffer : List UInt8) :
    Except MapError Unit × List UInt8 :=
  match m.pageFor host g offset buffer.length with
  | .error e => (.error e, buffer)
  | .ok page => (.ok (), host.read page offset buffer.length m.world)

/-- Reads bytes from an offset on into a buffer that is zeroed before. -/
def readBytes (m : Machine World Driver Probe Page) (g : Guard) (offset count : Nat) :
    Except MapError (List UInt8) :=
  match m.read host g offset (List.replicate count 0) with
  | (.error e, _) => .error e
  | (.ok (), bytes) => .ok bytes

/-- Bytes that are read into a fresh buffer are those of the page, if the access is admitted at all.
-/
theorem readBytes_eq (m : Machine World Driver Probe Page) (g : Guard) (offset count : Nat) :
    m.readBytes host g offset count =
      (m.pageFor host g offset count).map fun page => host.read page offset count m.world := by
  unfold readBytes read
  rw [List.length_replicate]
  cases m.pageFor host g offset count <;> rfl

/-- Writes bytes from an offset on. -/
def write (m : Machine World Driver Probe Page) (g : Guard) (offset : Nat) (bytes : List UInt8) :
    Except MapError Unit × Machine World Driver Probe Page :=
  match m.pageFor host g offset bytes.length with
  | .error e => (.error e, m)
  | .ok page => (.ok (), { m with world := host.write page offset bytes m.world })

/-- Reads a value of a fixed layout. -/
def readAs {α : Type} (layout : Layout α) (m : Machine World Driver Probe Page) (g : Guard)
    (offset : Nat) : Except MapError α :=
  (m.readBytes host g offset layout.width).map layout.decode

/-- Writes a value of a fixed layout. -/
def writeAs {α : Type} (layout : Layout α) (m : Machine World Driver Probe Page) (g : Guard)
    (offset : Nat) (value : α) : Except MapError Unit × Machine World Driver Probe Page :=
  m.write host g offset (layout.encode value)

end Machine

/-- A structure as guests keep it at the start of a region. -/
structure Header where
  magic : UInt32
  flags : UInt32
  base : UInt64
deriving DecidableEq

/-- Its three numbers, one after another. -/
def Header.layout : Layout Header :=
  (Layout.word32.pair (Layout.word32.pair Layout.word64)).via
    (fun (magic, flags, base) => ⟨magic, flags, base⟩) (fun h => (h.magic, h.flags, h.base))
    (fun _ => rfl) (fun _ => rfl)

end ForeignPages
