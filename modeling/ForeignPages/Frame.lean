import ForeignPages.Hex

namespace ForeignPages

/-- The number of a guest frame: which page of the guest's memory is meant. -/
structure Gfn where
  number : UInt64
deriving DecidableEq, Inhabited

/-- The address of a mapped page in this process. Callers hold it for a reference to the page. -/
structure Handle where
  address : UInt64
deriving DecidableEq, Inhabited

/-- Numbers of both kinds are written with all their sixteen digits. -/
def wordText (n : UInt64) : String := "0x" ++ Hex.padded 16 n.toNat

def Gfn.text (g : Gfn) : String := wordText g.number

def Handle.text (h : Handle) : String := wordText h.address

/-- The handle that refers to no memory. -/
def Handle.null : Handle := ⟨0⟩

def Handle.isNull (h : Handle) : Bool := h.address = 0

end ForeignPages
