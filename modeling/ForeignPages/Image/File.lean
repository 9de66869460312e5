namespace ForeignPages

/-- The file behind a memory image. Only the bytes below its size belong to it; but in memory a file
has whole pages, so a mapping of its last page shows, and can write, more than that. -/
structure ImageFile where
  size : UInt64
  byte : Nat → UInt8

namespace ImageFile

/-- A file with nothing behind its end. -/
def ofBytes (size : UInt64) (byte : Nat → UInt8) : ImageFile :=
  ⟨size, fun i => if i < size.toNat then byte i else 0⟩

/-- The byte at an offset; behind the end there are zeros. -/
def get (f : ImageFile) (i : Nat) : UInt8 := if i < f.size.toNat then f.byte i else 0

/-- The number of bytes that the file has in memory, where its last page is complete. -/
def extent (f : ImageFile) : Nat := (f.size.toNat + 4095) / 4096 * 4096

/-- The byte that a mapping shows. -/
def mapped (f : ImageFile) (i : Nat) : UInt8 := if i < f.extent then f.byte i else 0

theorem mapped_eq_get {f : ImageFile} {i : Nat} (within : i < f.size.toNat) :
    f.mapped i = f.get i := by
  have below : i < f.extent := by
    unfold extent
    omega
  rw [mapped, get, if_pos below, if_pos within]

/-- The bytes from an offset on, as far as the file reaches. -/
def read (f : ImageFile) (offset count : Nat) : List UInt8 :=
  (List.range (min count (f.size.toNat - offset))).map fun i => f.get (offset + i)

/-- The bytes with a block of them overwritten from an offset on. What lay below the block is not
looked at. -/
def overwrite (byte : Nat → UInt8) (offset : Nat) (block : Array UInt8) (i : Nat) : UInt8 :=
  if offset ≤ i then
    match block[i - offset]? with
    | some b => b
    | none => byte i
  else byte i

theorem overwrite_within {byte : Nat → UInt8} {offset i : Nat} {block : Array UInt8}
    (lower : offset ≤ i) (upper : i - offset < block.size) :
    overwrite byte offset block i = block[i - offset] := by
  rw [overwrite, if_pos lower, Array.getElem?_eq_getElem upper]

theorem overwrite_outside {byte : Nat → UInt8} {offset i : Nat} {block : Array UInt8}
    (outside : i < offset ∨ offset + block.size ≤ i) :
    overwrite byte offset block i = byte i := by
  by_cases lower : offset ≤ i
  · have upper : block.size ≤ i - offset := by omega
    rw [overwrite, if_pos lower, Array.getElem?_eq_none upper]
  · rw [overwrite, if_neg lower]

theorem overwrite_congr {byte byte' : Nat → UInt8} {i : Nat} (same : byte i = byte' i) (offset : Nat)
    (block : Array UInt8) : overwrite byte offset block i = overwrite byte' offset block i := by
  rw [overwrite, overwrite, same]

/-- The file with bytes overwritten. It does not grow by that. -/
def write (f : ImageFile) (offset : Nat) (bytes : List UInt8) : ImageFile :=
  { f with byte := overwrite f.byte offset bytes.toArray }

/-- The file cut off or extended by zeros. What memory kept behind its end is lost. -/
def resize (f : ImageFile) (size : UInt64) : ImageFile := .ofBytes size f.get

/-- The file with bytes written from an offset on, which may lie behind its end. To write no bytes
changes nothing, wherever it is done. -/
def patch (f : ImageFile) (offset : UInt64) (bytes : List UInt8) : ImageFile :=
  if bytes.isEmpty then f
  else
    let reached := offset + UInt64.ofNat bytes.length
    (if f.size < reached then f.resize reached else f).write offset.toNat bytes

/-- The file whose bytes are the numbers of their pages. -/
def numbered (size : UInt64) : ImageFile := .ofBytes size fun i => UInt8.ofNat (i / 4096)

end ImageFile

end ForeignPages
