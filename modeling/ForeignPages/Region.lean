import ForeignPages.IoError

namespace ForeignPages

/-- Memory that was reserved but is populated only where it was touched, as the operating system
reports it. -/
structure Region where
  pages : Nat
  touched : List Nat

namespace Region

def pageBytes : Nat := 4096

/-- The pages that a range reaches. Its length counts up to the end of the last page. -/
def covered (offset length : Nat) : List Nat :=
  (List.range ((length + pageBytes - 1) / pageBytes)).map fun i => offset / pageBytes + i

/-- Whether all pages of a range are populated. The range has to start on a page, and to lie
within the region. -/
def resident (r : Region) (offset length : Nat) : Except IoError Bool :=
  if offset % pageBytes ≠ 0 then .error (.system 22)
  else if length ≠ 0 ∧ r.pages * pageBytes < offset + length then .error (.system 12)
  else .ok ((covered offset length).all (· ∈ r.touched))

end Region

end ForeignPages
