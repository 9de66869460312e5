import ForeignPages.Host

namespace ForeignPages

/-- Pages are numbered in the order in which they are mapped, and lie one behind another. -/
def shelf : Host Nat Unit Unit Nat where
  pageSize _ _ := 4096
  map _ _ _ mapped := (.ok mapped, mapped + 1)
  unmap _ mapped := mapped
  address page := ⟨UInt64.ofNat (4096 * (page + 1))⟩
  size _ _ := 4096
  byte _ _ _ := 0
  write _ _ _ mapped := mapped
  probe _ _ _ mapped := (.ok true, mapped)
  standardProbe := ()
  release _ := .error (.plain .notFound)

end ForeignPages
