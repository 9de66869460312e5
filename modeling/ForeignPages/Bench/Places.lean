import ForeignPages.Image.Driver

namespace ForeignPages

/-- Where the operating system puts the pages of images, counted from the first place that can be
had. A new page lies at the first place that no other page has, so it may come to lie where an
earlier one was. -/
structure Places where
  /-- The places that pages had and have left, in increasing order. -/
  vacated : List Nat := []
  /-- The first place that no page ever had. -/
  untouched : Nat := 0

namespace Places

/-- A place among others, behind all that are not greater. -/
def insert (place : Nat) : List Nat → List Nat
  | [] => [place]
  | other :: rest => if place < other then place :: other :: rest else other :: insert place rest

/-- The place of a new page. -/
def first (p : Places) : Nat := p.vacated.headD p.untouched

/-- A page now has the first place. -/
def take (p : Places) : Places :=
  match p.vacated with
  | [] => { p with untouched := p.untouched + 1 }
  | _ :: rest => { p with vacated := rest }

/-- A page has left its place. -/
def leave (p : Places) (place : Nat) : Places := { p with vacated := insert place p.vacated }

end Places

/-- The lowest address at which pages of images lie. -/
def firstPlace : Nat := 0x7F00_0000_0000

/-- The address of a place. -/
def placeAddress (place : Nat) : Handle := ⟨UInt64.ofNat (firstPlace + place * pageBytes.toNat)⟩

/-- The place at an address. -/
def placeAt (address : Handle) : Nat := (address.address.toNat - firstPlace) / pageBytes.toNat

end ForeignPages
