namespace ForeignPages.Hex

/-- The lower-case digits of a number, without leading zeros. -/
def digits (n : Nat) : List Char := Nat.toDigits 16 n

/-- A number with at least `width` digits, filled up with zeros on the left. -/
def padded (width n : Nat) : String :=
  String.ofList (List.replicate (width - (digits n).length) '0' ++ digits n)

/-- The value of a digit of either case. -/
def digitValue? (c : Char) : Option Nat :=
  if '0' ≤ c ∧ c ≤ '9' then some (c.toNat - '0'.toNat)
  else if 'a' ≤ c ∧ c ≤ 'f' then some (c.toNat - 'a'.toNat + 10)
  else if 'A' ≤ c ∧ c ≤ 'F' then some (c.toNat - 'A'.toNat + 10)
  else none

/-- The number written by the digits, most significant first, added below `high`. -/
def readFrom? (high : Nat) : List Char → Option Nat
  | [] => some high
  | c :: rest => (digitValue? c).bind fun d => readFrom? (16 * high + d) rest

/-- The number that a text of at least one digit writes. -/
def read? : List Char → Option Nat
  | [] => none
  | cs => readFrom? 0 cs

/-- Each byte as two digits. -/
def ofBytes (bytes : List UInt8) : String :=
  String.ofList (bytes.flatMap fun b =>
    [Nat.digitChar (b.toNat / 16), Nat.digitChar (b.toNat % 16)])

/-- The bytes that pairs of digits write. -/
def toBytes? : List Char → Option (List UInt8)
  | [] => some []
  | [_] => none
  | c :: d :: rest => do
    let high ← digitValue? c
    let low ← digitValue? d
    return UInt8.ofNat (16 * high + low) :: (← toBytes? rest)

end ForeignPages.Hex
