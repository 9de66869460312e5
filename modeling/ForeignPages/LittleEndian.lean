namespace ForeignPages

/-- The `width` lowest bytes of a number. -/
def littleEndian : Nat → Nat → List UInt8
  | 0, _ => []
  | width + 1, n => UInt8.ofNat n :: littleEndian width (n / 256)

/-- The number that bytes write. -/
def ofLittleEndian : List UInt8 → Nat
  | [] => 0
  | b :: rest => b.toNat + 256 * ofLittleEndian rest

@[simp] theorem length_littleEndian (width n : Nat) : (littleEndian width n).length = width := by
  induction width generalizing n with
  | zero => rfl
  | succ width ih => simp [littleEndian, ih]

theorem ofLittleEndian_littleEndian (width n : Nat) :
    ofLittleEndian (littleEndian width n) = n % Nat.pow 256 width := by
  induction width generalizing n with
  | zero => simp [littleEndian, ofLittleEndian, Nat.mod_one]
  | succ width ih =>
    have low : (UInt8.ofNat n).toNat = n % 256 := UInt8.toNat_ofNat'
    rw [littleEndian, ofLittleEndian, ih, low, Nat.pow_eq, Nat.pow_eq, Nat.pow_succ', Nat.mod_mul]

/-- A row of bytes has no number beyond its width. -/
theorem ofLittleEndian_lt (bytes : List UInt8) : ofLittleEndian bytes < Nat.pow 256 bytes.length := by
  induction bytes with
  | nil => decide
  | cons b rest ih =>
    have low := b.toNat_lt
    rw [ofLittleEndian, List.length_cons, Nat.pow_eq, Nat.pow_succ]
    rw [Nat.pow_eq] at ih
    omega

/-- Bytes are what their number is written as, in a row of the same length. -/
theorem littleEndian_ofLittleEndian (bytes : List UInt8) :
    littleEndian bytes.length (ofLittleEndian bytes) = bytes := by
  induction bytes with
  | nil => rfl
  | cons b rest ih =>
    have low := b.toNat_lt
    have high : (b.toNat + 256 * ofLittleEndian rest) / 256 = ofLittleEndian rest := by omega
    rw [ofLittleEndian, List.length_cons, littleEndian, high, ih]
    congr 1
    rw [← UInt8.toNat_inj, UInt8.toNat_ofNat']
    omega

/-- A way to write the values of a type as a fixed number of bytes, without loss in either
direction. -/
structure Layout (α : Type) where
  width : Nat
  encode : α → List UInt8
  decode : List UInt8 → α
  length_encode : ∀ a, (encode a).length = width
  decode_encode : ∀ a, decode (encode a) = a
  encode_decode : ∀ bytes, bytes.length = width → encode (decode bytes) = bytes

namespace Layout

/-- A 64-bit word, the least significant byte first. -/
def word64 : Layout UInt64 where
  width := 8
  encode n := littleEndian 8 n.toNat
  decode bytes := UInt64.ofNat (ofLittleEndian bytes)
  length_encode _ := length_littleEndian ..
  decode_encode n := by
    have bound : n.toNat < Nat.pow 256 8 := n.toNat_lt
    rw [ofLittleEndian_littleEndian, Nat.mod_eq_of_lt bound, UInt64.ofNat_toNat]
  encode_decode bytes width := by
    have bound := ofLittleEndian_lt bytes
    rw [width] at bound
    have fits : ofLittleEndian bytes < UInt64.size := bound
    rw [UInt64.toNat_ofNat', Nat.mod_eq_of_lt fits, ← width, littleEndian_ofLittleEndian]

/-- A 32-bit word, the least significant byte first. -/
def word32 : Layout UInt32 where
  width := 4
  encode n := littleEndian 4 n.toNat
  decode bytes := UInt32.ofNat (ofLittleEndian bytes)
  length_encode _ := length_littleEndian ..
  decode_encode n := by
    have bound : n.toNat < Nat.pow 256 4 := n.toNat_lt
    rw [ofLittleEndian_littleEndian, Nat.mod_eq_of_lt bound, UInt32.ofNat_toNat]
  encode_decode bytes width := by
    have bound := ofLittleEndian_lt bytes
    rw [width] at bound
    have fits : ofLittleEndian bytes < UInt32.size := bound
    rw [UInt32.toNat_ofNat', Nat.mod_eq_of_lt fits, ← width, littleEndian_ofLittleEndian]

/-- One value after another. -/
def pair {α β : Type} (l : Layout α) (m : Layout β) : Layout (α × β) where
  width := l.width + m.width
  encode v := l.encode v.1 ++ m.encode v.2
  decode bytes := (l.decode (bytes.take l.width), m.decode (bytes.drop l.width))
  length_encode v := by rw [List.length_append, l.length_encode, m.length_encode]
  decode_encode v := by
    have cut := l.length_encode v.1
    rw [← cut, List.take_left, List.drop_left, l.decode_encode, m.decode_encode]
  encode_decode bytes width := by
    rw [l.encode_decode _ (by rw [List.length_take]; omega),
      m.encode_decode _ (by rw [List.length_drop]; omega), List.take_append_drop]

/-- The layout of a type whose values stand for those of another. -/
def via {α β : Type} (l : Layout α) (make : α → β) (parts : β → α)
    (make_parts : ∀ b, make (parts b) = b) (parts_make : ∀ a, parts (make a) = a) : Layout β where
  width := l.width
  encode b := l.encode (parts b)
  decode bytes := make (l.decode bytes)
  length_encode b := l.length_encode (parts b)
  decode_encode b := by rw [l.decode_encode, make_parts]
  encode_decode bytes width := by rw [parts_make, l.encode_decode bytes width]

end Layout

end ForeignPages
