namespace ForeignPages

/-- The sum of two 64-bit words, if it needs no further bit. -/
def add64? (a b : UInt64) : Option UInt64 :=
  if a.toNat + b.toNat < UInt64.size then some (a + b) else none

/-- The difference of two 64-bit words, if it is not negative. -/
def sub64? (a b : UInt64) : Option UInt64 :=
  if b.toNat ≤ a.toNat then some (a - b) else none

/-- The sum of two 32-bit words, if it needs no further bit. -/
def add32? (a b : UInt32) : Option UInt32 :=
  if a.toNat + b.toNat < UInt32.size then some (a + b) else none

theorem add64?_eq_some {a b c : UInt64} : add64? a b = some c ↔ c.toNat = a.toNat + b.toNat := by
  by_cases fits : a.toNat + b.toNat < UInt64.size
  · rw [add64?, if_pos fits, Option.some.injEq, ← UInt64.toNat_inj, UInt64.toNat_add,
      Nat.mod_eq_of_lt fits]
    exact eq_comm
  · rw [add64?, if_neg fits]
    exact ⟨nofun, fun same => absurd (same ▸ c.toNat_lt_size) fits⟩

theorem add64?_eq_none {a b : UInt64} : add64? a b = none ↔ UInt64.size ≤ a.toNat + b.toNat := by
  by_cases fits : a.toNat + b.toNat < UInt64.size
  · rw [add64?, if_pos fits]
    exact ⟨nofun, fun high => by omega⟩
  · rw [add64?, if_neg fits]
    exact ⟨fun _ => by omega, fun _ => rfl⟩

theorem sub64?_eq_some {a b c : UInt64} : sub64? a b = some c ↔ c.toNat + b.toNat = a.toNat := by
  by_cases ordered : b.toNat ≤ a.toNat
  · rw [sub64?, if_pos ordered, Option.some.injEq, ← UInt64.toNat_inj,
      UInt64.toNat_sub_of_le a b (UInt64.le_iff_toNat_le.mpr ordered)]
    omega
  · rw [sub64?, if_neg ordered]
    exact ⟨nofun, fun same => by omega⟩

theorem add32?_eq_some {a b c : UInt32} : add32? a b = some c ↔ c.toNat = a.toNat + b.toNat := by
  by_cases fits : a.toNat + b.toNat < UInt32.size
  · rw [add32?, if_pos fits, Option.some.injEq, ← UInt32.toNat_inj, UInt32.toNat_add,
      Nat.mod_eq_of_lt fits]
    exact eq_comm
  · rw [add32?, if_neg fits]
    exact ⟨nofun, fun same => absurd (same ▸ c.toNat_lt_size) fits⟩

theorem add32?_eq_none {a b : UInt32} : add32? a b = none ↔ UInt32.size ≤ a.toNat + b.toNat := by
  by_cases fits : a.toNat + b.toNat < UInt32.size
  · rw [add32?, if_pos fits]
    exact ⟨nofun, fun high => by omega⟩
  · rw [add32?, if_neg fits]
    exact ⟨fun _ => by omega, fun _ => rfl⟩

end ForeignPages
