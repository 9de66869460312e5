import ForeignPages.Image.Driver

namespace ForeignPages

namespace ImageDriver

/-- A driver that was opened has the pages that make up the size of its image. -/
theorem of_ofSize {d : ImageDriver} {size : UInt64} {access : Access} {writable : Bool}
    (opened : ofSize size access writable = .ok d) :
    size.toNat = d.pages.toNat * 4096 ∧ 0 < d.pages.toNat ∧ d.writable = writable ∧ d.access = access := by
  unfold ofSize at opened
  split at opened
  · cases opened
  · next whole =>
    cases opened
    rw [not_or, Decidable.not_not] at whole
    obtain ⟨some, whole⟩ := whole
    have remainder := congrArg UInt64.toNat whole
    have quotient : (size / pageBytes).toNat = size.toNat / 4096 := UInt64.toNat_div size pageBytes
    have rest : (size % pageBytes).toNat = size.toNat % 4096 := UInt64.toNat_mod size pageBytes
    have positive : size.toNat ≠ 0 := fun zero => some (UInt64.toNat_inj.mp zero)
    rw [rest, UInt64.toNat_zero] at remainder
    refine ⟨?_, ?_, rfl, rfl⟩
    · rw [quotient]
      omega
    · rw [quotient]
      omega

/-- An image of whole pages can be opened, for whatever access. -/
theorem ofSize_of_whole {size : UInt64} {pages : Nat} (whole : size.toNat = pages * 4096) (some : 0 < pages)
    (access : Access) (writable : Bool) : ∃ d, ofSize size access writable = .ok d := by
  have filled : size ≠ 0 := by
    rintro rfl
    have zero : 0 = pages * 4096 := whole
    omega
  have even : size % pageBytes = 0 := by
    refine UInt64.toNat_inj.mp ?_
    rw [UInt64.toNat_mod, whole]
    exact Nat.mul_mod_left ..
  exact ⟨_, if_neg (not_or.mpr ⟨filled, not_not_intro even⟩)⟩

theorem maxGfn_lt_iff {d : ImageDriver} {gfn : Gfn} (some : 0 < d.pages.toNat) :
    d.maxGfn.number < gfn.number ↔ d.pages.toNat ≤ gfn.number.toNat := by
  have last : (d.pages - 1).toNat = d.pages.toNat - 1 :=
    UInt64.toNat_sub_of_le d.pages 1 (UInt64.le_iff_toNat_le.mpr some)
  rw [maxGfn, UInt64.lt_iff_toNat_lt, last]
  omega

/-- Every page of an image that was opened for both can be asked for. -/
theorem mapping_of_lt {d : ImageDriver} {size : UInt64} {gfn : Gfn} (opened : ofSize size .readWrite true = .ok d)
    (inside : gfn.number.toNat < d.pages.toNat) :
    d.mapping gfn .rw = .ok ⟨gfn.number * pageBytes, true⟩ := by
  obtain ⟨_, some, writable, access⟩ := of_ofSize opened
  have within : ¬ d.maxGfn.number < gfn.number := fun outside =>
    Nat.not_le.mpr inside ((maxGfn_lt_iff some).mp outside)
  have writes : Protection.rw.contains .w = true := rfl
  simp only [mapping, request, if_neg within, writes, writable, access, Bool.not_true, Bool.and_false,
    Bool.false_eq_true, if_false]
  rfl

theorem mapping_of_le {d : ImageDriver} {size : UInt64} {gfn : Gfn} (opened : ofSize size .readWrite true = .ok d)
    (outside : d.pages.toNat ≤ gfn.number.toNat) :
    d.mapping gfn .rw = .error .outOfBounds := by
  obtain ⟨_, some, _⟩ := of_ofSize opened
  simp only [mapping, request, if_pos ((maxGfn_lt_iff some).mpr outside)]
  rfl

/-- A page is asked for if it lies in the image, and may be written if that is wanted. -/
theorem request_eq_ok {d : ImageDriver} {gfn : Gfn} {protection : Protection} {asked : MapRequest}
    (some : 0 < d.pages.toNat) :
    d.request gfn protection = .ok asked ↔ gfn.number.toNat < d.pages.toNat ∧
      (protection.contains .w = true → d.writable = true) ∧
      asked = ⟨gfn.number * pageBytes, protection.contains .w⟩ := by
  unfold request
  by_cases outside : d.maxGfn.number < gfn.number
  · rw [if_pos outside]
    have beyond := (maxGfn_lt_iff some).mp outside
    exact ⟨nofun, fun allowed => absurd allowed.1 (Nat.not_lt.mpr beyond)⟩
  · rw [if_neg outside]
    have inside : gfn.number.toNat < d.pages.toNat := Nat.not_le.mp (mt (maxGfn_lt_iff some).mpr outside)
    cases writes : protection.contains .w <;> cases allows : d.writable <;> simp [inside, eq_comm]

/-- A page is mapped if it is asked for, and the file was opened for that. -/
theorem mapping_eq_ok {d : ImageDriver} {size : UInt64} {access : Access} {writable : Bool} {gfn : Gfn}
    {protection : Protection} {asked : MapRequest} (opened : ofSize size access writable = .ok d) :
    d.mapping gfn protection = .ok asked ↔ gfn.number.toNat < d.pages.toNat ∧
      (protection.contains .w = true → d.writable = true) ∧
      asked = ⟨gfn.number * pageBytes, protection.contains .w⟩ ∧ asked.granted d.access = true := by
  have granted : d.mapping gfn protection = .ok asked ↔
      d.request gfn protection = .ok asked ∧ asked.granted d.access = true := by
    unfold mapping
    cases d.request gfn protection with
    | error e => exact ⟨nofun, nofun⟩
    | ok other =>
      change (if other.granted d.access then Except.ok other else .error _) = .ok asked ↔ _
      grind
  obtain ⟨_, some, _⟩ := of_ofSize opened
  rw [granted, request_eq_ok some, and_assoc, and_assoc]

/-- The position of a page fits the word, so it does not wrap around. -/
theorem offset_toNat {d : ImageDriver} {size : UInt64} {access : Access} {writable : Bool} {gfn : Gfn}
    (opened : ofSize size access writable = .ok d) (inside : gfn.number.toNat < d.pages.toNat) :
    (gfn.number * pageBytes).toNat = gfn.number.toNat * 4096 := by
  obtain ⟨whole, _⟩ := of_ofSize opened
  have bound := size.toNat_lt
  have fits : gfn.number.toNat * 4096 < 2 ^ 64 := by omega
  rw [UInt64.toNat_mul]
  exact Nat.mod_eq_of_lt fits

end ImageDriver

end ForeignPages
