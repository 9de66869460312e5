import ForeignPages.Proofs.ImageDeeds
import ForeignPages.Proofs.ImageRequests
import ForeignPages.Word

namespace ForeignPages

/-- The sizes of one or more whole pages. -/
def WholePages (size : UInt64) : Prop := 0 < size.toNat ∧ 4096 ∣ size.toNat

instance (size : UInt64) : Decidable (WholePages size) := inferInstanceAs (Decidable (_ ∧ _))

/-- A byte of the file belongs to a page. -/
def Gfn.Holds (gfn : Gfn) (i : Nat) : Prop := gfn.start ≤ i ∧ i < gfn.start + 4096

namespace ImageDriver

/-- What a driver answers if it is up to an operating system what is mapped for a request. -/
def answer {Page : Type} (d : ImageDriver) (system : MapRequest → Except IoError Page) (gfn : Gfn)
    (protection : Protection) :
    Except IoError Page :=
  match d.request gfn protection with
  | .error e => .error e.toIoError
  | .ok request => system request

/-- The driver cuts a file of some size into pages, and no number overflows meanwhile. -/
structure Divides (d : ImageDriver) (size : UInt64) : Prop where
  last : sub64? d.pages 1 = some d.maxGfn.number
  /-- The offset of a page is computed before it is known for what the page is wanted. -/
  lies : ∀ gfn : Gfn, ¬ d.maxGfn.number < gfn.number →
    (gfn.number * pageBytes).toNat = gfn.start ∧ gfn.start + 4096 ≤ size.toNat
  apart : ∀ (gfn other : Gfn) i, gfn.Holds i → other.Holds i → gfn = other
  tiles : ∀ i, i < size.toNat ↔ ∃ gfn : Gfn, ¬ d.maxGfn.number < gfn.number ∧ gfn.Holds i

theorem whole_of_ofSize {d : ImageDriver} {size : UInt64} {access : Access} {writable : Bool}
    (opened : ofSize size access writable = .ok d) : WholePages size := by
  obtain ⟨whole, some, _⟩ := of_ofSize opened
  exact ⟨by omega, ⟨d.pages.toNat, by rw [whole, Nat.mul_comm]⟩⟩

/-- A file is accepted if and only if it consists of whole pages. -/
theorem ofSize_eq_error {size : UInt64} (ragged : ¬ WholePages size) (access : Access) (writable : Bool) :
    ofSize size access writable = .error .invalidImage := by
  cases opened : ofSize size access writable with
  | ok d => exact absurd (whole_of_ofSize opened) ragged
  | error e =>
    unfold ofSize at opened
    split at opened <;> cases opened
    rfl

/-- What becomes of a request is decided by its page first, and then by what is wanted of the page. -/
theorem answer_eq {Page : Type} (d : ImageDriver) (system : MapRequest → Except IoError Page) (gfn : Gfn)
    (protection : Protection) :
    d.answer system gfn protection =
      if d.maxGfn.number < gfn.number then
        .error (.custom .invalidInput "page outside of the memory image")
      else if protection.contains .w = true ∧ d.writable = false then
        .error (.custom .permissionDenied "memory image is read-only")
      else system ⟨gfn.number * pageBytes, protection.contains .w⟩ := by
  unfold answer request
  by_cases outside : d.maxGfn.number < gfn.number
  · simp only [if_pos outside]
    rfl
  · simp only [if_neg outside]
    cases protection.contains .w <;> cases d.writable <;> rfl

theorem holds_iff {gfn : Gfn} {i : Nat} : gfn.Holds i ↔ gfn.number.toNat = i / 4096 := by
  unfold Gfn.Holds Gfn.start
  omega

/-- The pages of a driver lie one after another and fill the image. -/
theorem divides {d : ImageDriver} {size : UInt64} {access : Access} {writable : Bool}
    (opened : ofSize size access writable = .ok d) : d.Divides size := by
  obtain ⟨whole, some, _⟩ := of_ofSize opened
  have within : ∀ {gfn : Gfn}, ¬ d.maxGfn.number < gfn.number ↔ gfn.number.toNat < d.pages.toNat := by
    intro gfn
    rw [maxGfn_lt_iff some, Nat.not_le]
  constructor
  case last =>
    refine sub64?_eq_some.mpr ?_
    change (d.pages - 1).toNat + 1 = _
    rw [UInt64.toNat_sub_of_le d.pages 1 (UInt64.le_iff_toNat_le.mpr some)]
    exact Nat.sub_add_cancel some
  case lies =>
    intro gfn inside
    have below := within.mp inside
    refine ⟨offset_toNat opened below, ?_⟩
    unfold Gfn.start
    omega
  case apart =>
    intro gfn other i first second
    have same := (holds_iff.mp first).trans (holds_iff.mp second).symm
    cases gfn
    cases other
    exact congrArg Gfn.mk (UInt64.toNat_inj.mp same)
  case tiles =>
    refine fun i => ⟨fun below => ?_, ?_⟩
    · -- The number of the page fits, because it is that of a part of the size.
      have number : (UInt64.ofNat (i / 4096)).toNat = i / 4096 :=
        UInt64.toNat_ofNat_of_lt' (Nat.lt_of_le_of_lt (Nat.div_le_self ..) (Nat.lt_trans below size.toNat_lt))
      refine ⟨⟨UInt64.ofNat (i / 4096)⟩, within.mpr ?_, holds_iff.mpr number⟩
      rw [number]
      omega
    · rintro ⟨gfn, inside, held⟩
      have below := within.mp inside
      have number := holds_iff.mp held
      omega

end ImageDriver

end ForeignPages
