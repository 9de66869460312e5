import Mathlib.Algebra.Group.Nat.Defs
import ForeignPages.Residency

namespace ForeignPages

/-- What is left of a text without the blanks around it. -/
structure Stripped (text core : List Char) : Prop where
  around : ∃ before after, text = before ++ core ++ after ∧ (∀ c ∈ before, isBlank c = true) ∧
    ∀ c ∈ after, isBlank c = true
  first : ∀ c ∈ core.head?, isBlank c = false
  last : ∀ c ∈ core.getLast?, isBlank c = false

theorem mem_head?_append {cs ds : List Char} {c : Char} (first : c ∈ cs.head?) : c ∈ (cs ++ ds).head? := by
  rw [List.head?_append, Option.mem_def.mp first]
  rfl

theorem mem_head?_of_append {cs ds : List Char} {c : Char} (some : cs ≠ []) (first : c ∈ (cs ++ ds).head?) :
    c ∈ cs.head? := by
  cases cs with
  | nil => exact absurd rfl some
  | cons => exact first

theorem mem_getLast?_of_append {cs ds : List Char} {c : Char} (some : ds ≠ [])
    (last : c ∈ (cs ++ ds).getLast?) : c ∈ ds.getLast? := by
  rw [List.getLast?_append, List.getLast?_eq_some_getLast some] at last
  rw [List.getLast?_eq_some_getLast some]
  exact last

theorem head?_dropWhile_isBlank {cs : List Char} {c : Char} (first : c ∈ (cs.dropWhile isBlank).head?) :
    isBlank c = false := by
  have stops := List.head?_dropWhile_not isBlank cs
  rw [Option.mem_def.mp first] at stops
  exact stops

/-- The end of a text can be cut off where its last blanks begin. -/
theorem exists_last_blanks (cs : List Char) : ∃ kept after, cs = kept ++ after ∧
    (∀ c ∈ after, isBlank c = true) ∧ ∀ c ∈ kept.getLast?, isBlank c = false := by
  refine ⟨(cs.reverse.dropWhile isBlank).reverse, (cs.reverse.takeWhile isBlank).reverse, ?_, ?_, ?_⟩
  · rw [← List.reverse_append, List.takeWhile_append_dropWhile, List.reverse_reverse]
  · intro c member
    exact List.all_eq_true.mp List.all_takeWhile c (List.mem_reverse.mp member)
  · intro c last
    rw [List.getLast?_reverse] at last
    exact head?_dropWhile_isBlank last

theorem dropWhile_of_head? {p : Char → Bool} {cs : List Char} (stops : ∀ c ∈ cs.head?, p c = false) :
    cs.dropWhile p = cs := by
  cases cs with
  | nil => rfl
  | cons c rest => exact List.dropWhile_cons_of_neg (Bool.not_eq_true _ ▸ stops c rfl)

/-- A text has one core only, and that is what trimming finds. -/
theorem Stripped.trim_eq {text core : List Char} (stripped : Stripped text core) : trim text = core := by
  obtain ⟨before, after, rfl, blank, blank'⟩ := stripped.around
  have start : (before ++ core ++ after).dropWhile isBlank = (core ++ after).dropWhile isBlank := by
    rw [List.append_assoc, List.dropWhile_append_of_pos blank]
  cases core with
  | nil =>
    have nothing : after.dropWhile isBlank = [] := by
      rw [← List.append_nil after, List.dropWhile_append_of_pos blank', List.dropWhile_nil]
    rw [trim, start, List.nil_append, nothing]
    rfl
  | cons c rest =>
    have kept : (c :: rest ++ after).dropWhile isBlank = c :: rest ++ after := dropWhile_of_head? stripped.first
    have ends : ((c :: rest).reverse).dropWhile isBlank = (c :: rest).reverse := by
      refine dropWhile_of_head? fun d last => stripped.last d ?_
      rwa [List.head?_reverse] at last
    rw [trim, start, kept, List.reverse_append, List.dropWhile_append_of_pos, ends, List.reverse_reverse]
    exact fun d member => blank' d (List.mem_reverse.mp member)

/-- Trimming takes away blanks only, and leaves none at the ends. -/
theorem trim_stripped (text : List Char) : Stripped text (trim text) := by
  obtain ⟨kept, after, split, blank, last⟩ := exists_last_blanks (text.dropWhile isBlank)
  have whole : text = text.takeWhile isBlank ++ kept ++ after := by
    rw [List.append_assoc, ← split, List.takeWhile_append_dropWhile]
  have first : ∀ c ∈ kept.head?, isBlank c = false := by
    intro c member
    have starts : c ∈ (text.dropWhile isBlank).head? := by
      rw [split]
      exact mem_head?_append member
    exact head?_dropWhile_isBlank starts
  have stripped : Stripped text kept :=
    ⟨⟨_, after, whole, fun c member => List.all_eq_true.mp List.all_takeWhile c member, blank⟩, first, last⟩
  rw [stripped.trim_eq]
  exact stripped

/-- The first part of a text ends where the first separator stands. -/
theorem splitAt_eq (sep : Char → Bool) (cs : List Char) :
    splitAt sep cs = cs.takeWhile (! sep ·) :: match cs.dropWhile (! sep ·) with
      | [] => []
      | _ :: rest => splitAt sep rest := by
  induction cs with
  | nil => rfl
  | cons c rest ih =>
    cases found : sep c with
    | true => simp only [splitAt, found, List.takeWhile_cons, List.dropWhile_cons, Bool.not_true, if_true,
        Bool.false_eq_true, if_false]
    | false =>
      rw [splitAt, found, if_neg Bool.false_ne_true, ih]
      simp only [List.takeWhile_cons, List.dropWhile_cons, found, Bool.not_false, if_true]

namespace KernelVersion

/-- The number that a row of digits writes. -/
def value (digits : List Char) : Nat := Nat.ofDigitChars 10 digits 0

/-- The digits with which a text starts. -/
def leadingDigits (core : List Char) : List Char := core.takeWhile Char.isDigit

/-- The digits after the one character that follows those with which a text starts. -/
def followingDigits (core : List Char) : List Char :=
  ((core.dropWhile Char.isDigit).drop 1).takeWhile Char.isDigit

theorem number?_eq_none {digits : List Char} : number? digits = none ↔ digits = [] ∨ 2 ^ 32 ≤ value digits := by
  unfold number?
  split
  · next unread => exact ⟨fun _ => unread, fun _ => rfl⟩
  · next read => exact ⟨nofun, fun unread => absurd unread read⟩

/-- Otherwise the number is the one that they write. -/
theorem number?_eq_some {digits : List Char} {n : UInt32} :
    number? digits = some n ↔ digits ≠ [] ∧ n.toNat = value digits := by
  unfold number?
  split
  · next unread =>
    refine ⟨nofun, fun read => ?_⟩
    have large := unread.resolve_left read.1
    have small := n.toNat_lt_size
    rw [read.2] at small
    exact absurd large (Nat.not_le.mpr small)
  · next read =>
    obtain ⟨some, small⟩ := not_or.mp read
    have word : (UInt32.ofNat (decimal digits)).toNat = value digits :=
      UInt32.toNat_ofNat_of_lt' (Nat.not_le.mp small)
    rw [Option.some.injEq, ← UInt32.toNat_inj, word]
    exact ⟨fun same => ⟨some, same.symm⟩, fun same => same.2.symm⟩

/-- The number behind the first one is missing if there are no digits behind the next character. -/
theorem ofRelease?_eq (release : List Char) :
    ofRelease? release = (number? (leadingDigits (trim release))).map fun major =>
      ⟨major, (number? (followingDigits (trim release))).getD 0⟩ := by
  have digits : (fun c => ! (! isDigit c)) = Char.isDigit := funext fun c => Bool.not_not _
  have behind : ((match (trim release).dropWhile Char.isDigit with
      | [] => []
      | _ :: rest => splitAt (! isDigit ·) rest).head?.bind number?).getD 0 =
      (number? (followingDigits (trim release))).getD 0 := by
    unfold followingDigits
    cases (trim release).dropWhile Char.isDigit with
    | nil => rfl
    | cons c rest =>
      dsimp only
      rw [splitAt_eq, digits]
      rfl
  rw [ofRelease?, splitAt_eq, digits]
  dsimp only
  rw [behind]
  unfold leadingDigits
  cases number? ((trim release).takeWhile Char.isDigit) <;> rfl

/-- A row of digits that no further digit follows is found as a whole. -/
theorem takeWhile_digits {digits rest : List Char} (all : ∀ c ∈ digits, c.isDigit = true)
    (stops : ∀ c ∈ rest.head?, c.isDigit = false) :
    (digits ++ rest).takeWhile Char.isDigit = digits ∧ (digits ++ rest).dropWhile Char.isDigit = rest := by
  have nothing : rest.takeWhile Char.isDigit = [] := by
    cases rest with
    | nil => rfl
    | cons c _ => exact List.takeWhile_cons_of_neg (Bool.not_eq_true _ ▸ stops c rfl)
  constructor
  · rw [List.takeWhile_append_of_pos all, nothing, List.append_nil]
  · rw [List.dropWhile_append_of_pos all, dropWhile_of_head? stops]

theorem isDigit_of_mem_digits {n : Nat} : ∀ c ∈ Nat.toDigits 10 n, c.isDigit = true :=
  fun _ => Nat.isDigit_of_mem_toDigits (by decide) (by decide)

theorem number?_digits (n : UInt32) : number? (Nat.toDigits 10 n.toNat) = some n :=
  number?_eq_some.mpr ⟨Nat.toDigits_ne_nil, Nat.ofDigitChars_ten_toDigits.symm⟩

theorem text_toList (v : KernelVersion) :
    v.text.toList = Nat.toDigits 10 v.major.toNat ++ '.' :: Nat.toDigits 10 v.minor.toNat := by
  simp [text]

theorem isDigit_of_head?_text {v : KernelVersion} {c : Char} (first : c ∈ v.text.toList.head?) :
    c.isDigit = true := by
  rw [text_toList] at first
  exact isDigit_of_mem_digits c (List.mem_of_mem_head? (mem_head?_of_append Nat.toDigits_ne_nil first))

theorem isDigit_of_getLast?_text {v : KernelVersion} {c : Char} (last : c ∈ v.text.toList.getLast?) :
    c.isDigit = true := by
  rw [text_toList, List.append_cons] at last
  exact isDigit_of_mem_digits c (List.mem_of_getLast? (mem_getLast?_of_append Nat.toDigits_ne_nil last))

theorem not_isBlank_of_isDigit {c : Char} (digit : c.isDigit = true) : isBlank c = false := by
  obtain ⟨lower, upper⟩ := Char.isDigit_iff_toNat.mp digit
  have low : 48 ≤ c.toNat := lower
  have high : c.toNat ≤ 57 := upper
  simp only [isBlank, Bool.or_eq_false_iff, Bool.and_eq_false_iff, decide_eq_false_iff_not, beq_eq_false_iff_ne]
  omega

/-- A version that is written down is read back, whatever follows it, as long as it does not add digits. -/
theorem ofRelease?_written {v : KernelVersion} {before suffix after : List Char}
    (blank : ∀ c ∈ before, isBlank c = true) (blank' : ∀ c ∈ after, isBlank c = true)
    (stops : ∀ c ∈ suffix.head?, c.isDigit = false) :
    ofRelease? (before ++ v.text.toList ++ suffix ++ after) = some v := by
  obtain ⟨kept, blanks, split, blank'', ends⟩ := exists_last_blanks (suffix ++ after)
  have later : ∀ c ∈ kept.head?, c.isDigit = false := by
    intro c member
    have first : c ∈ (suffix ++ after).head? := split ▸ mem_head?_append member
    cases suffix with
    | cons d _ => exact stops c first
    | nil =>
      refine Bool.eq_false_iff.mpr fun digit => ?_
      have white := blank' c (List.mem_of_mem_head? first)
      rw [not_isBlank_of_isDigit digit] at white
      cases white
  have stripped : Stripped (before ++ v.text.toList ++ suffix ++ after) (v.text.toList ++ kept) := by
    refine ⟨⟨before, blanks, ?_, blank, blank''⟩, fun c first => ?_, fun c last => ?_⟩
    · simp only [List.append_assoc, split]
    · have some : v.text.toList ≠ [] := by simp [text_toList]
      exact not_isBlank_of_isDigit (isDigit_of_head?_text (mem_head?_of_append some first))
    · by_cases bare : kept = []
      · rw [bare, List.append_nil] at last
        exact not_isBlank_of_isDigit (isDigit_of_getLast?_text last)
      · exact ends c (mem_getLast?_of_append bare last)
  have point : ∀ c ∈ ('.' :: (Nat.toDigits 10 v.minor.toNat ++ kept)).head?, c.isDigit = false := by
    intro c first
    cases first
    rfl
  have leading := takeWhile_digits (isDigit_of_mem_digits (n := v.major.toNat)) point
  have following := takeWhile_digits (isDigit_of_mem_digits (n := v.minor.toNat)) later
  rw [ofRelease?_eq, stripped.trim_eq, text_toList, List.append_assoc, List.cons_append, leadingDigits,
    followingDigits, leading.1, leading.2, List.drop_one, List.tail_cons, following.1, number?_digits,
    number?_digits]
  rfl

/-- What reading a release text gives. -/
structure Reads (release : List Char) : Prop where
  core : Stripped release (trim release)
  /-- A text without a number at its start, or with one that does not fit, names no version. -/
  unread : ofRelease? release = none ↔
    leadingDigits (trim release) = [] ∨ 2 ^ 32 ≤ value (leadingDigits (trim release))
  /-- The other number is as good as zero if it is missing or does not fit. -/
  read : ∀ v, ofRelease? release = some v → v.major.toNat = value (leadingDigits (trim release)) ∧
    v.minor.toNat = if followingDigits (trim release) ≠ [] ∧ value (followingDigits (trim release)) < 2 ^ 32 then
      value (followingDigits (trim release)) else 0
  written : ∀ (v : KernelVersion) before suffix after, release = before ++ v.text.toList ++ suffix ++ after →
    (∀ c ∈ before, isBlank c = true) → (∀ c ∈ after, isBlank c = true) → (∀ c ∈ suffix.head?, c.isDigit = false) →
    ofRelease? release = some v
  /-- Pages are probed if the text starts with a small number, and not if that number is too large. -/
  policy : Residency.forKernel (ofRelease? release) = .probe ↔
    leadingDigits (trim release) ≠ [] ∧ value (leadingDigits (trim release)) < 4

/-- A second number that is missing or too large counts as zero. -/
theorem minor_toNat (digits : List Char) : ((number? digits).getD 0).toNat =
    if digits ≠ [] ∧ value digits < 2 ^ 32 then value digits else 0 := by
  cases read : number? digits with
  | none =>
    have unread := number?_eq_none.mp read
    rw [if_neg fun fits => unread.elim fits.1 (Nat.not_le.mpr fits.2)]
    rfl
  | some n =>
    obtain ⟨some, same⟩ := number?_eq_some.mp read
    rw [if_pos ⟨some, same ▸ n.toNat_lt_size⟩]
    exact same

/-- Pages are probed if a release text starts with a small number, and not if that number is too large. -/
theorem forKernel_ofRelease?_eq_probe {release : List Char} : Residency.forKernel (ofRelease? release) = .probe ↔
    leadingDigits (trim release) ≠ [] ∧ value (leadingDigits (trim release)) < 4 := by
  rw [ofRelease?_eq]
  cases leads : number? (leadingDigits (trim release)) with
  | none =>
    -- A number that does not fit is not small, although it would be if its high digits were lost.
    have unread := number?_eq_none.mp leads
    refine ⟨nofun, fun small => ?_⟩
    have large := unread.resolve_left small.1
    have few := small.2
    omega
  | some major =>
    obtain ⟨some, same⟩ := number?_eq_some.mp leads
    have old : major < Residency.trustedMajor ↔ value (leadingDigits (trim release)) < 4 := by
      rw [UInt32.lt_iff_toNat_lt, same]
      rfl
    simp only [Option.map_some, Residency.forKernel, old, some, ne_eq, not_false_eq_true, true_and]
    split <;> simp [*]

/-- Whatever else a release text consists of, only the digits at its start and those behind the next character are
looked at. -/
theorem reads_release (release : List Char) : Reads release := by
  have parts := ofRelease?_eq release
  refine ⟨trim_stripped release, ?_, ?_, ?_, ?_⟩
  · rw [parts, Option.map_eq_none_iff, number?_eq_none]
  · intro v read
    rw [parts] at read
    obtain ⟨major, leads, rfl⟩ := Option.map_eq_some_iff.mp read
    exact ⟨(number?_eq_some.mp leads).2, minor_toNat _⟩
  · rintro v before suffix after rfl
    exact ofRelease?_written
  · exact forKernel_ofRelease?_eq_probe

/-- Further numbers, and what a distribution adds, do not matter. -/
example : ofRelease? "5.15.0-91-generic\n".toList = some ⟨5, 15⟩ := by decide

end KernelVersion

end ForeignPages
