import ForeignPages.KernelRelease
import ForeignPages.Proofs.ReleaseText

namespace ForeignPages

/-- The bytes of a file are those of a text. -/
def Spells (bytes : List UInt8) (text : String) : Prop := bytes.toByteArray = text.toUTF8

theorem fromUTF8?_eq_some {bytes : ByteArray} {text : String} :
    String.fromUTF8? bytes = some text ↔ bytes = text.toUTF8 := by
  constructor
  · intro decoded
    unfold String.fromUTF8? at decoded
    split at decoded
    · cases decoded
      rfl
    · cases decoded
  · rintro rfl
    unfold String.fromUTF8?
    rw [String.toUTF8_eq_toByteArray, dif_pos text.isValidUTF8]
    rfl

/-- Bytes decode to the one text that they spell. -/
theorem decodeText_eq_ok {bytes : List UInt8} {text : String} : decodeText bytes = .ok text ↔ Spells bytes text := by
  rw [Spells, ← fromUTF8?_eq_some, decodeText]
  cases String.fromUTF8? bytes.toByteArray <;> simp

theorem decodeText_eq_error {bytes : List UInt8} {source : IoError} : decodeText bytes = .error source ↔
    (∀ text, ¬ Spells bytes text) ∧ source = .custom .invalidData "stream did not contain valid UTF-8" := by
  simp only [Spells, ← fromUTF8?_eq_some, decodeText]
  cases String.fromUTF8? bytes.toByteArray with
  | none => simp [eq_comm]
  | some text => simp

namespace KernelVersion

/-- The version that a release file names: its text does, if it has one. -/
def named? (content : Except IoError (List UInt8)) : Option KernelVersion :=
  content.toOption.bind fun bytes => (decodeText bytes).toOption.bind fun release => ofRelease? release.toList

/-- What is learned from a release file, and what is logged on the way. -/
inductive Learned (path : String) : Except IoError (List UInt8) → Option KernelVersion → List Event → Prop
  | unreadable (source : IoError) : Learned path (.error source) none [.releaseUnreadable path source]
  | undecodable {bytes : List UInt8} : (∀ text, ¬ Spells bytes text) → Learned path (.ok bytes) none
      [.releaseUnreadable path (.custom .invalidData "stream did not contain valid UTF-8")]
  /-- A text that names no version is logged without the blanks around it. -/
  | malformed {bytes : List UInt8} {release : String} {core : List Char} : Spells bytes release →
      ofRelease? release.toList = none → Stripped release.toList core →
      Learned path (.ok bytes) none [.releaseMalformed (String.ofList core)]
  | parsed {bytes : List UInt8} {release : String} {version : KernelVersion} : Spells bytes release →
      ofRelease? release.toList = some version → Learned path (.ok bytes) (some version) []

/-- Whatever is learned from a file, the version is the one that the file names. -/
theorem Learned.eq_named {path : String} {content : Except IoError (List UInt8)} {version : Option KernelVersion}
    {events : List Event} (learned : Learned path content version events) : version = named? content := by
  cases learned with
  | unreadable => rfl
  | undecodable unspelled =>
    simp only [named?, Except.toOption, Option.bind_some, decodeText_eq_error.mpr ⟨unspelled, rfl⟩, Option.bind_none]
  | malformed spells names | parsed spells names =>
    simp only [named?, Except.toOption, Option.bind_some, decodeText_eq_ok.mpr spells, names]

/-- Reading a file tells what there is to learn from it, and nothing else. -/
theorem learned_read (path : String) (content : Except IoError (List UInt8)) :
    Learned path content (read path content).1 (read path content).2 := by
  cases content with
  | error source => exact .unreadable source
  | ok bytes =>
    cases decoded : decodeText bytes with
    | error source =>
      obtain ⟨unspelled, rfl⟩ := decodeText_eq_error.mp decoded
      simp only [read, Except.bind, decoded]
      exact .undecodable unspelled
    | ok release =>
      have spells := decodeText_eq_ok.mp decoded
      cases names : ofRelease? release.toList with
      | none =>
        simp only [read, Except.bind, decoded, names]
        exact .malformed spells names (trim_stripped _)
      | some version =>
        simp only [read, Except.bind, decoded, names]
        exact .parsed spells names

theorem learned_ofFile (content : Except IoError (List UInt8)) :
    Learned releasePath content (ofFile content).1 (ofFile content).2 := learned_read releasePath content

/-- The version of the host kernel is the one that its release file names. -/
theorem ofFile_eq_named (content : Except IoError (List UInt8)) : (ofFile content).1 = named? content :=
  (learned_ofFile content).eq_named

end KernelVersion

end ForeignPages
