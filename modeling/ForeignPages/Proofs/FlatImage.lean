import ForeignPages.Image.Host
import ForeignPages.Session

namespace ForeignPages

/-- The reply without the address of the page. -/
def Reply.anonymous : Reply → Reply
  | .handle _ => .handle .null
  | .lease given => .lease { given with handle := .null }
  | reply => reply

/-- The operation takes a page, or accesses one. Others say only how long pages are kept. -/
def Op.accesses {World Driver Probe : Type} : Op World Driver Probe → Bool
  | .release _ | .setLimit _ => false
  | _ => true

/-- An image of a number of pages. Behind them its bytes mean nothing. -/
structure FlatImage where
  pages : Nat
  byte : Nat → UInt8
  /-- The pages that were taken, by name. -/
  guards : Index String Gfn

namespace FlatImage

variable {World Driver Probe : Type}

/-- The image of a whole file. -/
def ofFile (file : ImageFile) : FlatImage := ⟨file.size.toNat / 4096, file.get, .empty⟩

def take (f : FlatImage) (gfn : Gfn) (taken : Reply × FlatImage) : Reply × FlatImage :=
  if gfn.number.toNat < f.pages then taken
  else (.refused (.mapFailed gfn (.custom .invalidInput "page outside of the memory image")), f)

/-- Works on a range of the page under a name, which starts at some byte of the image. -/
def onRange (f : FlatImage) (name : String) (offset count : Nat) (work : Nat → Reply × FlatImage) :
    Reply × FlatImage :=
  match f.guards.find? name with
  | none => (.misused .noSuchGuard, f)
  | some gfn =>
    if offset + count ≤ 4096 then work (gfn.number.toNat * 4096 + offset) else (.refused .outOfBounds, f)

/-- Bytes of the image from a position on. -/
def read (f : FlatImage) (start count : Nat) : List UInt8 :=
  (List.range count).map fun i => f.byte (start + i)

/-- Bytes are put into the image from a position on. -/
def write (f : FlatImage) (start : Nat) (bytes : List UInt8) : FlatImage :=
  { f with byte := fun i => if start ≤ i then bytes[i - start]?.getD (f.byte i) else f.byte i }

/-- Performs one operation. Limits and releases do nothing, and other operations do not occur. -/
def step (f : FlatImage) : Op World Driver Probe → Reply × FlatImage
  | .acquire gfn => f.take gfn (.handle .null, f)
  | .get gfn name => f.take gfn (.lease ⟨.null, 4096⟩, { f with guards := f.guards.insert name gfn })
  | .dropGuard name => match f.guards.find? name with
    | none => (.misused .noSuchGuard, f)
    | some _ => (.nothing, { f with guards := f.guards.erase name })
  | .read name offset count => f.onRange name offset count fun start => (.bytes (f.read start count), f)
  | .write name offset bytes => f.onRange name offset bytes.length fun start => (.nothing, f.write start bytes)
  | .readWord name offset => f.onRange name offset 8 fun start => (.word (Layout.word64.decode (f.read start 8)), f)
  | .writeWord name offset value => f.onRange name offset 8 fun start =>
    (.nothing, f.write start (Layout.word64.encode value))
  | .readHeader name offset => f.onRange name offset 16 fun start =>
    (.header (Header.layout.decode (f.read start 16)), f)
  | .writeHeader name offset value => f.onRange name offset 16 fun start =>
    (.nothing, f.write start (Header.layout.encode value))
  | .setLimit limit => (if limit < minLimit then .refused (.limitTooSmall limit minLimit) else .nothing, f)
  | _ => (.nothing, f)

/-- The image after operations, the newest of which comes first. -/
def after (f : FlatImage) : List (Op World Driver Probe) → FlatImage
  | [] => f
  | op :: older => ((f.after older).step op).2

/-- What was asked of an image, with the replies, the newest first. -/
def transcript (f : FlatImage) : List (Op World Driver Probe) → List (Op World Driver Probe × Reply)
  | [] => []
  | op :: older => (op, ((f.after older).step op).1) :: f.transcript older

theorem step_of_idle (f : FlatImage) {op : Op World Driver Probe} (idle : op.accesses = false) : (f.step op).2 = f := by
  cases op with
  | release | setLimit => rfl
  | _ => cases idle

/-- Only accesses count for the bytes of an image. -/
theorem after_filter (f : FlatImage) (ops : List (Op World Driver Probe)) :
    f.after (ops.filter Op.accesses) = f.after ops := by
  induction ops with
  | nil => rfl
  | cons op older ih =>
    cases accesses : op.accesses with
    | true => simp only [List.filter_cons, accesses, if_true, after, ih]
    | false => simp only [List.filter_cons, accesses, Bool.false_eq_true, if_false, after, step_of_idle, ih]

/-- Without the operations that do nothing, the others get the same replies. -/
theorem transcript_filter (f : FlatImage) (ops : List (Op World Driver Probe)) :
    f.transcript (ops.filter Op.accesses) = (f.transcript ops).filter fun entry => entry.1.accesses := by
  induction ops with
  | nil => rfl
  | cons op older ih =>
    cases accesses : op.accesses with
    | true => simp only [transcript, List.filter_cons, accesses, if_true, f.after_filter older, ih]
    | false => simp only [transcript, List.filter_cons, accesses, Bool.false_eq_true, if_false, ih]

theorem write_byte (f : FlatImage) (start : Nat) (bytes : List UInt8) (i : Nat) :
    (f.write start bytes).byte i = ImageFile.overwrite f.byte start bytes.toArray i := by
  simp only [write, ImageFile.overwrite, List.getElem?_toArray]
  split
  · cases bytes[i - start]? <;> rfl
  · rfl

end FlatImage

end ForeignPages
