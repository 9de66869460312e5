import ForeignPages.Image.Host
import ForeignPages.Proofs.ImageEffects
import ForeignPages.Proofs.PageBytes

namespace ForeignPages

theorem ImageFile.overwrite_add (byte : Nat → UInt8) (base offset : Nat) (block : Array UInt8) (i : Nat) :
    overwrite byte (base + offset) block (base + i) = overwrite (fun i => byte (base + i)) offset block i := by
  simp only [overwrite, Nat.add_le_add_iff_left, Nat.add_sub_add_left]

namespace ImagePage

/-- The file of an image still reaches as far as a page, which is a part of the file itself if it is shared. -/
def Backed (page : ImagePage) (w : ImageWorld) : Prop :=
  page.offset.toNat + 4096 ≤ w.file.size.toNat ∧ (page.shared = true → w.copies page.serial = none)

instance (page : ImagePage) (w : ImageWorld) : Decidable (page.Backed w) := inferInstanceAs (Decidable (_ ∧ _))

/-- Two mappings of different parts of the file. -/
def Apart (p q : ImagePage) : Prop :=
  p.serial ≠ q.serial ∧ (p.offset.toNat + 4096 ≤ q.offset.toNat ∨ q.offset.toNat + 4096 ≤ p.offset.toNat)

instance (p q : ImagePage) : Decidable (p.Apart q) := inferInstanceAs (Decidable (_ ∧ _))

theorem Apart.symm {p q : ImagePage} (apart : p.Apart q) : q.Apart p := ⟨apart.1.symm, apart.2.symm⟩

theorem Backed.lt_extent {q : ImagePage} {w : ImageWorld} (backed : q.Backed w) {i : Nat} (within : i < 4096) :
    q.offset.toNat + i < w.file.extent := by
  have reaches := backed.1
  unfold ImageFile.extent
  omega

theorem Backed.of_same {q : ImagePage} {w next : ImageWorld} (backed : q.Backed w)
    (size : next.file.size = w.file.size) (copies : next.copies q.serial = w.copies q.serial) : q.Backed next := by
  unfold Backed
  rw [size, copies]
  exact backed

/-- What is written to the file behind a shared page is seen by no page that shows another part of it. -/
theorem byte_write_of_shared {p q : ImagePage} {w : ImageWorld} (shared : p.shared = true) {offset : Nat}
    {bytes : List UInt8} (fits : offset + bytes.length ≤ 4096) (apart : p.Apart q) {i : Nat} (within : i < 4096) :
    (w.write p offset bytes).byte q i = w.byte q i := by
  have aside : q.offset.toNat + i < p.offset.toNat + offset ∨
      p.offset.toNat + offset + bytes.toArray.size ≤ q.offset.toNat + i := by
    rw [List.size_toArray]
    have parts := apart.2
    omega
  rw [w.write_of_shared shared]
  unfold ImageWorld.byte
  dsimp only
  cases w.copies q.serial with
  | some copy => rfl
  | none =>
    have same : ImageFile.overwrite w.file.byte (p.offset.toNat + offset) bytes.toArray (q.offset.toNat + i) =
        w.file.byte (q.offset.toNat + i) := ImageFile.overwrite_outside aside
    exact ite_congr rfl (fun _ => same) fun _ => rfl

end ImagePage

/-- The memory of an image stores what is written to it. -/
theorem imageHost_stores (place : Nat → Handle) :
    (imageHost place).Stores (fun _ => 4096) ImagePage.Backed where
  size_le _ _ _ := Nat.le_refl 4096
  stays_sound page offset bytes w backed _ := by
    change page.Backed (w.write page offset bytes)
    cases shared : page.shared with
    | true =>
      rw [w.write_of_shared shared]
      exact backed
    | false =>
      refine ⟨?_, fun own => nomatch shared.symm.trans own⟩
      rw [(w.write_of_private shared offset bytes).1]
      exact backed.1
  byte_write page offset bytes w backed _ i within := by
    change (w.write page offset bytes).byte page i = ImageFile.overwrite (w.byte page) offset bytes.toArray i
    cases shared : page.shared with
    | true =>
      have own := backed.2 shared
      have inside := backed.lt_extent within
      have shown : ∀ k, ImageWorld.byte w page k = w.file.mapped (page.offset.toNat + k) := fun k => by
        rw [ImageWorld.byte, own]
      have block := ImageFile.overwrite_add w.file.byte page.offset.toNat offset bytes.toArray i
      rw [w.write_of_shared shared, ImageWorld.byte, own]
      refine (if_pos inside).trans (block.trans (ImageFile.overwrite_congr ?_ offset bytes.toArray))
      exact ((shown i).trans (if_pos inside)).symm
    | false =>
      obtain ⟨file, _, copies⟩ := w.write_of_private shared offset bytes
      by_cases nothing : bytes = []
      · have idle : ImageFile.overwrite (w.byte page) offset bytes.toArray i = w.byte page i :=
          ImageFile.overwrite_outside (by rw [nothing]; exact Nat.lt_or_ge i offset)
        rw [idle, ImageWorld.byte, ImageWorld.byte, copies, if_neg fun some => some.2 nothing, file]
      · rw [ImageWorld.byte, copies, if_pos ⟨rfl, nothing⟩]

/-- Mappings of different parts of an image have no bytes in common, as long as the file reaches as far as they do:
a shared one writes to its part of the file only, and any other one to a copy of its own. -/
theorem imageHost_separates (place : Nat → Handle) :
    (imageHost place).Separates ImagePage.Apart (fun _ => 4096) ImagePage.Backed where
  toStores := imageHost_stores place
  symm _ _ := ImagePage.Apart.symm
  map d gfn protection w q _ backed := by
    have same : (w.map d gfn protection (place w.mapped)).2.file = w.file ∧
        (w.map d gfn protection (place w.mapped)).2.copies = w.copies := by
      unfold ImageWorld.map
      split <;> exact ⟨rfl, rfl⟩
    have bytes : (w.map d gfn protection (place w.mapped)).2.byte q = w.byte q := by
      funext i
      rw [ImageWorld.byte, ImageWorld.byte, same.1, same.2]
    exact ⟨backed.of_same (congrArg ImageFile.size same.1) (congrFun same.2 q.serial), fun i _ => congrFun bytes i⟩
  unmap p w q apart backed := by
    have copies : (w.unmap p).copies q.serial = w.copies q.serial :=
      (w.unmap_copies p q.serial).trans (if_neg apart.1.symm)
    refine ⟨backed.of_same (congrArg ImageFile.size (w.unmap_file p)) copies, fun i _ => ?_⟩
    show (w.unmap p).byte q i = w.byte q i
    rw [ImageWorld.byte, ImageWorld.byte, copies, w.unmap_file]
  probe _ _ _ _ _ backed := ⟨backed, fun _ _ => rfl⟩
  write p offset bytes w q _ fits apart backed := by
    change q.Backed (w.write p offset bytes) ∧ ∀ i < 4096, (w.write p offset bytes).byte q i = w.byte q i
    cases shared : p.shared with
    | true =>
      refine ⟨?_, fun i within => ImagePage.byte_write_of_shared shared fits apart within⟩
      rw [w.write_of_shared shared]
      exact backed.of_same rfl rfl
    | false =>
      obtain ⟨file, _, copies⟩ := w.write_of_private shared offset bytes
      refine ⟨backed.of_same (congrArg ImageFile.size file) ?_, fun i _ => ?_⟩
      · exact (copies q.serial).trans (if_neg fun own => apart.1.symm own.1)
      · rw [w.byte_write_of_private shared apart.1.symm]

end ForeignPages
