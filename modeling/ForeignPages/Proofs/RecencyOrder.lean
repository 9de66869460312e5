import ForeignPages.Proofs.Recency
import ForeignPages.Proofs.StoreEntries

namespace ForeignPages

variable {Page : Type}

/-- The first of those that satisfy a predicate are taken. -/
theorem takeFirst_fst {α : Type} (p : α → Bool) (n : Nat) (l : List α) : (takeFirst p n l).1 = (l.filter p).take n := by
  induction l generalizing n with
  | nil => cases n <;> rfl
  | cons a rest ih =>
    cases n with
    | zero => rfl
    | succ n =>
      by_cases has : p a
      · rw [takeFirst, if_pos has, List.filter_cons_of_pos has, List.take_succ_cons, ih]
      · rw [takeFirst, if_neg has, List.filter_cons_of_neg has, ih]

/-- The others are left. -/
theorem takeFirst_perm {α : Type} (p : α → Bool) (n : Nat) (l : List α) :
    l.Perm ((takeFirst p n l).1 ++ (takeFirst p n l).2) := by
  induction l generalizing n with
  | nil => cases n <;> exact .refl _
  | cons a rest ih =>
    cases n with
    | zero => exact .refl _
    | succ n =>
      by_cases has : p a
      · rw [takeFirst, if_pos has]
        exact (ih n).cons a
      · rw [takeFirst, if_neg has]
        exact ((ih (n + 1)).cons a).trans List.perm_middle.symm

/-- They are left in their order. -/
theorem takeFirst_snd_sublist {α : Type} (p : α → Bool) (n : Nat) (l : List α) : (takeFirst p n l).2.Sublist l := by
  induction l generalizing n with
  | nil => cases n <;> exact .refl _
  | cons a rest ih =>
    cases n with
    | zero => exact .refl _
    | succ n =>
      by_cases has : p a
      · rw [takeFirst, if_pos has]
        exact (ih n).cons a
      · rw [takeFirst, if_neg has]
        exact (ih (n + 1)).cons_cons a

theorem takeFirst_map {α β : Type} (p : α → Bool) (f : β → α) (n : Nat) (l : List β) :
    takeFirst p n (l.map f) =
      ((takeFirst (fun b => p (f b)) n l).1.map f, (takeFirst (fun b => p (f b)) n l).2.map f) := by
  induction l generalizing n with
  | nil => cases n <;> rfl
  | cons b rest ih =>
    cases n with
    | zero => rfl
    | succ n =>
      rw [List.map_cons, takeFirst, takeFirst]
      by_cases has : p (f b)
      · rw [if_pos has, if_pos has, ih]
        rfl
      · rw [if_neg has, if_neg has, ih]
        rfl

/-- The order of the last use, which no two of the listed pages share. -/
def Entry.UsedBefore (e f : Entry Page) : Prop := e.lastUse.toNat < f.lastUse.toNat

theorem Entry.UsedBefore.evictedBefore {e f : Entry Page} (before : e.UsedBefore f) :
    e.evictedBefore f = true := by
  have earlier : e.lastUse < f.lastUse := UInt64.lt_iff_toNat_lt.mpr before
  simp [Entry.evictedBefore, earlier]

theorem Entry.evictedBefore_iff {e f : Entry Page} : e.evictedBefore f = true ↔
    e.lastUse.toNat < f.lastUse.toNat ∨
      e.lastUse.toNat = f.lastUse.toNat ∧ e.gfn.number.toNat ≤ f.gfn.number.toNat := by
  simp only [Entry.evictedBefore, Bool.or_eq_true, Bool.and_eq_true, decide_eq_true_eq, beq_iff_eq,
    UInt64.lt_iff_toNat_lt, UInt64.le_iff_toNat_le, ← UInt64.toNat_inj]

theorem Entry.evictedBefore_trans (e f g : Entry Page) (first : e.evictedBefore f = true)
    (second : f.evictedBefore g = true) : e.evictedBefore g = true := by
  rw [Entry.evictedBefore_iff] at first second ⊢
  omega

theorem Entry.evictedBefore_total (e f : Entry Page) : (e.evictedBefore f || f.evictedBefore e) = true := by
  rw [Bool.or_eq_true, Entry.evictedBefore_iff, Entry.evictedBefore_iff]
  omega

/-- In a list in the order of last use, the last use tells pages apart. -/
theorem Entry.eq_of_lastUse {es : List (Entry Page)} {e f : Entry Page} (sorted : es.Pairwise Entry.UsedBefore)
    (member : e ∈ es) (member' : f ∈ es) (same : e.lastUse.toNat = f.lastUse.toNat) : e = f := by
  induction sorted with
  | nil => cases member
  | @cons d rest before _ ih =>
    rcases List.mem_cons.mp member with rfl | later <;> rcases List.mem_cons.mp member' with rfl | later'
    · rfl
    · exact absurd same (Nat.ne_of_lt (before f later'))
    · exact absurd same (Nat.ne_of_gt (before e later))
    · exact ih later later'

/-- A page that is used now was used after all others. -/
theorem Entry.usedBefore_append {es : List (Entry Page)} {e : Entry Page} {clock next : UInt64}
    (sorted : es.Pairwise Entry.UsedBefore) (past : ∀ d ∈ es, d.lastUse.toNat < clock.toNat)
    (used : e.lastUse = clock) (given : next.toNat = clock.toNat + 1) :
    (es ++ [e]).Pairwise Entry.UsedBefore ∧ ∀ d ∈ es ++ [e], d.lastUse.toNat < next.toNat := by
  constructor
  · refine List.pairwise_append.mpr ⟨sorted, List.pairwise_singleton _ _, ?_⟩
    intro d member last here
    rw [List.mem_singleton.mp here, Entry.UsedBefore, used]
    exact past d member
  · intro d member
    rcases List.mem_append.mp member with old | new
    · have before := past d old
      omega
    · rw [List.mem_singleton.mp new, used]
      omega

/-- Sorting finds the order of last use, whatever the order in which the pages are gone through. -/
theorem Entry.mergeSort_eq {es unused : List (Entry Page)} (sorted : es.Pairwise Entry.UsedBefore)
    (same : es.Perm unused) : unused.mergeSort Entry.evictedBefore = es := by
  have perm : (unused.mergeSort Entry.evictedBefore).Perm es := (List.mergeSort_perm ..).trans same.symm
  have ordered : (unused.mergeSort Entry.evictedBefore).Pairwise fun e f => e.evictedBefore f = true :=
    List.pairwise_mergeSort Entry.evictedBefore_trans Entry.evictedBefore_total unused
  -- The numbers of the pages would decide only between equal tokens, of which there are none.
  refine List.Perm.eq_of_pairwise ?_ ordered (sorted.imp Entry.UsedBefore.evictedBefore) perm
  intro e f member member' first second
  rw [Entry.evictedBefore_iff] at first second
  exact Entry.eq_of_lastUse sorted (perm.mem_iff.mp member) member' (by omega)

theorem Store.victims_eq {es unused : List (Entry Page)} (sorted : es.Pairwise Entry.UsedBefore)
    (same : es.Perm unused) (limit : Nat) :
    Store.victims limit unused = (es.take (limit / 2)).map (·.gfn) := by
  rw [Store.victims, Entry.mergeSort_eq sorted same]

theorem Store.found_after_remove {s : Store Page} {e : Entry Page} {others : List (Entry Page)}
    (new : e.gfn ∉ others.map (·.gfn)) (cached : ∀ d ∈ others, s.find? d.gfn = some d) :
    ∀ d ∈ others, (s.remove e.gfn).2.find? d.gfn = some d := by
  intro d member
  have different : d.gfn ≠ e.gfn := fun same => new (List.mem_map.mpr ⟨d, member, same⟩)
  rw [Store.find?_remove, if_neg different]
  exact cached d member

/-- Taking cached pages out by their numbers gives back these pages, in this order. -/
theorem Store.removeAll_fst {s : Store Page} {chosen : List (Entry Page)}
    (cached : ∀ e ∈ chosen, s.find? e.gfn = some e) (apart : (chosen.map (·.gfn)).Nodup) :
    (s.removeAll (chosen.map (·.gfn))).1 = chosen := by
  induction chosen generalizing s with
  | nil => rfl
  | cons e rest ih =>
    obtain ⟨new, apart⟩ := List.nodup_cons.mp apart
    have found := cached e List.mem_cons_self
    have later := Store.found_after_remove new fun d member => cached d (List.mem_cons_of_mem _ member)
    have taken : (s.remove e.gfn).1 = some e := by rw [Store.remove_of_found found]
    rw [List.map_cons, Store.removeAll]
    dsimp only
    rw [taken, ih later apart]
    rfl

end ForeignPages
