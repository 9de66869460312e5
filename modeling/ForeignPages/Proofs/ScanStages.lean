import ForeignPages.Proofs.RecencyOrder
import ForeignPages.Scan

namespace ForeignPages

theorem takeFirst_append_of_none {α : Type} {p : α → Bool} {l : List α} (none : ∀ a ∈ l, p a = false) (n : Nat)
    (rest : List α) :
    takeFirst p n (l ++ rest) = ((takeFirst p n rest).1, l ++ (takeFirst p n rest).2) := by
  induction l with
  | nil => rfl
  | cons a l ih =>
    cases n with
    | zero =>
      cases rest <;> rfl
    | succ n =>
      have has : p a = false := none a List.mem_cons_self
      have later := ih fun b member => none b (List.mem_cons_of_mem a member)
      rw [List.cons_append, takeFirst, if_neg (Bool.eq_false_iff.mp has), later]
      rfl

theorem takeFirst_of_all {α : Type} {p : α → Bool} {l : List α} (all : ∀ a ∈ l, p a = true) (n : Nat) :
    takeFirst p n l = (l.take n, l.drop n) := by
  induction l generalizing n with
  | nil => cases n <;> rfl
  | cons a l ih =>
    cases n with
    | zero => rfl
    | succ n =>
      have later := ih (fun b member => all b (List.mem_cons_of_mem a member)) n
      rw [takeFirst, if_pos (all a List.mem_cons_self), later]
      rfl

namespace Scan

/-- A moment of a scan, in which pages go by their numbers. -/
@[ext]
structure Stage where
  /-- The cached pages, the least recently acquired one first. -/
  cached : List Nat
  /-- The pages of the guards that are alive. -/
  held : List Nat
  /-- How many pages were mapped so far. -/
  mapped : Nat
  /-- How often a page was acquired so far. -/
  acquired : Nat
  lines : List ScanLine

namespace Stage

def free (st : Stage) (page : Nat) : Bool := st.held.count page == 0

/-- At the limit, the first free pages are evicted, at most half as many as the limit allows. -/
def cleaned (st : Stage) : Stage :=
  if limit ≤ st.cached.length then
    let (evicted, kept) := takeFirst st.free (limit / 2) st.cached
    { st with
      cached := kept
      lines := st.lines ++ [.told (.cleanedUp st.cached.length (st.cached.countP st.free) evicted.length)] }
  else st

theorem cleaned_subset (st : Stage) : st.cleaned.cached ⊆ st.cached := by
  unfold cleaned
  split
  · exact (takeFirst_snd_sublist ..).subset
  · exact List.Subset.refl _

/-- A guard is taken for a page, which is mapped if it is not cached. -/
def take (st : Stage) (page : Nat) : Stage :=
  if page ∈ st.cached then
    { st with
      cached := st.cached.filter (· ≠ page) ++ [page]
      held := page :: st.held
      acquired := st.acquired + 1 }
  else
    { st.cleaned with
      cached := st.cleaned.cached ++ [page]
      held := page :: st.held
      mapped := st.mapped + 1
      acquired := st.acquired + 1 }

/-- A guard is dropped. -/
def drop (st : Stage) (page : Nat) : Stage := { st with held := st.held.erase page }

end Stage

/-- What is told of each cleanup: only the pinned pages are held, and half of the limit goes. -/
def cleanup : ScanLine := .told (.cleanedUp 64 56 32)

/-- How often there was a cleanup before a page is visited. -/
def cleanups (next : Nat) : Nat := (next - 33) / 32

/-- The pages that the scan holds all the time. -/
def pins : List Nat := (List.range 8).reverse

/-- The stage when some pages are pinned, after lines that were told before. -/
def pinned (lines : List ScanLine) (count : Nat) : Stage :=
  ⟨List.range count, (List.range count).reverse, count, count, lines⟩

/-- The first of the other pages that is still cached when a page is visited. -/
def oldest (next : Nat) : Nat := 8 + 32 * cleanups next

/-- Both pages are mapped at the moment at which the later one comes in. -/
def Together (earlier later : Nat) : Prop := earlier < later ∧ (earlier < 8 ∨ oldest (later + 1) ≤ earlier)

/-- The stage when a page is visited next, after the lines that were told before. The visits of the pinned pages
only change their places. -/
def swept (lines : List ScanLine) (next : Nat) : Stage where
  cached :=
    if next < 8 then List.range' next (8 - next) ++ List.range next
    else List.range 8 ++ List.range' (oldest next) (next - oldest next)
  held := pins
  mapped := max 8 next
  acquired := 8 + next
  lines := lines

/-- How many pages are cached after a scan of an image, by its number of pages. -/
def live (pages : Nat) : Nat := if pages ≤ 64 then pages else 33 + (pages - 65) % 32

/-- What is told when one more page is asked for, by the number of pages so far. -/
def cleanup? (pages : Nat) : List ScanLine := if live pages = 64 then [cleanup] else []

/-- How many pages are cached when room was made for one more. -/
def left (pages : Nat) : Nat := if live pages = 64 then 32 else live pages

theorem count_pins (page : Nat) : pins.count page = if page < 8 then 1 else 0 := by
  unfold pins
  rw [List.count_reverse, List.count_range]

theorem free_swept {lines : List ScanLine} {next : Nat} (page : Nat) :
    (swept lines next).free page = decide (8 ≤ page) := by
  rw [Stage.free, swept, count_pins]
  split <;> simp <;> omega

theorem live_le (pages : Nat) : live pages ≤ 64 := by
  unfold live
  split <;> omega

theorem oldest_le {next : Nat} (behind : 8 ≤ next) : oldest next ≤ next := by
  unfold oldest cleanups
  omega

theorem cleanups_succ {next : Nat} (behind : 8 ≤ next) :
    cleanups (next + 1) = cleanups next + if live next = 64 then 1 else 0 := by
  unfold live cleanups
  split <;> split <;> omega

/-- With one more page the oldest page behind the window stays, unless the cache was full: then a cleanup moves it on
by thirty-two. -/
theorem oldest_succ {next : Nat} (behind : 8 ≤ next) :
    oldest (next + 1) = if live next = 64 then oldest next + 32 else oldest next := by
  unfold oldest
  rw [cleanups_succ behind]
  split <;> omega

/-- The pages cached when the sweep has come to some page: the eight pinned ones, then the window of the most recent
ones, in the order of their use. -/
theorem cached_swept {lines : List ScanLine} {next : Nat} (behind : 8 ≤ next) :
    (swept lines next).cached = List.range 8 ++ List.range' (oldest next) (next - oldest next) :=
  if_neg (Nat.not_lt.mpr behind)

theorem length_swept {lines : List ScanLine} {next : Nat} (behind : 8 ≤ next) :
    (swept lines next).cached.length = live next := by
  have older := oldest_le behind
  rw [cached_swept behind, List.length_append, List.length_range, List.length_range']
  unfold live
  unfold oldest cleanups at older ⊢
  split <;> omega

theorem sub_oldest_of_full {next : Nat} (behind : 8 ≤ next) (full : live next = 64) : next - oldest next = 56 := by
  have length : (swept [] next).cached.length = live next := length_swept behind
  rw [cached_swept behind, List.length_append, List.length_range, List.length_range', full] at length
  omega

theorem mem_swept {lines : List ScanLine} {next page : Nat} (behind : 8 ≤ next) :
    page ∈ (swept lines next).cached ↔ page < 8 ∨ oldest next ≤ page ∧ page < next := by
  have older := oldest_le behind
  rw [cached_swept behind, List.mem_append, List.mem_range, List.mem_range'_1]
  omega

theorem cleaned_of_lt {lines : List ScanLine} {next : Nat} (behind : 8 ≤ next) (spare : live next < 64) :
    (swept lines next).cleaned = swept lines next := by
  unfold Stage.cleaned
  rw [length_swept behind]
  exact if_neg (Nat.not_le.mpr spare)

/-- A cleanup of the full cache takes the thirty-two oldest pages of the window and leaves the pinned eight and
twenty-four more. -/
theorem cleaned_of_full {lines : List ScanLine} {next : Nat} (behind : 8 ≤ next) (full : live next = 64) :
    (swept lines next).cleaned = { swept lines next with
      cached := List.range 8 ++ List.range' (oldest next + 32) 24
      lines := lines ++ [cleanup] } := by
  have whole : (swept lines next).cached.length = 64 := (length_swept behind).trans full
  have width := sub_oldest_of_full behind full
  have none : ∀ page ∈ List.range 8, (swept lines next).free page = false := by
    intro page low
    rw [free_swept, decide_eq_false_iff_not]
    exact Nat.not_le.mpr (List.mem_range.mp low)
  have all : ∀ page ∈ List.range' (oldest next) 56, (swept lines next).free page = true := by
    intro page later
    have low : 8 ≤ oldest next := Nat.le_add_right _ _
    rw [free_swept, decide_eq_true_eq]
    exact Nat.le_trans low (List.mem_range'_1.mp later).1
  have unused : (swept lines next).cached.countP (swept lines next).free = 56 := by
    rw [cached_swept behind, width, List.countP_append, List.countP_eq_zero.mpr fun page low => by simp [none page low],
      List.countP_eq_length.mpr all, List.length_range', Nat.zero_add]
  have split : takeFirst (swept lines next).free 32 (swept lines next).cached =
      (List.range' (oldest next) 32, List.range 8 ++ List.range' (oldest next + 32) 24) := by
    have parts : List.range' (oldest next) 56 = List.range' (oldest next) 32 ++ List.range' (oldest next + 32) 24 :=
      (List.range'_append (m := 32) (n := 24)).symm
    rw [cached_swept behind, width, takeFirst_append_of_none none, takeFirst_of_all all, parts,
      List.take_left' List.length_range', List.drop_left' List.length_range']
  have reached : limit ≤ (swept lines next).cached.length := Nat.le_of_eq whole.symm
  unfold Stage.cleaned
  rw [if_pos reached, whole, unused, show limit / 2 = 32 from rfl, split]
  simp only [List.length_range']
  rfl

/-- The lines when a page is visited next, by those that were told before the first visit. -/
def visited (lines : List ScanLine) (next : Nat) : List ScanLine :=
  lines ++ List.replicate (cleanups next) cleanup

theorem visited_of_same {lines : List ScanLine} {next : Nat} (same : cleanups (next + 1) = cleanups next) :
    visited lines (next + 1) = visited lines next := by
  rw [visited, same, visited]

theorem visited_of_more {lines : List ScanLine} {next : Nat} (more : cleanups (next + 1) = cleanups next + 1) :
    visited lines (next + 1) = visited lines next ++ [cleanup] := by
  rw [visited, more, List.replicate_succ', visited, List.append_assoc]

theorem cleaned_swept {lines : List ScanLine} {next : Nat} (behind : 8 ≤ next) :
    (swept lines next).cleaned.lines = lines ++ cleanup? next ∧
    (swept lines next).cleaned.cached.length = left next := by
  unfold cleanup? left
  by_cases full : live next = 64
  · rw [cleaned_of_full behind full, if_pos full, if_pos full]
    exact ⟨rfl, by rw [List.length_append, List.length_range, List.length_range']⟩
  · rw [cleaned_of_lt behind (Nat.lt_of_le_of_ne (live_le next) full), if_neg full, if_neg full, length_swept behind]
    exact ⟨(List.append_nil lines).symm, rfl⟩

theorem mem_swept_self {lines : List ScanLine} {next : Nat} (first : next < 8) : next ∈ (swept lines next).cached := by
  have listed : next ∈ List.range' next (8 - next) := List.mem_range'_1.mpr (by omega)
  rw [swept, if_pos first]
  exact List.mem_append_left _ listed

/-- A pinned page is visited: it is not mapped again, and comes behind the others. -/
theorem visit_pinned {lines : List ScanLine} {next : Nat} (first : next < 8) :
    ((swept (visited lines next) next).take next).drop next = swept (visited lines (next + 1)) (next + 1) := by
  have moved : ∀ page < 8, (swept [] page).cached.filter (· ≠ page) ++ [page] = (swept [] (page + 1)).cached := by
    decide
  have order : (swept (visited lines next) next).cached.filter (· ≠ next) ++ [next] =
      (swept (visited lines (next + 1)) (next + 1)).cached := moved next first
  have none : cleanups (next + 1) = cleanups next := by
    unfold cleanups
    omega
  have mapped : max 8 next = max 8 (next + 1) := by omega
  unfold Stage.take Stage.drop
  rw [if_pos (mem_swept_self first), visited_of_same none]
  rw [visited_of_same none] at order
  exact Stage.ext order (List.erase_cons_head ..) mapped rfl rfl

/-- Any other page is mapped, after a cleanup if the cache is full. -/
theorem visit_further {lines : List ScanLine} {next : Nat} (behind : 8 ≤ next) :
    ((swept (visited lines next) next).take next).drop next = swept (visited lines (next + 1)) (next + 1) := by
  have older : (swept (visited lines next) next).cached =
      List.range 8 ++ List.range' (oldest next) (next - oldest next) := cached_swept behind
  have newer : (swept (visited lines (next + 1)) (next + 1)).cached =
      List.range 8 ++ List.range' (oldest (next + 1)) (next + 1 - oldest (next + 1)) := cached_swept (by omega)
  have missing : next ∉ (swept (visited lines next) next).cached := by
    rw [mem_swept behind]
    omega
  have low := oldest_le behind
  have mapped : max 8 next + 1 = max 8 (next + 1) := by omega
  have cleanups := cleanups_succ behind
  have oldest' := oldest_succ behind
  unfold Stage.take Stage.drop
  rw [if_neg missing]
  by_cases full : live next = 64
  · have length := sub_oldest_of_full behind full
    rw [if_pos full] at cleanups oldest'
    have width : next + 1 - (oldest next + 32) = 24 + 1 := by omega
    have last : oldest next + 32 + 1 * 24 = next := by omega
    rw [oldest', width, List.range'_concat, last, ← List.append_assoc] at newer
    rw [cleaned_of_full behind full]
    exact Stage.ext newer.symm (List.erase_cons_head ..) mapped rfl (visited_of_more cleanups).symm
  · rw [if_neg full] at cleanups oldest'
    have spare : live next < 64 := Nat.lt_of_le_of_ne (live_le next) full
    have width : next + 1 - oldest next = next - oldest next + 1 := by omega
    have last : oldest next + 1 * (next - oldest next) = next := by omega
    rw [oldest', width, List.range'_concat, last, ← List.append_assoc, ← older] at newer
    rw [cleaned_of_lt behind spare]
    exact Stage.ext newer.symm (List.erase_cons_head ..) mapped rfl (visited_of_same cleanups).symm

/-- A visit of the sweep leads from one stage to the next, whether its page is pinned, cached or new. -/
theorem visit_swept (lines : List ScanLine) (next : Nat) :
    ((swept (visited lines next) next).take next).drop next = swept (visited lines (next + 1)) (next + 1) := by
  rcases Nat.lt_or_ge next 8 with first | behind
  · exact visit_pinned first
  · exact visit_further behind

/-- The pages that are cached when a page is mapped, after room was made for it. -/
theorem mem_cleaned_swept {lines : List ScanLine} {next page : Nat} (behind : 8 ≤ next) :
    page ∈ (swept lines next).cleaned.cached ↔ Together page next := by
  have older := oldest_le behind
  have oldest := oldest_succ behind
  unfold Together
  rcases Nat.lt_or_eq_of_le (live_le next) with spare | full
  · rw [if_neg (Nat.ne_of_lt spare)] at oldest
    rw [cleaned_of_lt behind spare, mem_swept behind]
    omega
  · have width := sub_oldest_of_full behind full
    rw [if_pos full] at oldest
    rw [cleaned_of_full behind full, List.mem_append, List.mem_range, List.mem_range'_1]
    omega

theorem cleaned_pinned {lines : List ScanLine} {count : Nat} (early : count < 8) :
    (pinned lines count).cleaned = pinned lines count := by
  have spare : ¬ limit ≤ (pinned lines count).cached.length := by
    rw [pinned, List.length_range, limit]
    omega
  exact if_neg spare

theorem take_pinned {lines : List ScanLine} {count : Nat} (early : count < 8) :
    (pinned lines count).take count = pinned lines (count + 1) := by
  have missing : count ∉ (pinned lines count).cached := by simp [pinned]
  unfold Stage.take
  rw [if_neg missing, cleaned_pinned early]
  simp only [pinned, List.range_succ, List.reverse_append]
  rfl

theorem pinned_eq_swept (lines : List ScanLine) : pinned lines 8 = swept (visited lines 0) 0 :=
  Stage.ext rfl rfl rfl rfl (List.append_nil lines).symm

end Scan

end ForeignPages
