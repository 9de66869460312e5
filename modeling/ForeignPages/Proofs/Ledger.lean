import ForeignPages.Host

namespace ForeignPages

variable {Driver Probe Page : Type}

/-- The page that an act mapped, with the number that it was mapped for. -/
def Act.placed? : Act Driver Probe Page → Option (Gfn × Page)
  | .mapped _ gfn _ (.ok page) => some (gfn, page)
  | _ => none

/-- The page that an act mapped. -/
def Act.mapped? (act : Act Driver Probe Page) : Option Page := act.placed?.map Prod.snd

/-- The page that an act gave back. -/
def Act.unmapped? : Act Driver Probe Page → Option Page
  | .unmapped page => some page
  | _ => none

/-- The driver that an act attached. -/
def Act.bound? : Act Driver Probe Page → Option Driver
  | .bound driver => some driver
  | _ => none

/-- All pages that a driver mapped, as often as it did, with the numbers that they were mapped for. -/
def placements (journal : List (Act Driver Probe Page)) : List (Gfn × Page) := journal.filterMap Act.placed?

/-- The pages that were mapped, the newest first. -/
def mappings (journal : List (Act Driver Probe Page)) : List Page := (placements journal).map Prod.snd

/-- All pages that were given back, as often as they were. -/
def unmappings (journal : List (Act Driver Probe Page)) : List Page := journal.filterMap Act.unmapped?

/-- Every page was mapped for a number for which it was given back or is held now, and nothing else was
given back or is held. -/
def Balances (journal : List (Act Driver Probe Page)) (held : List (Gfn × Page)) : Prop :=
  ∃ returned : List (Gfn × Page), returned.map Prod.snd = unmappings journal ∧
    (placements journal).Perm (returned ++ held)

/-- The driver that was attached last. -/
def lastBound? (journal : List (Act Driver Probe Page)) : Option Driver := journal.findSome? Act.bound?

/-- Acts that move no page and attach no driver. -/
inductive Act.Idle : Act Driver Probe Page → Prop
  | failed (driver : Driver) (gfn : Gfn) (protection : Protection) (source : IoError) :
      Act.Idle (.mapped driver gfn protection (.error source))
  | probed (probe : Probe) (address : Handle) (size : Nat) (answer : Except IoError Bool) :
      Act.Idle (.probed probe address size answer)
  | told (event : Event) : Act.Idle (.told event)

/-- The pages that a journal still holds, each with the number that it was mapped for. A page may
be mapped only by the driver that was attached last, for a number of which no page is held, and
apart from all pages that are held. -/
inductive Ledger (apart : Page → Page → Prop) : List (Act Driver Probe Page) → List (Gfn × Page) → Prop
  | start : Ledger apart [] []
  | reorder {journal : List (Act Driver Probe Page)} {held held' : List (Gfn × Page)} :
      Ledger apart journal held → held.Perm held' → Ledger apart journal held'
  | mapped {journal : List (Act Driver Probe Page)} {held : List (Gfn × Page)} {driver : Driver} {gfn : Gfn}
      (protection : Protection) {page : Page} : Ledger apart journal held → lastBound? journal = some driver →
      (∀ other ∈ held, other.1 ≠ gfn ∧ apart other.2 page) →
      Ledger apart (.mapped driver gfn protection (.ok page) :: journal) ((gfn, page) :: held)
  | unmapped {journal : List (Act Driver Probe Page)} {held : List (Gfn × Page)} {gfn : Gfn} {page : Page} :
      Ledger apart journal ((gfn, page) :: held) → Ledger apart (.unmapped page :: journal) held
  | bound {journal : List (Act Driver Probe Page)} (driver : Driver) : Ledger apart journal [] →
      Ledger apart (.bound driver :: journal) []
  | idle {journal : List (Act Driver Probe Page)} {held : List (Gfn × Page)} {act : Act Driver Probe Page} :
      act.Idle → Ledger apart journal held → Ledger apart (act :: journal) held

theorem Act.Idle.lastBound?_cons {act : Act Driver Probe Page} (idle : act.Idle)
    (journal : List (Act Driver Probe Page)) : lastBound? (act :: journal) = lastBound? journal := by
  cases idle <;> rfl

theorem mappings_append (newer older : List (Act Driver Probe Page)) :
    mappings (newer ++ older) = mappings newer ++ mappings older := by
  rw [mappings, placements, List.filterMap_append, List.map_append]
  rfl

theorem unmappings_append (newer older : List (Act Driver Probe Page)) :
    unmappings (newer ++ older) = unmappings newer ++ unmappings older := List.filterMap_append

namespace Ledger

/-- An account says of each number how its mappings and returns stand. -/
theorem balances {apart : Page → Page → Prop} {journal : List (Act Driver Probe Page)} {held : List (Gfn × Page)}
    (ledger : Ledger apart journal held) : Balances journal held := by
  induction ledger with
  | start => exact ⟨[], rfl, .refl _⟩
  | reorder _ same ih =>
    obtain ⟨returned, pages, placed⟩ := ih
    exact ⟨returned, pages, placed.trans (same.append_left _)⟩
  | @mapped journal held driver gfn protection page _ _ _ ih =>
    obtain ⟨returned, pages, placed⟩ := ih
    exact ⟨returned, pages, (placed.cons (gfn, page)).trans List.perm_middle.symm⟩
  | @unmapped journal held gfn page _ ih =>
    obtain ⟨returned, pages, placed⟩ := ih
    exact ⟨(gfn, page) :: returned, congrArg (page :: ·) pages, placed.trans List.perm_middle⟩
  | bound driver _ ih => exact ih
  | idle quiet _ ih => cases quiet <;> exact ih

theorem balanced {apart : Page → Page → Prop} {journal : List (Act Driver Probe Page)} {held : List (Gfn × Page)}
    (ledger : Ledger apart journal held) :
    (mappings journal).Perm (unmappings journal ++ held.map Prod.snd) := by
  obtain ⟨returned, pages, placed⟩ := ledger.balances
  have mapped := placed.map Prod.snd
  rwa [List.map_append, pages] at mapped

/-- At most one page is held for a number. -/
theorem gfns_nodup {apart : Page → Page → Prop} {journal : List (Act Driver Probe Page)} {held : List (Gfn × Page)}
    (ledger : Ledger apart journal held) : (held.map Prod.fst).Nodup := by
  induction ledger with
  | start => exact .nil
  | reorder _ same ih => exact (same.map Prod.fst).nodup ih
  | mapped _ _ _ free ih =>
    refine List.nodup_cons.mpr ⟨fun twice => ?_, ih⟩
    obtain ⟨other, member, same⟩ := List.mem_map.mp twice
    exact (free other member).1 same
  | unmapped _ ih => exact (List.nodup_cons.mp ih).2
  | bound _ _ _ => exact .nil
  | idle _ _ ih => exact ih

/-- Pages that are held together were mapped apart. -/
theorem pairwise_apart {apart : Page → Page → Prop} {journal : List (Act Driver Probe Page)}
    {held : List (Gfn × Page)} (ledger : Ledger apart journal held) (symmetric : ∀ p q, apart p q → apart q p) :
    held.Pairwise fun p q => apart p.2 q.2 := by
  induction ledger with
  | start => exact .nil
  | reorder _ same ih => exact same.pairwise ih fun {p q} far => symmetric p.2 q.2 far
  | mapped _ _ _ free ih =>
    exact List.pairwise_cons.mpr ⟨fun other member => symmetric _ _ (free other member).2, ih⟩
  | unmapped _ ih => exact (List.pairwise_cons.mp ih).2
  | bound _ _ _ => exact .nil
  | idle _ _ ih => exact ih

/-- Every part of a journal with an account has one. -/
theorem of_cons {apart : Page → Page → Prop} {older : List (Act Driver Probe Page)} {held : List (Gfn × Page)}
    {act : Act Driver Probe Page} (ledger : Ledger apart (act :: older) held) :
    ∃ before, Ledger apart older before := by
  generalize whole : act :: older = journal at ledger
  induction ledger with
  | start => cases whole
  | reorder _ _ ih => exact ih whole
  | mapped _ ledger _ _ _ => cases whole; exact ⟨_, ledger⟩
  | unmapped ledger _ => cases whole; exact ⟨_, ledger⟩
  | bound _ ledger _ => cases whole; exact ⟨_, ledger⟩
  | idle _ ledger _ => cases whole; exact ⟨_, ledger⟩

theorem of_append {apart : Page → Page → Prop} {newer older : List (Act Driver Probe Page)} {held : List (Gfn × Page)}
    (ledger : Ledger apart (newer ++ older) held) : ∃ before, Ledger apart older before := by
  induction newer generalizing held with
  | nil => exact ⟨held, ledger⟩
  | cons act rest ih =>
    obtain ⟨before, earlier⟩ := of_cons ledger
    exact ih earlier

/-- No page is held at the moment at which a driver is attached. -/
theorem before_bound {apart : Page → Page → Prop} {older : List (Act Driver Probe Page)} {held : List (Gfn × Page)}
    {driver : Driver} (ledger : Ledger apart (.bound driver :: older) held) :
    Ledger apart older [] := by
  generalize whole : Act.bound driver :: older = journal at ledger
  induction ledger with
  | start => cases whole
  | reorder _ _ ih => exact ih whole
  | mapped => cases whole
  | unmapped => cases whole
  | bound _ ledger _ => cases whole; exact ledger
  | idle quiet _ _ => cases whole; cases quiet

/-- A page is mapped by the driver that was attached last. -/
theorem lastBound?_of_mapped {apart : Page → Page → Prop} {older : List (Act Driver Probe Page)}
    {held : List (Gfn × Page)} {driver : Driver} {gfn : Gfn} {protection : Protection} {page : Page}
    (ledger : Ledger apart (.mapped driver gfn protection (.ok page) :: older) held) :
    lastBound? older = some driver := by
  generalize whole : Act.mapped driver gfn protection (.ok page) :: older = journal at ledger
  induction ledger with
  | start => cases whole
  | reorder _ _ ih => exact ih whole
  | mapped _ _ last _ _ => cases whole; exact last
  | unmapped => cases whole
  | bound => cases whole
  | idle quiet _ _ => cases whole; cases quiet

/-- A page that was given back lies apart from all pages that are held, until a page is mapped that
does not. -/
theorem apart_of_unmapped {apart : Page → Page → Prop} {newer older : List (Act Driver Probe Page)}
    {held : List (Gfn × Page)} {page : Page} (symmetric : ∀ p q, apart p q → apart q p)
    (ledger : Ledger apart (newer ++ .unmapped page :: older) held)
    (since : ∀ act ∈ newer, ∀ again, act.mapped? = some again → apart page again) :
    ∀ other ∈ held, apart page other.2 := by
  generalize whole : newer ++ .unmapped page :: older = journal at ledger
  induction ledger generalizing newer with
  | start => simp at whole
  | reorder _ same ih => exact fun other member => ih since whole other (same.mem_iff.mpr member)
  | @mapped journal held driver gfn protection again ledger last free ih =>
    cases newer with
    | nil => cases whole
    | cons act rest =>
      obtain ⟨rfl, rfl⟩ := List.cons.inj whole
      have far : ∀ other ∈ held, apart page other.2 :=
        ih (fun act member => since act (List.mem_cons_of_mem _ member)) rfl
      intro other member
      rcases List.mem_cons.mp member with rfl | old
      · exact since _ List.mem_cons_self again rfl
      · exact far other old
  | unmapped ledger ih =>
    cases newer with
    | nil =>
      cases whole
      exact (List.pairwise_cons.mp (ledger.pairwise_apart symmetric)).1
    | cons act rest =>
      obtain ⟨rfl, rfl⟩ := List.cons.inj whole
      have far := ih (fun act member => since act (List.mem_cons_of_mem _ member)) rfl
      exact fun other member => far other (List.mem_cons_of_mem _ member)
  | bound => exact fun other member => absurd member List.not_mem_nil
  | idle quiet _ ih =>
    cases newer with
    | nil => cases whole; cases quiet
    | cons act rest =>
      obtain ⟨rfl, rfl⟩ := List.cons.inj whole
      exact ih (fun act member => since act (List.mem_cons_of_mem _ member)) rfl

/-- Between two moments of which no page is held at the earlier one, what was mapped is what was
given back together with what is held at the later one. -/
theorem balanced_since {apart : Page → Page → Prop} {newer older : List (Act Driver Probe Page)}
    {held : List (Gfn × Page)} (ledger : Ledger apart (newer ++ older) held) (settled : Ledger apart older []) :
    (mappings newer).Perm (unmappings newer ++ held.map Prod.snd) := by
  have earlier : (mappings older).Perm (unmappings older) := by simpa using settled.balanced
  have whole := ledger.balanced
  rw [mappings_append, unmappings_append] at whole
  refine (List.perm_append_right_iff (mappings older)).mp ?_
  calc
    List.Perm (mappings newer ++ mappings older)
      (unmappings newer ++ unmappings older ++ held.map Prod.snd) := whole
    List.Perm _ (unmappings newer ++ mappings older ++ held.map Prod.snd) :=
      (earlier.symm.append_left _).append_right _
    List.Perm _ (unmappings newer ++ held.map Prod.snd ++ mappings older) := by
      rw [List.append_assoc, List.append_assoc]
      exact List.perm_append_comm.append_left _

end Ledger

end ForeignPages
