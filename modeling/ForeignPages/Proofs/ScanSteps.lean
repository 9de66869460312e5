import ForeignPages.Proofs.KeptOutside
import ForeignPages.Proofs.Meters
import ForeignPages.Proofs.ScanOutside

namespace ForeignPages

namespace Scan

namespace Input

/-- A cache at a stage of a scan. -/
structure At (s : Input) (st : Stage) (m : ScanMachine) : Prop where
  lines : m.cache.Lines (imageHost s.place) (st.cached.map (s.slot st.held))
  behind : ∀ page ∈ st.cached, page < st.mapped
  inside : st.mapped ≤ s.pages
  within : m.Within st.acquired
  outside : s.Outside st.mapped st.mapped st.lines m

/-- The pages of a stage as a list that shows the cache. -/
def list (s : Input) (st : Stage) (m : ScanMachine) : Recency ImageWorld ImageDriver Unit ImagePage :=
  ⟨st.cached.map (s.slot st.held), m.bare⟩

theorem slot_unpinned (s : Input) (st : Stage) : (fun number => (s.slot st.held number).unpinned) = st.free :=
  funext fun _ => Bool.true_and _

namespace At

theorem shown {s : Input} {st : Stage} {m : ScanMachine} (here : s.At st m) :
    m.ShownBy (imageHost s.place) (s.list st m) := ⟨here.lines, rfl⟩

/-- Making room at a stage tells the stage's cleanup and leaves the slots of its cleaned cache. -/
theorem makeRoom {s : Input} {st : Stage} {m : ScanMachine} (here : s.At st m) :
    ∃ rest, (s.list st m).makeRoom (imageHost s.place) = ⟨st.cleaned.cached.map (s.slot st.held), rest⟩ ∧
      s.Outside st.mapped st.mapped st.cleaned.lines rest := by
  have bound : (s.list st m).rest.cache.limit = limit := here.outside.limit
  have length : (s.list st m).slots.length = st.cached.length := List.length_map _
  unfold Recency.makeRoom Stage.cleaned
  rw [bound, length]
  by_cases full : limit ≤ st.cached.length
  · have unused : (s.list st m).slots.countP Slot.unpinned = st.cached.countP st.free := by
      rw [list, List.countP_map]
      exact congrArg (List.countP · st.cached) (s.slot_unpinned st)
    have split : takeFirst Slot.unpinned (limit / 2) (s.list st m).slots =
        ((takeFirst st.free (limit / 2) st.cached).1.map (s.slot st.held),
          (takeFirst st.free (limit / 2) st.cached).2.map (s.slot st.held)) := by
      rw [list, takeFirst_map, s.slot_unpinned]
    rw [if_pos full, if_pos full, split, unused]
    dsimp only
    rw [List.length_map]
    exact ⟨_, rfl, (here.outside.bare.giveBack _).tell (show Level.debug ≠ .trace by decide)⟩
  · rw [if_neg full, if_neg full]
    exact ⟨_, rfl, here.outside.bare⟩

theorem fits {s : Input} {st : Stage} {m : ScanMachine} {number : Nat} (here : s.At st m)
    (cached : number ∈ st.cached) : number < 2 ^ 64 :=
  lt_word (Nat.le_trans (Nat.le_of_lt (here.behind number cached)) here.inside)

/-- A page is found under its number. -/
theorem find?_eq {s : Input} {st : Stage} {m : ScanMachine} {number : Nat} (here : s.At st m)
    (small : number < 2 ^ 64) :
    (s.list st m).find? (gfn number) = if number ∈ st.cached then some (s.slot st.held number) else none := by
  unfold Recency.find? list
  rw [List.find?_map]
  cases found : st.cached.find? ((fun slot => decide (slot.gfn = gfn number)) ∘ s.slot st.held) with
  | none =>
    have missing : number ∉ st.cached := fun cached =>
      List.find?_eq_none.mp found number cached (decide_eq_true rfl)
    rw [if_neg missing]
    rfl
  | some other =>
    have cached := List.mem_of_find?_eq_some found
    have has : ((fun slot => decide (slot.gfn = gfn number)) ∘ s.slot st.held) other = true := List.find?_some found
    have same := gfn_inj (here.fits cached) small (of_decide_eq_true has)
    rw [same] at cached ⊢
    rw [if_pos cached]
    rfl

/-- Nothing gets in the way of an acquisition, be the page cached, the next one of the image or behind its end. -/
theorem calm {s : Input} {st : Stage} {m : ScanMachine} {number : Nat} (here : s.At st m) (small : number < 2 ^ 64)
    (room : st.acquired + 1 < 2 ^ 64) (few : st.held.length + 1 < 2 ^ 32)
    (fresh : number ∉ st.cached → number < s.pages → number = st.mapped ∧
      ∀ other ∈ st.cleaned.cached, s.place other ≠ s.place number) :
    m.Calm (imageHost s.place) (gfn number) where
  apart := by
    rintro room page ⟨driver, counted, bound, missing, made, count, called⟩ other e found
    cases here.outside.driver.symm.trans bound
    have uncached : number ∉ st.cached := by
      have shown := here.shown.find?_eq (gfn number)
      rw [here.find?_eq small, missing] at shown
      exact fun cached => nomatch (if_pos cached).symm.trans shown
    rcases Nat.lt_or_ge number s.pages with inside | beyond
    · obtain ⟨next, clear⟩ := fresh uncached inside
      obtain ⟨rest, kept, outside⟩ := here.makeRoom
      have roomy : room.ShownBy (imageHost s.place) ⟨st.cleaned.cached.map (s.slot st.held), rest⟩ := by
        have roomy := here.shown.makeRoom.shown
        rwa [made, kept] at roomy
      have same : rest.world = room.bare.world := congrArg Machine.world roomy.rest
      have world : counted.world = rest.world := (Machine.countMapping?_world count).trans same.symm
      simp only [imageHost, ImageWorld.map, mapping_of_lt inside, world, outside.world] at called
      cases called
      have shown := roomy.find?_eq other
      rw [found] at shown
      obtain ⟨held, stays, slot⟩ := List.mem_map.mp (List.mem_of_find?_eq_some shown)
      have lies : e.page.address = s.place held := congrArg (·.page.address) slot.symm
      show e.page.address ≠ s.place st.mapped
      rw [lies, ← next]
      exact clear held stays
    · simp only [imageHost, ImageWorld.map, mapping_of_le small beyond] at called
      cases called
  counts e found := by
    have shown := here.shown.find?_eq (gfn number)
    rw [here.find?_eq small, found] at shown
    split at shown
    · have same := Option.some.inj shown
      have refs : e.refs.toNat = 0 := (congrArg Slot.refs same).symm
      have guards : e.guards.toNat = st.held.count number := (congrArg Slot.guards same).symm
      have most := List.count_le_length (a := number) (l := st.held)
      omega
    · cases shown
  tokens _ := Nat.lt_of_le_of_lt (Nat.add_le_add_right here.within.clock 1) room

end At

theorem slots_cons {cached : List Nat} {number : Nat} (s : Input) (missing : number ∉ cached) (held : List Nat) :
    cached.map (s.slot (number :: held)) = cached.map (s.slot held) := by
  refine List.map_congr_left fun other listed => ?_
  have different : number ≠ other := fun same => missing (same ▸ listed)
  rw [slot, List.count_cons_of_ne different]
  rfl

theorem slot_pin (s : Input) (held : List Nat) (number : Nat) :
    (s.slot held number).pin .guard = s.slot (number :: held) number := by
  rw [slot, slot, List.count_cons_self]
  rfl

theorem slot_first {held : List Nat} {number : Nat} (s : Input) (free : number ∉ held) :
    Slot.first (imageHost s.place) (gfn number) (s.page number) .guard = s.slot (number :: held) number := by
  rw [slot, List.count_cons_self, List.count_eq_zero.mpr free]
  rfl

/-- A cache with so many pages, after the page behind the last one was asked for. -/
structure Refused (s : Input) (lines : List ScanLine) (count : Nat) (m : ScanMachine) : Prop where
  outside : s.Outside (s.pages + 1) s.pages lines m
  length : m.cache.store.entries.length = count

namespace Refused

theorem tell {s : Input} {lines : List ScanLine} {count : Nat} {m : ScanMachine} {event : Event}
    (refused : s.Refused lines count m) (shown : event.level ≠ .trace) :
    s.Refused (lines ++ [.told event]) count (m.tell event) := ⟨refused.outside.tell shown, refused.length⟩

theorem dropAll {s : Input} {lines : List ScanLine} {count : Nat} {m : ScanMachine}
    (refused : s.Refused lines count m) (guards : List Guard) :
    s.Refused lines count (dropAll m guards) := by
  induction guards generalizing m with
  | nil => exact refused
  | cons g rest ih =>
    have pages := congrArg List.length (m.releaseGuard_recounts g.gfn).pages_eq
    rw [List.length_map, List.length_map] at pages
    exact ih ⟨refused.outside.releaseGuard g.gfn, pages.trans refused.length⟩

end Refused

/-- A page can be taken next: it is cached, or the next one to be mapped. -/
structure Ready (s : Input) (st : Stage) (number : Nat) : Prop where
  inside : number < s.pages
  room : st.acquired + 1 < 2 ^ 64
  few : st.held.length + 1 < 2 ^ 32
  fresh : number ∉ st.cached → number = st.mapped ∧ number ∉ st.held ∧
    ∀ other ∈ st.cleaned.cached, Together other number

namespace At

theorem acquire_of_cached {s : Input} {st : Stage} {m : ScanMachine} {number : Nat} (here : s.At st m)
    (cached : number ∈ st.cached) :
    (s.list st m).acquire (imageHost s.place) (gfn number) .guard =
      (.done ⟨s.place number, 4096⟩, s.list (st.take number) m) := by
  have small := here.fits cached
  have driver : (s.list st m).rest.cache.driver = some s.driver := here.outside.driver
  have order : ((s.list st m).slots.filter fun slot => slot.gfn ≠ gfn number) =
      (st.cached.filter (· ≠ number)).map (s.slot (number :: st.held)) := by
    have gone : number ∉ st.cached.filter (· ≠ number) := by simp
    rw [s.slots_cons gone, list, List.filter_map]
    refine congrArg _ (List.filter_congr fun other listed => ?_)
    have same : gfn other = gfn number ↔ other = number := ⟨gfn_inj (here.fits listed) small, congrArg gfn⟩
    simp only [Function.comp_apply, slot, ne_eq, same]
  unfold Recency.acquire
  rw [driver]
  dsimp only
  rw [here.find?_eq small, if_pos cached]
  dsimp only [Recency.acquireCached]
  rw [s.slot_pin, show (s.slot st.held number).gfn = gfn number from rfl, order]
  unfold list Stage.take
  rw [if_pos cached, List.map_append]
  rfl

/-- The next page of the image is mapped, its slot comes last, and the cleanup made for it has told its line. -/
theorem acquire_of_next {s : Input} {st : Stage} {m : ScanMachine} (here : s.At st m) (inside : st.mapped < s.pages)
    (free : st.mapped ∉ st.held) :
    ∃ rest, (s.list st m).acquire (imageHost s.place) (gfn st.mapped) .guard =
        (.done ⟨s.place st.mapped, 4096⟩,
          ⟨(st.take st.mapped).cached.map (s.slot (st.mapped :: st.held)), rest⟩) ∧
      s.Outside (st.mapped + 1) (st.mapped + 1) st.cleaned.lines rest := by
  have small : st.mapped < 2 ^ 64 := lt_word (Nat.le_of_lt inside)
  have driver : (s.list st m).rest.cache.driver = some s.driver := here.outside.driver
  have missing : st.mapped ∉ st.cached := fun cached => Nat.lt_irrefl _ (here.behind _ cached)
  obtain ⟨room, made, outside⟩ := here.makeRoom
  obtain ⟨rest, done, outside'⟩ := outside.acquireNew made inside .guard
  refine ⟨rest, ?_, outside'⟩
  unfold Recency.acquire
  rw [driver]
  dsimp only
  rw [here.find?_eq small, if_neg missing]
  dsimp only
  rw [done, s.slot_first free]
  unfold Stage.take
  rw [if_neg missing, List.map_append, s.slots_cons fun kept => missing (st.cleaned_subset kept)]
  rfl

/-- A ready page is acquired at its own address, and the machine is at the stage with that page taken. -/
theorem acquire {s : Input} {st : Stage} {m : ScanMachine} {number : Nat} (here : s.At st m)
    (ready : s.Ready st number) :
    (m.acquire (imageHost s.place) (gfn number) .guard).1 = .done ⟨s.place number, 4096⟩ ∧
      s.At (st.take number) (m.acquire (imageHost s.place) (gfn number) .guard).2 := by
  have small : number < 2 ^ 64 := lt_word (Nat.le_of_lt ready.inside)
  have calm := here.calm small ready.room ready.few fun missing inside => by
    obtain ⟨next, _, together⟩ := ready.fresh missing
    exact ⟨next, fun other kept => s.apart other number (together other kept) inside⟩
  obtain ⟨result, shown⟩ := here.shown.acquire calm .guard
  have within := here.within.acquire (imageHost s.place) here.lines.indexed (gfn number) .guard
  generalize m.acquire (imageHost s.place) (gfn number) .guard = done at result shown within
  by_cases cached : number ∈ st.cached
  · rw [here.acquire_of_cached cached] at result shown
    have lines := shown.lines
    have rest := shown.rest
    unfold list Stage.take at lines
    unfold Stage.take
    rw [if_pos cached] at lines ⊢
    refine ⟨result.symm, lines, ?_, here.inside, within, Outside.of_bare (rest ▸ here.outside.bare)⟩
    intro other listed
    rcases List.mem_append.mp listed with kept | last
    · exact here.behind other (List.mem_filter.mp kept).1
    · rw [List.mem_singleton.mp last]
      exact here.behind number cached
  · obtain ⟨rfl, free, _⟩ := ready.fresh cached
    obtain ⟨rest, next, outside⟩ := here.acquire_of_next ready.inside free
    rw [next] at result shown
    have lines := shown.lines
    have same : rest = done.2.bare := shown.rest
    unfold Stage.take at lines ⊢
    rw [if_neg cached] at lines ⊢
    refine ⟨result.symm, lines, ?_, ready.inside, within, Outside.of_bare (same ▸ outside)⟩
    intro other listed
    rcases List.mem_append.mp listed with kept | last
    · exact Nat.lt_succ_of_lt (here.behind other (st.cleaned_subset kept))
    · rw [List.mem_singleton.mp last]
      exact Nat.lt_succ_self _

/-- A guard on a ready page is taken. -/
theorem take {s : Input} {st : Stage} {m : ScanMachine} {number : Nat} (here : s.At st m) (ready : s.Ready st number) :
    ∃ n, Scan.take s.place m (gfn number) = (.ok (s.guard number), n) ∧ s.At (st.take number) n := by
  obtain ⟨result, taken⟩ := here.acquire ready
  generalize made : m.acquire (imageHost s.place) (gfn number) .guard = done at result taken
  obtain ⟨outcome, n⟩ := done
  cases result
  refine ⟨n, ?_, taken⟩
  unfold Scan.take
  rw [made]
  rfl

/-- A guard is dropped, and its page stays. -/
theorem drop {s : Input} {st : Stage} {m : ScanMachine} {number : Nat} (here : s.At st m)
    (cached : number ∈ st.cached) (held : number ∈ st.held) :
    s.At (st.drop number) (dropAll m [s.guard number]) := by
  have small := here.fits cached
  obtain ⟨_, shown⟩ := here.shown.releaseGuard (gfn number)
  have positive : (s.slot st.held number).guards ≠ 0 := Nat.ne_of_gt (List.count_pos_iff.mpr held)
  unfold Recency.releaseGuard at shown
  rw [here.find?_eq small, if_pos cached] at shown
  dsimp only at shown
  rw [if_neg positive] at shown
  have slots : ((s.list st m).change (gfn number) fun slot => { slot with guards := slot.guards - 1 }).slots =
      st.cached.map (s.slot (st.held.erase number)) := by
    unfold Recency.change list
    rw [List.map_map]
    refine List.map_congr_left fun other listed => ?_
    rw [Function.comp_apply, slot, slot, List.count_erase]
    by_cases same : other = number
    · subst same
      simp
    · have different : gfn other ≠ gfn number := fun equal => same (gfn_inj (here.fits listed) small equal)
      simp [different, Ne.symm same]
  have same : m.bare = (m.releaseGuard (gfn number)).2.bare := shown.rest
  refine ⟨?_, here.behind, here.inside, here.within.releaseGuard _, Outside.of_bare (same ▸ here.outside.bare)⟩
  have lines := shown.lines
  rw [slots] at lines
  exact lines

theorem readAs {s : Input} {st : Stage} {m : ScanMachine} {number : Nat} (here : s.At st m)
    (cached : number ∈ st.cached) :
    m.readAs (imageHost s.place) .word64 (s.guard number) 0 = .ok (word s.file number) := by
  have inside : number < s.pages := Nat.lt_of_lt_of_le (here.behind number cached) here.inside
  have number' := gfn_toNat (here.fits cached)
  obtain ⟨whole, _⟩ := ImageDriver.of_ofSize s.opened
  have offset := ImageDriver.offset_toNat s.opened (show (gfn number).number.toNat < _ by rw [number']; exact inside)
  have within : number * 4096 + 8 ≤ s.file.size.toNat := by
    unfold pages at inside
    omega
  have bytes : (imageHost s.place).read (s.page number) 0 8 m.world = s.file.read (number * 4096) 8 := by
    unfold Host.read ImageFile.read
    rw [Nat.min_eq_left (show 8 ≤ s.file.size.toNat - number * 4096 by omega)]
    refine List.map_congr_left fun i low => ?_
    have below := List.mem_range.mp low
    have place : (s.page number).offset.toNat = number * 4096 := offset.trans (by rw [number'])
    rw [here.outside.world, Nat.zero_add]
    show s.file.mapped ((s.page number).offset.toNat + i) = _
    rw [place, ImageFile.mapped_eq_get (by omega)]
  have page : (s.list st m).pageFor (imageHost s.place) (s.guard number) 0 8 = .ok (s.page number) := by
    have admits : 0 + 8 < UInt64.size ∧ 0 + 8 ≤ (s.guard number).size := ⟨by decide, show 0 + 8 ≤ 4096 by decide⟩
    have fits : 0 + 8 ≤ (imageHost s.place).size (s.page number) (s.list st m).rest.world :=
      show 0 + 8 ≤ 4096 by decide
    unfold Recency.pageFor
    rw [if_pos admits, show (s.guard number).gfn = gfn number from rfl, here.find?_eq (here.fits cached),
      if_pos cached]
    exact if_pos fits
  rw [← here.shown.readAs_eq]
  unfold Recency.readAs Recency.readBytes
  rw [show Layout.word64.width = 8 from rfl, page]
  exact congrArg (fun bytes => Except.ok (Layout.word64.decode bytes)) bytes

/-- A visit of a ready page answers its first word and gives its guard back. -/
theorem visit {s : Input} {st : Stage} {m : ScanMachine} {number : Nat} (here : s.At st m) (ready : s.Ready st number) :
    ∃ n, Scan.visit s.place m (gfn number) = (.ok (word s.file number), n) ∧
      s.At ((st.take number).drop number) n := by
  obtain ⟨n, taken, there⟩ := here.take ready
  have cached : number ∈ (st.take number).cached := by
    unfold Stage.take
    split <;> simp
  have held : number ∈ (st.take number).held := by
    unfold Stage.take
    split <;> simp
  refine ⟨_, ?_, there.drop cached held⟩
  unfold Scan.visit
  rw [taken]
  dsimp only
  rw [there.readAs cached]
  rfl

theorem tell {s : Input} {st : Stage} {m : ScanMachine} {event : Event} (here : s.At st m)
    (shown : event.level ≠ .trace) :
    s.At { st with lines := st.lines ++ [.told event] } (m.tell event) :=
  ⟨here.lines, here.behind, here.inside, here.within.of_same rfl rfl rfl, here.outside.tell shown⟩

/-- All pages of the image were mapped, and one more is asked for. -/
theorem refuse {s : Input} {st : Stage} {m : ScanMachine} (here : s.At st m) (all : st.mapped = s.pages)
    (room : st.acquired + 1 < 2 ^ 64) (few : st.held.length + 1 < 2 ^ 32) (holder : Holder) :
    (m.acquire (imageHost s.place) (gfn s.pages) holder).1 = .refused (.mapFailed (gfn s.pages) beyond) ∧
      s.Refused (st.cleaned.lines ++ [.told (.mapFailed (gfn s.pages) beyond)]) st.cleaned.cached.length
        (m.acquire (imageHost s.place) (gfn s.pages) holder).2 := by
  have small : s.pages < 2 ^ 64 := lt_word (Nat.le_refl _)
  have missing : s.pages ∉ st.cached := fun cached => Nat.lt_irrefl _ (all ▸ here.behind _ cached)
  have calm := here.calm small room few fun _ inside => absurd inside (Nat.lt_irrefl _)
  obtain ⟨result, shown⟩ := here.shown.acquire calm holder
  have driver : (s.list st m).rest.cache.driver = some s.driver := here.outside.driver
  obtain ⟨made, roomy, outside⟩ := here.makeRoom
  rw [all] at outside
  obtain ⟨rest, refused, outside'⟩ := outside.refused roomy holder
  have answer : (s.list st m).acquire (imageHost s.place) (gfn s.pages) holder =
      (.refused (.mapFailed (gfn s.pages) beyond), ⟨st.cleaned.cached.map (s.slot st.held), rest⟩) := by
    unfold Recency.acquire
    rw [driver]
    dsimp only
    rw [here.find?_eq small, if_neg missing]
    exact refused
  rw [answer] at result shown
  have length := shown.lines.length_eq
  have same : rest = _ := shown.rest
  rw [List.length_map] at length
  exact ⟨result.symm, Outside.of_bare (same ▸ outside'), length.symm⟩

/-- Past the last page the driver fails: the error is told after the lines of the cleanup made before it, and nothing
new is cached. -/
theorem take_refused {s : Input} {st : Stage} {m : ScanMachine} (here : s.At st m) (all : st.mapped = s.pages)
    (room : st.acquired + 1 < 2 ^ 64) (few : st.held.length + 1 < 2 ^ 32) :
    ∃ n, Scan.take s.place m (gfn s.pages) = (.error (.map (.mapFailed (gfn s.pages) beyond)), n) ∧
      s.Refused (st.cleaned.lines ++ [.told (.mapFailed (gfn s.pages) beyond)]) st.cleaned.cached.length n := by
  obtain ⟨result, refused⟩ := here.refuse all room few .guard
  generalize made : m.acquire (imageHost s.place) (gfn s.pages) .guard = done at result refused
  obtain ⟨outcome, n⟩ := done
  cases result
  refine ⟨n, ?_, refused⟩
  unfold Scan.take
  rw [made]

end At

end Input

end Scan

end ForeignPages
