import ForeignPages.Proofs.Attempts
import ForeignPages.Proofs.ImageRequests
import ForeignPages.Proofs.RecencySteps
import ForeignPages.Proofs.ScanStages

namespace ForeignPages

namespace Scan

/-- The frame of a page of the image. -/
def gfn (page : Nat) : Gfn := ⟨UInt64.ofNat page⟩

/-- An image that was opened for a scan. The operating system puts no page where another one still lies. -/
structure Input where
  place : Nat → Handle
  file : ImageFile
  release : Except IoError (List UInt8)
  path : String
  driver : ImageDriver
  opened : ImageDriver.ofSize file.size .readWrite true = .ok driver
  apart : ∀ earlier later, Together earlier later → later < driver.pages.toNat → place earlier ≠ place later

/-- The number that a page of an image starts with. -/
def word (file : ImageFile) (page : Nat) : UInt64 := Layout.word64.decode (file.read (page * 4096) 8)

/-- The failure of a mapping behind the last page. -/
def beyond : IoError := ImageError.toIoError .outOfBounds

theorem reverse_map_range_succ {α : Type} (f : Nat → α) (n : Nat) :
    ((List.range (n + 1)).map f).reverse = f n :: ((List.range n).map f).reverse := by
  rw [List.range_succ, List.map_append, List.reverse_append]
  rfl

theorem gfn_toNat {page : Nat} (fits : page < 2 ^ 64) : (gfn page).number.toNat = page :=
  UInt64.toNat_ofNat_of_lt' fits

theorem gfn_inj {i j : Nat} (fits : i < 2 ^ 64) (fits' : j < 2 ^ 64) (same : gfn i = gfn j) : i = j := by
  rw [← gfn_toNat fits, ← gfn_toNat fits', same]

theorem told_cons {m n : ScanMachine} (act : Act ImageDriver Unit ImagePage) (journal : n.journal = act :: m.journal) :
    told n = told m ++ told { m with journal := [act] } := by
  unfold told
  rw [journal, List.reverse_cons, List.filterMap_append]
  rfl

/-- An event is shown unless it is a trace. -/
theorem told_tell (event : Event) (m : ScanMachine) :
    told (m.tell event) = told m ++ if event.level = .trace then [] else [.told event] := by
  rw [told_cons (.told event) rfl]
  refine congrArg _ ?_
  change List.filterMap _ [Act.told event] = _
  by_cases trace : event.level = .trace
  · rw [if_pos trace]
    simp [trace]
  · rw [if_neg trace]
    simp [trace]

theorem told_giveBack (place : Nat → Handle) (m : ScanMachine) (pages : List ImagePage) :
    told (m.giveBack (imageHost place) pages) = told m := by
  induction pages generalizing m with
  | nil => rfl
  | cons page rest ih => exact (ih _).trans ((told_cons (.unmapped page) rfl).trans (List.append_nil _))

theorem told_destroy (place : Nat → Handle) (m : ScanMachine) :
    told (m.destroy (imageHost place)) = told m ++ [.told (.destroyed m.cache.store.entries.length)] := by
  refine (told_tell _ _).trans (congrArg (· ++ _) ?_)
  rw [Machine.clear, Machine.unmapAll_eq_giveBack]
  exact told_giveBack place _ _

namespace Input

/-- The number of pages. -/
def pages (s : Input) : Nat := s.driver.pages.toNat

/-- A page as it is mapped, which happens in the order of the pages. -/
def page (s : Input) (number : Nat) : ImagePage :=
  ⟨number, gfn number, (gfn number).number * pageBytes, true, s.place number⟩

/-- The guard of a page. -/
def guard (s : Input) (number : Nat) : Guard := ⟨gfn number, s.place number, 4096⟩

/-- A cached page, by the guards that are alive. -/
def slot (s : Input) (held : List Nat) (number : Nat) : Slot ImagePage :=
  ⟨gfn number, s.place number, 0, held.count number, s.page number⟩

/-- Everything about a cache but its pages and its clock, after some attempts to map pages. -/
structure Outside (s : Input) (asked mapped : Nat) (lines : List ScanLine) (m : ScanMachine) : Prop where
  driver : m.cache.driver = some s.driver
  limit : m.cache.limit = limit
  trusts : m.cache.residency = .trust
  counting : m.cache.counting = true
  logs : m.cache.logMapFailures = true
  world : m.world = { ImageWorld.ofFile s.file s.release with mapped }
  counters : m.counters.Holds Machine.mapCounter asked
  tells : told m = lines
  asks : attempts m.journal = ((List.range asked).map fun page => (s.driver, gfn page, .rw)).reverse
  maps : placements m.journal = ((List.range mapped).map fun number => (gfn number, s.page number)).reverse

theorem pages_lt (s : Input) : s.pages < 2 ^ 52 := by
  obtain ⟨whole, _⟩ := ImageDriver.of_ofSize s.opened
  have bound := s.file.size.toNat_lt
  rw [pages]
  omega

theorem lt_word {s : Input} {number : Nat} (within : number ≤ s.pages) : number < 2 ^ 64 := by
  have few := s.pages_lt
  omega

theorem mapping_of_lt {s : Input} {number : Nat} (inside : number < s.pages) :
    s.driver.mapping (gfn number) .rw = .ok ⟨(gfn number).number * pageBytes, true⟩ := by
  have number' := gfn_toNat (lt_word (Nat.le_of_lt inside))
  exact ImageDriver.mapping_of_lt s.opened (by rw [number']; exact inside)

theorem mapping_of_le {s : Input} {number : Nat} (small : number < 2 ^ 64) (outside : s.pages ≤ number) :
    s.driver.mapping (gfn number) .rw = .error .outOfBounds :=
  ImageDriver.mapping_of_le s.opened (by rw [gfn_toNat small]; exact outside)

namespace Outside

theorem bare {s : Input} {asked mapped : Nat} {lines : List ScanLine} {m : ScanMachine}
    (outside : s.Outside asked mapped lines m) : s.Outside asked mapped lines m.bare := { outside with }

theorem of_bare {s : Input} {asked mapped : Nat} {lines : List ScanLine} {m : ScanMachine}
    (outside : s.Outside asked mapped lines m.bare) : s.Outside asked mapped lines m := { outside with }

/-- What is told is shown at the end of the output. -/
theorem tell {s : Input} {asked mapped : Nat} {lines : List ScanLine} {m : ScanMachine} {event : Event}
    (outside : s.Outside asked mapped lines m) (shown : event.level ≠ .trace) :
    s.Outside asked mapped (lines ++ [.told event]) (m.tell event) where
  driver := outside.driver
  limit := outside.limit
  trusts := outside.trusts
  counting := outside.counting
  logs := outside.logs
  world := outside.world
  counters := outside.counters
  tells := by rw [told_tell, outside.tells, if_neg shown]
  asks := outside.asks
  maps := outside.maps

theorem giveBack {s : Input} {asked mapped : Nat} {lines : List ScanLine} {m : ScanMachine}
    (outside : s.Outside asked mapped lines m) (pages : List ImagePage) :
    s.Outside asked mapped lines (m.giveBack (imageHost s.place) pages) := by
  induction pages generalizing m with
  | nil => exact outside
  | cons page rest ih =>
    have same : (imageHost s.place).unmap page m.world = m.world := by
      rw [outside.world]
      rfl
    have silent := told_giveBack s.place m [page]
    exact ih { outside with world := same.trans outside.world, tells := silent.trans outside.tells }

theorem releaseGuard {s : Input} {asked mapped : Nat} {lines : List ScanLine} {m : ScanMachine}
    (outside : s.Outside asked mapped lines m) (gfn : Gfn) :
    s.Outside asked mapped lines (m.releaseGuard gfn).2 := by
  unfold Machine.releaseGuard
  split
  · exact outside
  · split
    · exact outside
    · exact { outside with }

/-- An attempt to map a page is counted. -/
theorem countMapping? {s : Input} {asked mapped : Nat} {lines : List ScanLine} {m : ScanMachine}
    (outside : s.Outside asked mapped lines m) (room : asked + 1 < 2 ^ 64) :
    ∃ counters, m.countMapping? = some { m with counters } ∧ counters.Holds Machine.mapCounter (asked + 1) := by
  have below : (m.counters.get Machine.mapCounter).toNat = asked := by
    rw [outside.counters.get_eq, if_pos rfl]
  obtain ⟨counters, more⟩ : ∃ counters, m.counters.increment? Machine.mapCounter = some counters := by
    have sum : add64? (m.counters.get Machine.mapCounter) 1 = some (m.counters.get Machine.mapCounter + 1) :=
      if_pos (by rw [below]; exact room)
    exact ⟨_, congrArg (Option.map _) sum⟩
  refine ⟨counters, ?_, outside.counters.increment more⟩
  unfold Machine.countMapping?
  rw [if_pos outside.counting, more]
  rfl

theorem mapPage {s : Input} {mapped : Nat} {m : ScanMachine} (world : m.world.mapped = mapped)
    (inside : mapped < s.pages) :
    m.mapPage (imageHost s.place) s.driver (gfn mapped) pageBytes.toNat = (.ok (s.page mapped),
      { m.record (.mapped s.driver (gfn mapped) .rw (.ok (s.page mapped))) with
        world := { m.world with mapped := mapped + 1 } }) := by
  simp only [Machine.mapPage, Machine.callDriver, imageHost, ImageWorld.map, mapping_of_lt inside, world]
  rfl

theorem mapPage_beyond {s : Input} {m : ScanMachine} :
    m.mapPage (imageHost s.place) s.driver (gfn s.pages) pageBytes.toNat =
    (.error beyond, m.record (.mapped s.driver (gfn s.pages) .rw (.error beyond))) := by
  have small : s.pages < 2 ^ 64 := lt_word (Nat.le_refl _)
  simp only [Machine.mapPage, Machine.callDriver, imageHost, ImageWorld.map, mapping_of_le small (Nat.le_refl _)]
  rfl

/-- The next page of the image is mapped, counted and put at the end of the list. -/
theorem acquireNew {s : Input} {mapped : Nat} {lines : List ScanLine}
    {r room : Recency ImageWorld ImageDriver Unit ImagePage} (made : r.makeRoom (imageHost s.place) = room)
    (outside : s.Outside mapped mapped lines room.rest) (inside : mapped < s.pages) (holder : Holder) :
    ∃ rest, r.acquireNew (imageHost s.place) s.driver (gfn mapped) holder =
        (.done ⟨s.place mapped, 4096⟩,
          ⟨room.slots ++ [.first (imageHost s.place) (gfn mapped) (s.page mapped) holder], rest⟩) ∧
      s.Outside (mapped + 1) (mapped + 1) lines rest := by
  have few := s.pages_lt
  obtain ⟨counters, counted, holds⟩ := outside.countMapping? (by omega)
  have serial : room.rest.world.mapped = mapped := by rw [outside.world]
  obtain ⟨m, answer, same⟩ : ∃ m, ({ room.rest with counters } : ScanMachine).mapPage (imageHost s.place) s.driver
      (gfn mapped) pageBytes.toNat = (.ok (s.page mapped), m) ∧ _ = m := ⟨_, mapPage serial inside, rfl⟩
  have passes : m.passesPolicy (imageHost s.place) (gfn mapped) (s.page mapped) pageBytes.toNat = (true, m) := by
    have trusts : m.cache.residency = .trust := same ▸ outside.trusts
    unfold Machine.passesPolicy
    rw [trusts]
  simp only [Recency.acquireNew, Recency.counted?_eq, Recency.delivered_eq, Recency.confirmed_eq,
    Recency.complained_eq, made, counted]
  rw [show (imageHost s.place).pageSize s.driver room.rest.world = pageBytes.toNat from rfl, answer]
  dsimp only
  rw [passes]
  refine ⟨m.tell (.pageMapped (gfn mapped) ((imageHost s.place).address (s.page mapped))), rfl, ?_⟩
  subst same
  refine ⟨outside.driver, outside.limit, outside.trusts, outside.counting, outside.logs, ?_, holds, ?_, ?_, ?_⟩
  · show { room.rest.world with mapped := mapped + 1 } = _
    rw [outside.world]
  · have silent : told (room.rest.record (.mapped s.driver (gfn mapped) .rw (.ok (s.page mapped)))) = lines :=
      (told_cons _ rfl).trans ((List.append_nil _).trans outside.tells)
    have mapped := told_tell (.pageMapped (gfn mapped) ((imageHost s.place).address (s.page mapped)))
    exact (mapped _).trans ((List.append_nil _).trans silent)
  · show _ :: attempts room.rest.journal = _
    rw [outside.asks, reverse_map_range_succ]
  · show _ :: placements room.rest.journal = _
    rw [outside.maps, reverse_map_range_succ]

/-- A page is asked for that lies behind the last one. -/
theorem refused {s : Input} {lines : List ScanLine} {r room : Recency ImageWorld ImageDriver Unit ImagePage}
    (made : r.makeRoom (imageHost s.place) = room) (outside : s.Outside s.pages s.pages lines room.rest)
    (holder : Holder) :
    ∃ rest, r.acquireNew (imageHost s.place) s.driver (gfn s.pages) holder =
        (.refused (.mapFailed (gfn s.pages) beyond), ⟨room.slots, rest⟩) ∧
      s.Outside (s.pages + 1) s.pages (lines ++ [.told (.mapFailed (gfn s.pages) beyond)]) rest := by
  have few := s.pages_lt
  obtain ⟨counters, counted, holds⟩ := outside.countMapping? (by omega)
  obtain ⟨m, answer, same⟩ : ∃ m, ({ room.rest with counters } : ScanMachine).mapPage (imageHost s.place) s.driver
      (gfn s.pages) pageBytes.toNat = (.error beyond, m) ∧ _ = m := ⟨_, mapPage_beyond, rfl⟩
  simp only [Recency.acquireNew, Recency.counted?_eq, Recency.delivered_eq, Recency.confirmed_eq,
    Recency.complained_eq, made, counted]
  rw [show (imageHost s.place).pageSize s.driver room.rest.world = pageBytes.toNat from rfl, answer]
  refine ⟨_, rfl, ?_⟩
  have told : s.Outside (s.pages + 1) s.pages lines m := by
    subst same
    refine { outside with counters := holds, tells := ?_, asks := ?_ }
    · exact (told_cons _ rfl).trans ((List.append_nil _).trans outside.tells)
    · show _ :: attempts room.rest.journal = _
      rw [outside.asks, reverse_map_range_succ]
  unfold Machine.tellMapFailure
  rw [if_pos told.logs]
  exact told.tell (show Level.error ≠ .trace by decide)

end Outside

end Input

end Scan

end ForeignPages
