import ForeignPages.Proofs.ScanOpening

namespace ForeignPages

namespace Scan

/-- What is told of a pinned page: its guard holds the only reference. -/
def pinnedLine (page : Nat) : ScanLine := .told (.pagePinned (gfn page) (some 1))

/-- What is told after the last page was visited. -/
def closing (pages : Nat) (sum : UInt64) : List ScanLine :=
  .told (.scanFinished pages (live pages) 64 sum.toNat) :: (List.range 8).map pinnedLine ++ cleanup? pages ++
    [.told (.mapFailed (gfn pages) beyond), .told (.pastTheEnd .genericFailure)]

/-- The numbers that the pages start with, combined. -/
def checksum (file : ImageFile) (pages : Nat) : UInt64 :=
  (List.range pages).foldl (fun sum page => sum ^^^ word file page) 0

namespace Input

/-- The number behind that of the last page is the number of pages. -/
theorem maxGfn_succ (s : Input) : add64? s.driver.maxGfn.number 1 = some s.driver.pages := by
  obtain ⟨_, some, _⟩ := ImageDriver.of_ofSize s.opened
  have last : (s.driver.pages - 1).toNat = s.driver.pages.toNat - 1 :=
    UInt64.toNat_sub_of_le s.driver.pages 1 (UInt64.le_iff_toNat_le.mpr some)
  refine add64?_eq_some.mpr ?_
  rw [ImageDriver.maxGfn, last]
  show s.driver.pages.toNat = s.driver.pages.toNat - 1 + 1
  omega

/-- While pages are pinned, the next one is new. -/
theorem ready_pinned {s : Input} {lines : List ScanLine} {count : Nat} (early : count < 8) (inside : count < s.pages) :
    s.Ready (pinned lines count) count where
  inside := inside
  room := by
    show count + 1 < 2 ^ 64
    omega
  few := by
    rw [pinned, List.length_reverse, List.length_range]
    omega
  fresh _ := by
    refine ⟨rfl, by simp [pinned], fun other kept => ?_⟩
    rw [cleaned_pinned early] at kept
    have below : other < count := List.mem_range.mp kept
    exact ⟨below, .inl (by omega)⟩

/-- While pages are visited, the next one was visited before or is new. -/
theorem ready_swept {s : Input} {lines : List ScanLine} {next : Nat} (inside : next < s.pages) :
    s.Ready (swept lines next) next where
  inside := inside
  room := by
    have few := s.pages_lt
    show 8 + next + 1 < 2 ^ 64
    omega
  few := show pins.length + 1 < 2 ^ 32 by decide
  fresh missing := by
    rcases Nat.lt_or_ge next 8 with first | behind
    · exact absurd (mem_swept_self first) missing
    · refine ⟨(Nat.max_eq_right behind).symm, fun held => ?_, fun other kept => (mem_cleaned_swept behind).mp kept⟩
      have low := List.mem_range.mp (List.mem_reverse.mp held)
      omega

namespace At

/-- All pages are pinned one after another, if there are enough of them. -/
theorem pin {s : Input} {lines : List ScanLine} {m : ScanMachine} {count : Nat} (k : Nat)
    (here : s.At (pinned lines count) m) (all : count + k = 8) (large : 8 ≤ s.pages) :
    ∃ n, Scan.pin s.place m ((List.range' count k).map gfn) = (.ok ((List.range' count k).map s.guard), n) ∧
      s.At (pinned lines 8) n := by
  induction k generalizing count m with
  | zero =>
    cases all
    exact ⟨m, rfl, here⟩
  | succ k ih =>
    obtain ⟨next, taken, there⟩ := here.take (ready_pinned (by omega) (by omega))
    rw [take_pinned (by omega)] at there
    obtain ⟨n, rest, done⟩ := ih there (by omega)
    refine ⟨n, ?_, done⟩
    rw [List.range'_succ, List.map_cons, Scan.pin, taken]
    dsimp only
    rw [rest]
    rfl

/-- The first page behind a small image cannot be pinned, so none is. -/
theorem pin_refused {s : Input} {lines : List ScanLine} {m : ScanMachine} {count : Nat} (k : Nat)
    (here : s.At (pinned lines count) m) (all : count + k = 8) (small : s.pages < 8) (within : count ≤ s.pages) :
    ∃ n, Scan.pin s.place m ((List.range' count k).map gfn) = (.error (.map (.mapFailed (gfn s.pages) beyond)), n) ∧
      s.Refused (lines ++ [.told (.mapFailed (gfn s.pages) beyond)]) s.pages n := by
  induction k generalizing count m with
  | zero => omega
  | succ k ih =>
    rw [List.range'_succ, List.map_cons, Scan.pin]
    rcases Nat.lt_or_eq_of_le within with inside | rfl
    · obtain ⟨next, taken, there⟩ := here.take (ready_pinned (by omega) inside)
      rw [take_pinned (by omega)] at there
      obtain ⟨n, rest, refused⟩ := ih there (by omega) inside
      rw [taken]
      dsimp only
      rw [rest]
      exact ⟨_, rfl, refused.dropAll _⟩
    -- This is the first page that the image does not have. The guards taken so far are dropped on the way out.
    · obtain ⟨n, taken, refused⟩ := here.take_refused rfl (show s.pages + 1 < 2 ^ 64 by omega) (by
        rw [pinned, List.length_reverse, List.length_range]
        omega)
      have length : (pinned lines s.pages).cached.length = s.pages := List.length_range
      rw [cleaned_pinned small, length] at refused
      rw [taken]
      exact ⟨n, rfl, refused⟩

/-- All the pages of the rest are visited, in turn, and add up. -/
theorem sweep {s : Input} {lines : List ScanLine} {m : ScanMachine} {next : Nat} (k : Nat)
    (here : s.At (swept (visited lines next) next) m) (all : next + k = s.pages) (sum : UInt64) :
    ∃ n, Scan.sweep s.place m sum ((List.range' next k).map gfn) =
        (.ok ((List.range' next k).foldl (fun sum page => sum ^^^ word s.file page) sum), n) ∧
      s.At (swept (visited lines s.pages) s.pages) n := by
  induction k generalizing next m sum with
  | zero =>
    cases all
    exact ⟨m, rfl, here⟩
  | succ k ih =>
    obtain ⟨after, visited, there⟩ := here.visit (ready_swept (by omega))
    rw [visit_swept] at there
    obtain ⟨n, rest, done⟩ := ih there (by omega) (sum ^^^ word s.file next)
    refine ⟨n, ?_, done⟩
    rw [List.range'_succ, List.map_cons, Scan.sweep, visited]
    exact rest

/-- A page has as many references as it has guards. -/
theorem references?_eq {s : Input} {m : ScanMachine} {st : Stage} {number : Nat} (here : s.At st m)
    (cached : number ∈ st.cached) (few : st.held.count number < 2 ^ 32) :
    ∃ references, m.cache.references? (gfn number) = .ok (some references) ∧
      references.toNat = st.held.count number := by
  have shown := here.shown.find?_eq (gfn number)
  rw [here.find?_eq (here.fits cached), if_pos cached] at shown
  obtain ⟨e, found, slot⟩ := Option.map_eq_some_iff.mp shown.symm
  have refs : e.refs.toNat = 0 := congrArg Slot.refs slot
  have guards : e.guards.toNat = st.held.count number := congrArg Slot.guards slot
  have sum : e.references? = some (e.refs + e.guards) := if_pos (show _ < 2 ^ 32 by omega)
  refine ⟨e.refs + e.guards, by simp only [Cache.references?, found, sum], ?_⟩
  rw [add32?_eq_some.mp sum, refs, guards, Nat.zero_add]

/-- The pinned pages have one reference each. -/
theorem tellPinned {s : Input} {lines : List ScanLine} {m : ScanMachine} {cached held : List Nat}
    {mapped acquired : Nat} (guards : List Nat) (here : s.At ⟨cached, held, mapped, acquired, lines⟩ m)
    (pinned : ∀ number ∈ guards, number ∈ cached ∧ held.count number = 1) :
    ∃ n, Scan.tellPinned m (guards.map s.guard) = .ok n ∧
      s.At ⟨cached, held, mapped, acquired, lines ++ guards.map pinnedLine⟩ n := by
  induction guards generalizing m lines with
  | nil => exact ⟨m, rfl, by rw [List.map_nil, List.append_nil]; exact here⟩
  | cons number rest ih =>
    obtain ⟨listed, once⟩ := pinned number List.mem_cons_self
    obtain ⟨references, counted, one⟩ := here.references?_eq listed (by show held.count number < _; omega)
    have told : s.At ⟨cached, held, mapped, acquired, lines ++ [pinnedLine number]⟩
      (m.tell (.pagePinned (gfn number) (some 1))) := here.tell (show Level.info ≠ .trace by decide)
    obtain ⟨n, others, done⟩ := ih told fun other member => pinned other (List.mem_cons_of_mem _ member)
    refine ⟨n, ?_, ?_⟩
    · have single : references.toNat = 1 := one.trans once
      unfold Scan.tellPinned at others ⊢
      rw [List.map_cons, List.foldlM_cons, show (s.guard number).gfn = gfn number from rfl, counted, ← others, ← single]
      rfl
    · rw [List.append_assoc] at done
      exact done

/-- The page behind the last one is asked for after all others were visited. -/
theorem askPastTheEnd {s : Input} {lines : List ScanLine} {m : ScanMachine} (here : s.At (swept lines s.pages) m)
    (large : 8 ≤ s.pages) :
    ∃ n, Scan.askPastTheEnd s.place m s.driver.maxGfn = .ok n ∧
      s.Refused (lines ++ cleanup? s.pages ++
        [.told (.mapFailed (gfn s.pages) beyond)] ++ [.told (.pastTheEnd .genericFailure)]) (left s.pages) n := by
  have few := s.pages_lt
  have number : (⟨s.driver.pages⟩ : Gfn) = gfn s.pages := by rw [gfn, pages, UInt64.ofNat_toNat]
  obtain ⟨result, refused⟩ := here.refuse (Nat.max_eq_right large) (show 8 + s.pages + 1 < 2 ^ 64 by omega)
    (show pins.length + 1 < 2 ^ 32 by decide) .handle
  obtain ⟨cleaned, length⟩ := cleaned_swept large
  rw [cleaned, length] at refused
  refine ⟨_, ?_, refused.tell (show Level.info ≠ .trace by decide)⟩
  unfold Scan.askPastTheEnd
  rw [s.maxGfn_succ]
  dsimp only
  rw [number]
  generalize m.acquire (imageHost s.place) (gfn s.pages) .handle = done at result
  obtain ⟨outcome, ended⟩ := done
  cases result
  rfl

/-- The last page is mapped once more past the end, and nothing comes of it. -/
theorem conclude {s : Input} {lines : List ScanLine} {m : ScanMachine} (here : s.At (swept lines s.pages) m)
    (large : 8 ≤ s.pages) (sum : UInt64) :
    ∃ n, Scan.conclude s.place m s.driver ((List.range 8).map s.guard) sum = .ok n ∧
      s.Refused (lines ++ closing s.pages sum) (left s.pages) n := by
  have size : m.cache.store.size? = .ok (live s.pages) := by
    have length := here.lines.length_eq
    rw [List.length_map, length_swept large] at length
    rw [here.lines.indexed.size?_eq, length]
  have bound : m.cache.limit = 64 := here.outside.limit
  have finished : s.At (swept (lines ++ [.told (.scanFinished s.pages (live s.pages) 64 sum.toNat)]) s.pages)
    (m.tell (.scanFinished s.pages (live s.pages) 64 sum.toNat)) := here.tell (show Level.info ≠ .trace by decide)
  obtain ⟨n, told, there⟩ := finished.tellPinned (List.range 8) fun number first => by
    have low := List.mem_range.mp first
    have kept : number ∈ (swept lines s.pages).cached := (mem_swept large).mpr (.inl low)
    exact ⟨kept, by rw [count_pins, if_pos low]⟩
  obtain ⟨ended, asked, refused⟩ := askPastTheEnd there large
  refine ⟨ended, ?_, ?_⟩
  · unfold Scan.conclude
    rw [size, s.maxGfn_succ, bound]
    show (Scan.tellPinned (m.tell (.scanFinished s.pages (live s.pages) 64 sum.toNat)) ((List.range 8).map s.guard) >>=
      fun m => Scan.askPastTheEnd s.place m s.driver.maxGfn) = _
    rw [told]
    exact asked
  · simp only [closing, List.append_assoc, List.cons_append, List.nil_append] at refused ⊢
    exact refused

end At

/-- A scan of enough pages goes through its three parts. -/
theorem scanned {s : Input} (trusted : Residency.forKernel (KernelVersion.ofFile s.release).1 = .trust)
    (large : 8 ≤ s.pages) :
    ∃ pinned swept ended,
      pin s.place (configured s.place (.ofFile s.file s.release) s.driver s.path) (firstPages pinnedPages) =
        (.ok ((List.range 8).map s.guard), pinned) ∧
      sweep s.place pinned 0 (firstPages s.pages) = (.ok (checksum s.file s.pages), swept) ∧
      conclude s.place swept s.driver ((List.range 8).map s.guard) (checksum s.file s.pages) = .ok ended ∧
      s.Refused (visited ((opening s.path s.release s.pages).map .told) s.pages ++
        closing s.pages (checksum s.file s.pages)) (left s.pages) ended := by
  obtain ⟨pinned, taken, atPinned⟩ := (configured_at trusted).pin 8 rfl large
  rw [pinned_eq_swept] at atPinned
  obtain ⟨swept, visited, atSwept⟩ := atPinned.sweep s.pages (Nat.zero_add _) 0
  rw [← List.range_eq_range'] at taken visited
  obtain ⟨ended, concluded, refused⟩ := atSwept.conclude large (checksum s.file s.pages)
  exact ⟨pinned, swept, ended, taken, visited, concluded, refused⟩

end Input

/-- The output of a scan that visits all pages. -/
def output (path : String) (file : ImageFile) (release : Except IoError (List UInt8)) (pages : Nat) : List ScanLine :=
  visited ((opening path release pages).map .told) pages ++ closing pages (checksum file pages) ++
    [.counter "map_page" (pages + 1), .told (.destroyed (left pages))]

/-- A scan of an image with enough pages: all of them are visited, and each of them is mapped once. The page behind
them is asked for at last. -/
structure Completes (place : Nat → Handle) (path : String) (file : ImageFile)
    (release : Except IoError (List UInt8)) (pages : Nat) : Prop where
  report : ofFileAt place path file release = ⟨output path file release pages, none⟩
  code : (ofFileAt place path file release).code = 0
  visits : ∃ d guards pinned swept ended, ImageDriver.ofSize file.size .readWrite true = .ok d ∧
    pin place (configured place (.ofFile file release) d path) (firstPages pinnedPages) = (.ok guards, pinned) ∧
    sweep place pinned 0 (firstPages pages) = (.ok (checksum file pages), swept) ∧
    conclude place swept d guards (checksum file pages) = .ok ended ∧
    ((placements ended.journal).map Prod.fst).reverse = firstPages pages ∧
    (attempts ended.journal).reverse = (firstPages (pages + 1)).map fun gfn => (d, gfn, .rw)

/-- A scan of an image with too few pages, which ends when the first page behind them is to be pinned. -/
structure Fails (place : Nat → Handle) (path : String) (file : ImageFile)
    (release : Except IoError (List UInt8)) (pages : Nat) : Prop where
  report : ofFileAt place path file release =
    ⟨((opening path release pages).map .told) ++ [.told (.mapFailed (gfn pages) beyond), .told (.destroyed pages)],
      some (.map (.mapFailed (gfn pages) beyond))⟩
  code : (ofFileAt place path file release).code = 1

namespace Input

/-- What is left to do after the last line was told: the guards are dropped, the counters shown and the cache ended. -/
theorem Refused.report {s : Input} {m : ScanMachine} {lines : List ScanLine} {count : Nat}
    (refused : s.Refused lines count m) (guards : List Guard) :
    told (Scan.dropAll m guards) ++ ((Scan.dropAll m guards).counters.snapshot.map fun (name, count) =>
        ScanLine.counter name count.toNat) ++
        told ({ Scan.dropAll m guards with journal := [] }.destroy (imageHost s.place)) =
      lines ++ [.counter "map_page" (s.pages + 1), .told (.destroyed count)] := by
  obtain ⟨outside, length⟩ := refused.dropAll guards
  have few := s.pages_lt
  have full : (UInt64.ofNat (s.pages + 1)).toNat = s.pages + 1 := UInt64.toNat_ofNat_of_lt' (show _ < 2 ^ 64 by omega)
  rw [outside.tells, outside.counters.snapshot_eq, if_neg (Nat.succ_ne_zero _), told_destroy, List.map_singleton]
  dsimp only
  rw [length, full, List.append_assoc]
  rfl

/-- A scan of at least eight pages completes. -/
theorem completes {s : Input} (trusted : Residency.forKernel (KernelVersion.ofFile s.release).1 = .trust)
    (large : 8 ≤ s.pages) :
    Completes s.place s.path s.file s.release s.pages := by
  obtain ⟨pinned, swept, ended, taken, visited, concluded, refused⟩ := scanned trusted large
  have count : s.driver.maxGfn.number.toNat + 1 = s.pages := (add64?_eq_some.mp s.maxGfn_succ).symm
  have report : ofFileAt s.place s.path s.file s.release = ⟨output s.path s.file s.release s.pages, none⟩ := by
    unfold ofFileAt
    rw [s.opened, run_eq, scanPages, taken]
    dsimp only
    rw [count, visited]
    dsimp only
    rw [concluded]
    dsimp only
    rw [refused.report]
    rfl
  refine ⟨report, by rw [report]; rfl, s.driver, _, pinned, swept, ended, s.opened, taken, visited, concluded, ?_, ?_⟩
  · rw [refused.outside.maps, List.map_reverse, List.reverse_reverse, List.map_map]
    rfl
  · rw [refused.outside.asks, List.reverse_reverse, firstPages, List.map_map]
    rfl

/-- A smaller one fails when the page behind the end is to be pinned. -/
theorem fails {s : Input} (trusted : Residency.forKernel (KernelVersion.ofFile s.release).1 = .trust)
    (small : s.pages < 8) :
    Fails s.place s.path s.file s.release s.pages := by
  obtain ⟨n, stopped, refused⟩ := (configured_at trusted).pin_refused 8 rfl small (Nat.zero_le _)
  have report : ofFileAt s.place s.path s.file s.release =
      ⟨((opening s.path s.release s.pages).map .told) ++
          [.told (.mapFailed (gfn s.pages) beyond), .told (.destroyed s.pages)],
        some (.map (.mapFailed (gfn s.pages) beyond))⟩ := by
    have first : firstPages pinnedPages = (List.range' 0 8).map gfn := rfl
    unfold ofFileAt
    rw [s.opened, run_eq, scanPages, first, stopped]
    dsimp only [abort]
    rw [told_destroy, refused.outside.tells, refused.length, List.append_assoc]
    rfl
  exact ⟨report, by rw [report]; rfl⟩

end Input

/-- A scan of an image with whole pages, on a kernel whose mappings are trusted. As long as no page is put where
another one lies, the number of pages decides how it ends, and the bytes of the image what it reports. -/
theorem completes_or_fails (place : Nat → Handle) (path : String) (file : ImageFile)
    (release : Except IoError (List UInt8)) {pages : Nat} (whole : file.size.toNat = pages * 4096) (some : 0 < pages)
    (trusted : Residency.forKernel (KernelVersion.ofFile release).1 = .trust)
    (apart : ∀ earlier later, Together earlier later → later < pages → place earlier ≠ place later) :
    (8 ≤ pages → Completes place path file release pages) ∧ (pages < 8 → Fails place path file release pages) := by
  obtain ⟨d, opened⟩ := ImageDriver.ofSize_of_whole whole some .readWrite true
  obtain ⟨size, _⟩ := ImageDriver.of_ofSize opened
  obtain rfl : d.pages.toNat = pages := by omega
  let s : Input := ⟨place, file, release, path, d, opened, apart⟩
  exact ⟨fun large => s.completes trusted large, fun small => s.fails trusted small⟩

/-- Pages lie at addresses of their own. -/
theorem addressOf_ne {earlier later : Nat} (before : earlier < later) (small : later < 2 ^ 50) :
    addressOf earlier ≠ addressOf later := by
  intro same
  have words : UInt64.ofNat (0x100_0000_0000 + earlier * 4096) = UInt64.ofNat (0x100_0000_0000 + later * 4096) :=
    congrArg Handle.address same
  have numbers := congrArg UInt64.toNat words
  rw [UInt64.toNat_ofNat_of_lt' (show _ < 2 ^ 64 by omega), UInt64.toNat_ofNat_of_lt' (show _ < 2 ^ 64 by omega)]
    at numbers
  omega

/-- A release text as a current kernel has it. -/
def currentRelease : Except IoError (List UInt8) := .ok "5.15.0-91-generic".toUTF8.toList

/-- The sample image is scanned to its end, and an image of three pages is not. -/
theorem completes_or_fails_sampleImage : Completes addressOf samplePath sampleImage currentRelease 256 ∧
    Fails addressOf "memory.raw" (.numbered (3 * pageBytes)) currentRelease 3 := by
  have trusted : Residency.forKernel (KernelVersion.ofFile currentRelease).1 = .trust := by decide +kernel
  constructor
  · have scanned := completes_or_fails addressOf samplePath sampleImage currentRelease
      (show _ = 256 * 4096 by decide) (by decide) trusted fun _ _ together inside => addressOf_ne together.1 (by omega)
    exact scanned.1 (by decide)
  · have scanned := completes_or_fails addressOf "memory.raw" (.numbered (3 * pageBytes)) currentRelease
      (show _ = 3 * 4096 by decide) (by decide) trusted fun _ _ together inside => addressOf_ne together.1 (by omega)
    exact scanned.2 (by decide)

end Scan

end ForeignPages
