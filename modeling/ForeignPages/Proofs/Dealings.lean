import ForeignPages.Proofs.Meters
import ForeignPages.Proofs.PageBytes

namespace ForeignPages

variable {World Driver Probe Page : Type} {host : Host World Driver Probe Page}

/-- Acts to which the outside has nothing to answer. -/
inductive Act.Unanswered : Act Driver Probe Page → Prop
  | unmapped (page : Page) : Act.Unanswered (.unmapped page)
  | bound (driver : Driver) : Act.Unanswered (.bound driver)
  | told (event : Event) : Act.Unanswered (.told event)

/-- Pages of entries are given back, one after another. -/
def returns (entries : List (Entry Page)) : List (Act Driver Probe Page) :=
  (entries.map fun e => .unmapped e.page).reverse

theorem unanswered_returns (entries : List (Entry Page)) :
    ∀ act ∈ (returns entries : List (Act Driver Probe Page)), act.Unanswered := by
  intro act member
  obtain ⟨e, _, rfl⟩ := List.mem_map.mp (List.mem_reverse.mp member)
  exact .unmapped e.page

/-- What is told about a probe that does not confirm a page. -/
def denial (gfn : Gfn) : Except IoError Bool → Event
  | .ok _ => .notResident gfn
  | .error source => .probeFailed gfn source

/-- What is told about a mapping that failed. -/
def Cache.complaint (c : Cache Driver Probe Page) (gfn : Gfn) (source : IoError) : List (Act Driver Probe Page) :=
  if c.logMapFailures then [.told (.mapFailed gfn source)] else []

/-- The driver answers with a page of the size that it claims. -/
def Host.Delivers (host : Host World Driver Probe Page) (driver : Driver) (gfn : Gfn) (world : World)
    (page : Page) : Prop :=
  (host.map driver gfn .rw world).1 = .ok page ∧
    host.size page (host.map driver gfn .rw world).2 = host.pageSize driver world

namespace Cache

/-- What passes while room is made: nothing below the limit, and a cleanup from it on. -/
inductive Roomed (c : Cache Driver Probe Page) : List (Act Driver Probe Page) → Prop
  | spare : c.store.entries.length < c.limit → Roomed c []
  | cleaned {unused : List (Entry Page)} : c.limit ≤ c.store.entries.length → c.store.unused? = some unused →
      Roomed c (.told (.cleanedUp c.store.entries.length unused.length
          (c.store.removeAll (Store.victims c.limit unused)).1.length) ::
        returns (c.store.removeAll (Store.victims c.limit unused)).1)

/-- Whether a new page passes the residency policy, and what passes meanwhile. -/
inductive Judged (host : Host World Driver Probe Page) (c : Cache Driver Probe Page) (world : World) (gfn : Gfn)
    (page : Page) (size : Nat) : Bool → List (Act Driver Probe Page) → Prop
  | trusted : c.residency = .trust → Judged host c world gfn page size true []
  | resident : c.residency = .probe → (host.probe c.probe (host.address page) size world).1 = .ok true →
      Judged host c world gfn page size true [.probed c.probe (host.address page) size (.ok true)]
  | denied {answer : Except IoError Bool} : c.residency = .probe →
      (host.probe c.probe (host.address page) size world).1 = answer → answer ≠ .ok true →
      Judged host c world gfn page size false
        [.told (denial gfn answer), .probed c.probe (host.address page) size answer]

/-- How a new page is put into its place: the outcome, what passes meanwhile, and the cache afterwards. -/
inductive Housed (host : Host World Driver Probe Page) (c : Cache Driver Probe Page) (gfn : Gfn) (page : Page)
    (size : Nat) (holder : Holder) : Outcome Lease → List (Act Driver Probe Page) → Cache Driver Probe Page → Prop
  | spent : c.tick? = none →
      Housed host c gfn page size holder (.broken .additionOverflow) [.unmapped page] c
  /-- The page has the address of a cached one. -/
  | aliased {token : UInt64} {ticked : Cache Driver Probe Page} {other : Gfn} : c.tick? = some (token, ticked) →
      c.store.gfnOf? (host.address page) = some other →
      Housed host c gfn page size holder (.broken .handleTaken)
        [.unmapped page, .told (.pageMapped gfn (host.address page))]
        { ticked with store := (c.store.insert (Machine.firstEntry host gfn page token holder)).2 }
  | placed {token : UInt64} {ticked : Cache Driver Probe Page} : c.tick? = some (token, ticked) →
      c.store.gfnOf? (host.address page) = none →
      Housed host c gfn page size holder (.done ⟨host.address page, size⟩) [.told (.pageMapped gfn (host.address page))]
        { ticked with store := (c.store.insert (Machine.firstEntry host gfn page token holder)).2 }

/-- An attempt to map a page for a cache that has room: the outcome, what passes meanwhile, and the cache
afterwards. -/
inductive Tried (host : Host World Driver Probe Page) (c : Cache Driver Probe Page) (world : World) (driver : Driver)
    (gfn : Gfn) (holder : Holder) : Outcome Lease → List (Act Driver Probe Page) → Cache Driver Probe Page → Prop
  | failed {source : IoError} : (host.map driver gfn .rw world).1 = .error source →
      Tried host c world driver gfn holder (.refused (.mapFailed gfn source))
        (c.complaint gfn source ++ [.mapped driver gfn .rw (.error source)]) c
  /-- A page of another size is given back before anything else happens to it. -/
  | misfit {page : Page} {source : IoError} : (host.map driver gfn .rw world).1 = .ok page →
      host.size page (host.map driver gfn .rw world).2 ≠ host.pageSize driver world →
      source = Machine.wrongSize (host.size page (host.map driver gfn .rw world).2) (host.pageSize driver world) →
      Tried host c world driver gfn holder (.refused (.mapFailed gfn source))
        (c.complaint gfn source ++ [.unmapped page, .mapped driver gfn .rw (.ok page)]) c
  | denied {page : Page} {judged : List (Act Driver Probe Page)} : host.Delivers driver gfn world page →
      c.Judged host (host.map driver gfn .rw world).2 gfn page (host.pageSize driver world) false judged →
      Tried host c world driver gfn holder (.refused (.pageNotPresent gfn))
        (.unmapped page :: judged ++ [.mapped driver gfn .rw (.ok page)]) c
  | housed {page : Page} {judged settled : List (Act Driver Probe Page)} {outcome : Outcome Lease}
      {after : Cache Driver Probe Page} : host.Delivers driver gfn world page →
      c.Judged host (host.map driver gfn .rw world).2 gfn page (host.pageSize driver world) true judged →
      c.Housed host gfn page (host.pageSize driver world) holder outcome settled after →
      Tried host c world driver gfn holder outcome (settled ++ judged ++ [.mapped driver gfn .rw (.ok page)]) after

theorem Roomed.unanswered {c : Cache Driver Probe Page} {acts : List (Act Driver Probe Page)} (roomed : c.Roomed acts) :
    ∀ act ∈ acts, act.Unanswered := by
  cases roomed with
  | spare => exact fun act none => absurd none List.not_mem_nil
  | cleaned => exact List.forall_mem_cons.mpr ⟨.told _, unanswered_returns _⟩

theorem unanswered_complaint (c : Cache Driver Probe Page) (gfn : Gfn) (source : IoError) :
    ∀ act ∈ c.complaint gfn source, act.Unanswered := by
  unfold complaint
  split
  · exact List.forall_mem_singleton.mpr (.told _)
  · exact fun act none => absurd none List.not_mem_nil

/-- Storing a page answers nothing yet. -/
theorem Housed.unanswered {c after : Cache Driver Probe Page} {gfn : Gfn} {page : Page} {size : Nat} {holder : Holder}
    {outcome : Outcome Lease} {acts : List (Act Driver Probe Page)}
    (housed : c.Housed host gfn page size holder outcome acts after) :
    ∀ act ∈ acts, act.Unanswered := by
  cases housed with
  | spent => exact List.forall_mem_singleton.mpr (.unmapped _)
  | aliased => exact List.forall_mem_cons.mpr ⟨.unmapped _, List.forall_mem_singleton.mpr (.told _)⟩
  | placed => exact List.forall_mem_singleton.mpr (.told _)

end Cache

namespace Machine

/-- An acquisition: the outcome, what passes between the cache and its outside meanwhile, and the cache and its
counters afterwards. -/
inductive Dealt (host : Host World Driver Probe Page) (m : Machine World Driver Probe Page) (gfn : Gfn)
    (holder : Holder) :
    Outcome Lease → List (Act Driver Probe Page) → Cache Driver Probe Page → Counters → Prop
  | unbound : m.cache.driver = none → Dealt host m gfn holder (.refused .noSession) [] m.cache m.counters
  | hit {driver : Driver} {e : Entry Page} : m.cache.driver = some driver → m.cache.store.find? gfn = some e →
      Dealt host m gfn holder (m.acquireCached host gfn e holder).1 []
        (m.acquireCached host gfn e holder).2.cache m.counters
  /-- The references of a page do not add up, so that no cleanup is possible. -/
  | stuck {driver : Driver} {fault : Fault} {room : Machine World Driver Probe Page} : m.cache.driver = some driver →
      m.cache.store.find? gfn = none → m.makeRoom host = (.error fault, room) →
      Dealt host m gfn holder (.broken .additionOverflow) [] m.cache m.counters
  /-- The attempt cannot be counted. -/
  | full {driver : Driver} {room : Machine World Driver Probe Page} {acts : List (Act Driver Probe Page)} :
      m.cache.driver = some driver → m.cache.store.find? gfn = none → m.makeRoom host = (.ok (), room) →
      m.cache.Roomed acts → room.journal = acts ++ m.journal → room.countMapping? = none →
      Dealt host m gfn holder (.broken .additionOverflow) acts room.cache m.counters
  | tried {driver : Driver} {room counted : Machine World Driver Probe Page}
      {acts tried : List (Act Driver Probe Page)} {outcome : Outcome Lease} {after : Cache Driver Probe Page} :
      m.cache.driver = some driver → m.cache.store.find? gfn = none → m.makeRoom host = (.ok (), room) →
      m.cache.Roomed acts → room.journal = acts ++ m.journal → room.countMapping? = some counted →
      room.cache.Tried host room.world driver gfn holder outcome tried after →
      Dealt host m gfn holder outcome (tried ++ acts) after counted.counters

/-- Unmapping a list of pages returns each of them to the driver, in its order. -/
theorem unmapAll_journal (m : Machine World Driver Probe Page) (entries : List (Entry Page)) :
    (m.unmapAll host entries).journal = returns entries ++ m.journal := by
  induction entries generalizing m with
  | nil => rfl
  | cons e rest ih =>
    have others : ((m.unmap host e.page).unmapAll host rest).journal = _ := ih (m.unmap host e.page)
    simp only [returns, List.map_cons, List.reverse_cons, List.append_assoc]
    exact others

/-- The journal tells how room was made, and nothing is counted for it. -/
theorem makeRoom_roomed {m room : Machine World Driver Probe Page}
    (indexed : m.cache.store.Indexed) (made : m.makeRoom host = (.ok (), room)) :
    ∃ acts, m.cache.Roomed acts ∧ room.journal = acts ++ m.journal ∧ room.counters = m.counters := by
  rw [makeRoom_eq indexed] at made
  split at made
  · next reached =>
    obtain ⟨unused, summed, rfl⟩ := cleanUp_ok indexed made
    refine ⟨_, .cleaned reached summed, congrArg (Act.told _ :: ·) (unmapAll_journal _ _), ?_⟩
    exact unmapAll_counters _ _
  · next below =>
    cases made
    exact ⟨[], .spare (Nat.not_le.mp below), rfl, rfl⟩

theorem makeRoom_keeps {m room : Machine World Driver Probe Page}
    (indexed : m.cache.store.Indexed) (made : m.makeRoom host = (.ok (), room)) :
    ∃ store, room.cache = { m.cache with store } := by
  obtain ⟨gfns, same, _⟩ := makeRoom_shrinks indexed made
  exact ⟨_, same⟩

theorem countMapping?_journal {m counted : Machine World Driver Probe Page}
    (count : m.countMapping? = some counted) :
    counted.journal = m.journal := by
  unfold countMapping? at count
  split at count
  · obtain ⟨_, _, rfl⟩ := Option.map_eq_some_iff.mp count
    rfl
  · cases count
    rfl

/-- A page that is answered is told of with the driver, the number and the protection that it was mapped for. -/
theorem mapPage_journal {m : Machine World Driver Probe Page} {gfn : Gfn} {driver : Driver} {size : Nat} {page : Page}
    {mapped : Machine World Driver Probe Page} (answer : m.mapPage host driver gfn size = (.ok page, mapped)) :
    mapped.journal = .mapped driver gfn .rw (.ok page) :: m.journal := by
  unfold mapPage callDriver at answer
  cases called : host.map driver gfn .rw m.world with
  | mk result world =>
    rw [called] at answer
    cases result with
    | error failure => cases answer
    | ok delivered =>
      dsimp only at answer
      split at answer
      · cases answer
        rfl
      · cases answer

/-- A mapping fails if the driver says so, or if it maps something else than one page. -/
theorem mapPage_error {m : Machine World Driver Probe Page} {gfn : Gfn} {driver : Driver} {size : Nat}
    {source : IoError} {mapped : Machine World Driver Probe Page}
    (answer : m.mapPage host driver gfn size = (.error source, mapped)) :
    ((host.map driver gfn .rw m.world).1 = .error source ∧
      mapped.journal = .mapped driver gfn .rw (.error source) :: m.journal) ∨
    ∃ page, (host.map driver gfn .rw m.world).1 = .ok page ∧ host.size page (host.map driver gfn .rw m.world).2 ≠ size ∧
      source = wrongSize (host.size page (host.map driver gfn .rw m.world).2) size ∧
      mapped.journal = .unmapped page :: .mapped driver gfn .rw (.ok page) :: m.journal := by
  unfold mapPage callDriver at answer
  cases called : host.map driver gfn .rw m.world with
  | mk result world =>
    rw [called] at answer
    cases result with
    | error failure =>
      cases answer
      exact .inl ⟨rfl, rfl⟩
    | ok page =>
      dsimp only at answer
      split at answer
      · cases answer
      · next different =>
        cases answer
        exact .inr ⟨page, rfl, different, rfl, rfl⟩

theorem tellMapFailure_journal (m : Machine World Driver Probe Page) (gfn : Gfn) (source : IoError) :
    (m.tellMapFailure gfn source).journal = m.cache.complaint gfn source ++ m.journal := by
  unfold tellMapFailure Cache.complaint
  split <;> rfl

theorem tellMapFailure_counters (m : Machine World Driver Probe Page) (gfn : Gfn) (source : IoError) :
    (m.tellMapFailure gfn source).counters = m.counters := by
  unfold tellMapFailure
  split <;> rfl

/-- The journal tells how a page was judged. -/
theorem passesPolicy_judged (host : Host World Driver Probe Page) (m : Machine World Driver Probe Page) (gfn : Gfn)
    (page : Page) (size : Nat) :
    ∃ acts, m.cache.Judged host m.world gfn page size (m.passesPolicy host gfn page size).1 acts ∧
      (m.passesPolicy host gfn page size).2.journal = acts ++ m.journal := by
  unfold passesPolicy
  split
  · next trusted => exact ⟨[], .trusted trusted, rfl⟩
  · next probed =>
    cases asked : host.probe m.cache.probe (host.address page) size m.world with
    | mk answer world =>
      have answered : (host.probe m.cache.probe (host.address page) size m.world).1 = answer :=
        congrArg Prod.fst asked
      dsimp only
      split
      · exact ⟨_, .resident probed answered, rfl⟩
      · exact ⟨_, .denied probed answered (by simp), rfl⟩
      · exact ⟨_, .denied probed answered (by simp), rfl⟩

/-- The journal tells how a page was put into the cache, or why it was not. -/
theorem place_housed {m : Machine World Driver Probe Page} {gfn : Gfn} (host : Host World Driver Probe Page)
    (missing : m.cache.store.find? gfn = none) (page : Page) (size : Nat) (holder : Holder) :
    ∃ acts, m.cache.Housed host gfn page size holder (m.place host gfn page size holder).1 acts
        (m.place host gfn page size holder).2.cache ∧
      (m.place host gfn page size holder).2.journal = acts ++ m.journal := by
  unfold place
  split
  · next spent => exact ⟨_, .spent spent, rfl⟩
  · next token ticked given =>
    have stored := Cache.tick?_store given
    dsimp only
    rw [stored]
    cases handle : m.cache.store.gfnOf? (host.address page) with
    | some other =>
      have known : m.cache.store.gfnOf? (firstEntry host gfn page token holder).handle = some other := handle
      have aliased : m.cache.Housed host gfn page size holder _ _ _ := .aliased given handle
      rw [Store.insert_of_known known] at aliased ⊢
      exact ⟨_, aliased, rfl⟩
    | none =>
      have unknown : m.cache.store.gfnOf? (firstEntry host gfn page token holder).handle = none := handle
      have placed : m.cache.Housed host gfn page size holder _ _ _ := .placed given handle
      rw [Store.insert_of_fresh unknown missing] at placed ⊢
      exact ⟨_, placed, rfl⟩

theorem acquireCached_counters (m : Machine World Driver Probe Page) (gfn : Gfn) (e : Entry Page)
    (holder : Holder) : (m.acquireCached host gfn e holder).2.counters = m.counters := by
  unfold acquireCached
  split
  · rfl
  · dsimp only
    split <;> rfl

theorem acquireCached_journal (m : Machine World Driver Probe Page) (gfn : Gfn) (e : Entry Page)
    (holder : Holder) : (m.acquireCached host gfn e holder).2.journal = m.journal := by
  unfold acquireCached
  split
  · rfl
  · dsimp only
    split <;> rfl

/-- An attempt to map a page comes to a result. The attempt was counted before, and is not counted again. -/
def Attempts (host : Host World Driver Probe Page) (m : Machine World Driver Probe Page) (driver : Driver) (gfn : Gfn)
    (holder : Holder) (result : Outcome Lease × Machine World Driver Probe Page) : Prop :=
  ∃ tried, m.cache.Tried host m.world driver gfn holder result.1 tried result.2.cache ∧
    result.2.journal = tried ++ m.journal ∧ result.2.counters = m.counters

theorem mapPage_keeps {m : Machine World Driver Probe Page} {gfn : Gfn} {driver : Driver}
    {mapped : Machine World Driver Probe Page} {size : Nat} {result : Except IoError Page}
    (answer : m.mapPage host driver gfn size = (result, mapped)) :
    mapped.cache = m.cache ∧ mapped.counters = m.counters := by
  have cache := mapPage_cache host m driver gfn size
  have counters := mapPage_counters host m driver gfn size
  rw [answer] at cache counters
  exact ⟨cache, counters⟩

theorem passesPolicy_keeps {m : Machine World Driver Probe Page} {gfn : Gfn} {page : Page} {size : Nat}
    {verdict : Bool} {probed : Machine World Driver Probe Page}
    (judged : m.passesPolicy host gfn page size = (verdict, probed)) :
    probed.cache = m.cache ∧ probed.counters = m.counters := by
  have cache := passesPolicy_cache host m gfn page size
  have counters := passesPolicy_counters host m gfn page size
  rw [judged] at cache counters
  exact ⟨cache, counters⟩

/-- An attempt ends where the driver fails. -/
theorem attempts_of_failed {m : Machine World Driver Probe Page} {gfn : Gfn} {driver : Driver} {holder : Holder}
    {mapped : Machine World Driver Probe Page} {source : IoError}
    (answer : m.mapPage host driver gfn (host.pageSize driver m.world) = (.error source, mapped)) :
    m.Attempts host driver gfn holder (.refused (.mapFailed gfn source), mapped.tellMapFailure gfn source) := by
  obtain ⟨cache, counters⟩ := mapPage_keeps answer
  simp only [Attempts, tellMapFailure_journal, tellMapFailure_cache, tellMapFailure_counters, cache, counters]
  obtain ⟨failed, called⟩ | ⟨page, answered, different, reason, called⟩ := mapPage_error answer
  · refine ⟨_, .failed failed, ?_, trivial⟩
    rw [called, List.append_assoc]
    rfl
  · refine ⟨_, .misfit answered different reason, ?_, trivial⟩
    rw [called, List.append_assoc]
    rfl

/-- A page that is answered is one that the driver mapped, of the size that was asked for. -/
theorem delivers_of_mapPage {m : Machine World Driver Probe Page} {gfn : Gfn} {driver : Driver} {page : Page}
    {mapped : Machine World Driver Probe Page} {size : Nat}
    (answer : m.mapPage host driver gfn size = (.ok page, mapped)) :
    (host.map driver gfn .rw m.world).1 = .ok page ∧ (host.map driver gfn .rw m.world).2 = mapped.world ∧
      host.size page (host.map driver gfn .rw m.world).2 = size := by
  obtain ⟨called, fits⟩ := mapPage_delivers answer
  rw [called]
  exact ⟨rfl, rfl, fits⟩

/-- An attempt ends where the policy denies the page, which is given back. -/
theorem attempts_of_denied {m : Machine World Driver Probe Page} {gfn : Gfn} {driver : Driver} {page : Page}
    {holder : Holder} {mapped denied : Machine World Driver Probe Page}
    (answer : m.mapPage host driver gfn (host.pageSize driver m.world) = (.ok page, mapped))
    (verdict : mapped.passesPolicy host gfn page (host.pageSize driver m.world) = (false, denied)) :
    m.Attempts host driver gfn holder (.refused (.pageNotPresent gfn), denied.unmap host page) := by
  obtain ⟨cache, counters⟩ := mapPage_keeps answer
  obtain ⟨probesCache, probesCounters⟩ := passesPolicy_keeps verdict
  obtain ⟨judged, judges, asked⟩ := passesPolicy_judged host mapped gfn page (host.pageSize driver m.world)
  obtain ⟨called, world, fits⟩ := delivers_of_mapPage answer
  rw [verdict] at judges asked
  rw [cache, ← world] at judges
  dsimp only at asked
  simp only [Attempts, unmap_cache, probesCache, cache]
  refine ⟨_, .denied ⟨called, fits⟩ judges, ?_, probesCounters.trans counters⟩
  change .unmapped page :: denied.journal = _
  rw [asked, mapPage_journal answer, List.cons_append, List.cons_append, List.append_assoc]
  rfl

/-- Otherwise the page is put into the cache. -/
theorem attempts_of_passed {m : Machine World Driver Probe Page} {gfn : Gfn} {driver : Driver} {page : Page}
    {holder : Holder} {mapped passed : Machine World Driver Probe Page}
    (missing : m.cache.store.find? gfn = none)
    (answer : m.mapPage host driver gfn (host.pageSize driver m.world) = (.ok page, mapped))
    (verdict : mapped.passesPolicy host gfn page (host.pageSize driver m.world) = (true, passed)) :
    m.Attempts host driver gfn holder (passed.place host gfn page (host.pageSize driver m.world) holder) := by
  obtain ⟨cache, counters⟩ := mapPage_keeps answer
  obtain ⟨probesCache, probesCounters⟩ := passesPolicy_keeps verdict
  obtain ⟨judged, judges, asked⟩ := passesPolicy_judged host mapped gfn page (host.pageSize driver m.world)
  obtain ⟨called, world, fits⟩ := delivers_of_mapPage answer
  rw [verdict] at judges asked
  rw [cache, ← world] at judges
  dsimp only at asked
  have same : passed.cache = m.cache := probesCache.trans cache
  obtain ⟨settled, housed, told⟩ :=
    place_housed host (same ▸ missing) page (host.pageSize driver m.world) holder
  rw [same] at housed
  refine ⟨_, .housed ⟨called, fits⟩ judges housed, ?_, ?_⟩
  · rw [told, asked, mapPage_journal answer, List.append_assoc, List.append_assoc]
    rfl
  · rw [place_counters, probesCounters, counters]

/-- The journal of an acquisition that maps a page falls into these stages. -/
theorem acquireNew_dealt {m : Machine World Driver Probe Page} {gfn : Gfn} {driver : Driver}
    (indexed : m.cache.store.Indexed) (bound : m.cache.driver = some driver)
    (missing : m.cache.store.find? gfn = none) (holder : Holder) :
    ∃ acts, m.Dealt host gfn holder (m.acquireNew host driver gfn holder).1 acts
        (m.acquireNew host driver gfn holder).2.cache (m.acquireNew host driver gfn holder).2.counters ∧
      (m.acquireNew host driver gfn holder).2.journal = acts ++ m.journal := by
  unfold acquireNew
  split
  · next fault room made =>
    obtain ⟨rfl, rfl⟩ := makeRoom_error indexed made
    exact ⟨[], .stuck bound missing made, rfl⟩
  · next room made =>
    obtain ⟨acts, roomed, journal, counters⟩ := makeRoom_roomed indexed made
    have absent := (makeRoom_shrinks indexed made).find?_of_missing missing
    split
    · next full => exact ⟨acts, counters ▸ .full bound missing made roomed journal full, journal⟩
    · next counted count =>
      have same := countMapping?_cache count
      have concludes : ∀ {result}, counted.Attempts host driver gfn holder result →
          ∃ acts, m.Dealt host gfn holder result.1 acts result.2.cache result.2.counters ∧
            result.2.journal = acts ++ m.journal := by
        rintro result ⟨tried, attempt, told, counts⟩
        rw [same, countMapping?_world count] at attempt
        rw [countMapping?_journal count, journal, ← List.append_assoc] at told
        exact ⟨_, counts ▸ .tried bound missing made roomed journal count attempt, told⟩
      dsimp only
      split
      · next answer => exact concludes (attempts_of_failed answer)
      · next answer =>
        split
        · next verdict => exact concludes (attempts_of_denied answer verdict)
        · next verdict => exact concludes (attempts_of_passed (same ▸ absent) answer verdict)

/-- Every acquisition is one of these dealings with its outside. Later proofs take the cases apart and do not follow
the stages again. -/
theorem acquire_dealt {m : Machine World Driver Probe Page} (host : Host World Driver Probe Page)
    (indexed : m.cache.store.Indexed) (gfn : Gfn) (holder : Holder) :
    ∃ acts, m.Dealt host gfn holder (m.acquire host gfn holder).1 acts (m.acquire host gfn holder).2.cache
        (m.acquire host gfn holder).2.counters ∧
      (m.acquire host gfn holder).2.journal = acts ++ m.journal := by
  unfold acquire
  split
  · next none => exact ⟨[], .unbound none, rfl⟩
  · next driver bound =>
    split
    · next e found =>
      have hit : m.Dealt host gfn holder _ _ _ _ := .hit bound found
      refine ⟨[], ?_, ?_⟩
      · rw [acquireCached_counters]
        exact hit
      · exact acquireCached_journal m gfn e holder
    · next missing => exact acquireNew_dealt indexed bound missing holder

theorem acquireCached_ne_refused (host : Host World Driver Probe Page) (m : Machine World Driver Probe Page) (gfn : Gfn)
    (e : Entry Page) (holder : Holder) (error : MapError) : (m.acquireCached host gfn e holder).1 ≠ .refused error := by
  unfold acquireCached
  split
  · exact nofun
  · dsimp only
    split <;> exact nofun

end Machine

end ForeignPages
