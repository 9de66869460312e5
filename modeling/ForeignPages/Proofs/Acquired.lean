import ForeignPages.Acquire
import ForeignPages.Proofs.StoreEntries

namespace ForeignPages

variable {World Driver Probe Page : Type} {host : Host World Driver Probe Page}

/-- A cache after pages were evicted of which nobody held one. -/
def Cache.Shrinks (c d : Cache Driver Probe Page) : Prop :=
  ∃ gfns, d = { c with store := (c.store.removeAll gfns).2 } ∧
    ∀ gfn ∈ gfns, ∃ e, c.store.find? gfn = some e ∧ e.references? = some 0

theorem Cache.Shrinks.refl (c : Cache Driver Probe Page) : c.Shrinks c :=
  ⟨[], rfl, fun _ none => absurd none List.not_mem_nil⟩

/-- Only pages that nobody holds are lost. -/
theorem Cache.Shrinks.find?_of_found {c d : Cache Driver Probe Page} {gfn : Gfn} {e : Entry Page}
    (shrinks : c.Shrinks d) (found : c.store.find? gfn = some e) :
    d.store.find? gfn = none ∧ e.references? = some 0 ∨ d.store.find? gfn = some e := by
  obtain ⟨gfns, rfl, free⟩ := shrinks
  rw [Store.find?_removeAll]
  by_cases chosen : gfn ∈ gfns
  · obtain ⟨victim, there, unheld⟩ := free gfn chosen
    cases found.symm.trans there
    exact .inl ⟨if_pos chosen, unheld⟩
  · exact .inr ((if_neg chosen).trans found)

theorem Cache.Shrinks.find?_of_missing {c d : Cache Driver Probe Page} {gfn : Gfn} (shrinks : c.Shrinks d)
    (missing : c.store.find? gfn = none) : d.store.find? gfn = none := by
  obtain ⟨gfns, rfl, _⟩ := shrinks
  rw [Store.find?_removeAll, missing, ite_self]

/-- No page comes when others go. -/
theorem Cache.Shrinks.found_before {c d : Cache Driver Probe Page} {gfn : Gfn} {e : Entry Page}
    (shrinks : c.Shrinks d) (found : d.store.find? gfn = some e) : c.store.find? gfn = some e := by
  cases before : c.store.find? gfn with
  | none => exact (shrinks.find?_of_missing before).symm.trans found
  | some old =>
    rcases shrinks.find?_of_found before with ⟨gone, _⟩ | stayed
    · cases gone.symm.trans found
    · exact stayed.symm.trans found

/-- How an acquisition can end that acquires nothing and does not even find a page. -/
inductive Outcome.Fails (gfn : Gfn) : Outcome Lease → Prop
  | noSession : Outcome.Fails gfn (.refused .noSession)
  | mapFailed (source : IoError) : Outcome.Fails gfn (.refused (.mapFailed gfn source))
  | pageNotPresent : Outcome.Fails gfn (.refused (.pageNotPresent gfn))
  /-- The clock, a table of counters or the references of a page overflow. -/
  | overflow : Outcome.Fails gfn (.broken .additionOverflow)

theorem Cache.tick?_eq_some {c ticked : Cache Driver Probe Page} {token : UInt64}
    (given : c.tick? = some (token, ticked)) :
    token = c.clock ∧ ∃ next : UInt64, next.toNat = c.clock.toNat + 1 ∧ ticked = { c with clock := next } := by
  obtain ⟨next, sum, same⟩ := Option.map_eq_some_iff.mp given
  cases same
  exact ⟨rfl, next, add64?_eq_some.mp sum, rfl⟩

theorem Cache.tick?_store {c ticked : Cache Driver Probe Page} {token : UInt64}
    (given : c.tick? = some (token, ticked)) : ticked.store = c.store := by
  obtain ⟨_, _, _, rfl⟩ := Cache.tick?_eq_some given
  rfl

namespace Machine

@[simp] theorem tell_cache (m : Machine World Driver Probe Page) (event : Event) :
    (m.tell event).cache = m.cache := rfl

@[simp] theorem unmap_cache (m : Machine World Driver Probe Page) (page : Page) :
    (m.unmap host page).cache = m.cache := rfl

@[simp] theorem unmapAll_cache (m : Machine World Driver Probe Page) (entries : List (Entry Page)) :
    (m.unmapAll host entries).cache = m.cache := by
  induction entries generalizing m with
  | nil => rfl
  | cons e rest ih => exact ih (m.unmap host e.page)

theorem clear_cache (m : Machine World Driver Probe Page) :
    (m.clear host).cache = { m.cache with store := .empty } := unmapAll_cache _ _

/-- A cleanup breaks off before it evicts anything, and only because references do not add up. -/
theorem cleanUp_error {m room : Machine World Driver Probe Page} {fault : Fault}
    (indexed : m.cache.store.Indexed) (stuck : m.cleanUp host = (.error fault, room)) :
    m.cache.store.unused? = none ∧ fault = .additionOverflow ∧ room = m := by
  unfold cleanUp at stuck
  rw [indexed.size?_eq] at stuck
  dsimp only at stuck
  split at stuck
  · next unsummed => cases stuck; exact ⟨unsummed, rfl, rfl⟩
  · simp at stuck

/-- What a successful cleanup removes, gives back and tells. -/
theorem cleanUp_ok {m room : Machine World Driver Probe Page} (indexed : m.cache.store.Indexed)
    (made : m.cleanUp host = (.ok (), room)) :
    ∃ unused, m.cache.store.unused? = some unused ∧
      room = ((m.withStore (m.cache.store.removeAll (Store.victims m.cache.limit unused)).2).unmapAll host
          (m.cache.store.removeAll (Store.victims m.cache.limit unused)).1).tell
        (.cleanedUp m.cache.store.entries.length unused.length
          (m.cache.store.removeAll (Store.victims m.cache.limit unused)).1.length) := by
  unfold cleanUp at made
  rw [indexed.size?_eq] at made
  dsimp only at made
  split at made
  · simp at made
  · next unused summed => exact ⟨unused, summed, (congrArg Prod.snd made).symm⟩

theorem makeRoom_eq {m : Machine World Driver Probe Page} (indexed : m.cache.store.Indexed) :
    m.makeRoom host = if m.cache.limit ≤ m.cache.store.entries.length then m.cleanUp host else (.ok (), m) := by
  rw [makeRoom, indexed.size?_eq]

/-- Making room fails only if the counters of a page have no sum, and then nothing has happened. -/
theorem makeRoom_error {m room : Machine World Driver Probe Page} {fault : Fault}
    (indexed : m.cache.store.Indexed) (stuck : m.makeRoom host = (.error fault, room)) :
    fault = .additionOverflow ∧ room = m := by
  rw [makeRoom_eq indexed] at stuck
  split at stuck
  · exact (cleanUp_error indexed stuck).2
  · simp at stuck

theorem makeRoom_shrinks {m room : Machine World Driver Probe Page} (indexed : m.cache.store.Indexed)
    (made : m.makeRoom host = (.ok (), room)) : m.cache.Shrinks room.cache := by
  rw [makeRoom_eq indexed] at made
  split at made
  · obtain ⟨unused, summed, rfl⟩ := cleanUp_ok indexed made
    refine ⟨Store.victims m.cache.limit unused, by simp [withStore], fun gfn chosen => ?_⟩
    obtain ⟨e, member, rfl⟩ := Store.mem_victims chosen
    rw [Store.unused?_eq_some summed] at member
    obtain ⟨cached, free⟩ := List.mem_filter.mp member
    obtain ⟨gfn, found⟩ := Store.mem_entries.mp cached
    exact ⟨e, by rw [indexed.keyed gfn e found, found], of_decide_eq_true free⟩
  · cases made; exact .refl _

theorem countMapping?_cache {m counted : Machine World Driver Probe Page}
    (count : m.countMapping? = some counted) : counted.cache = m.cache := by
  unfold countMapping? at count
  split at count
  · obtain ⟨_, _, rfl⟩ := Option.map_eq_some_iff.mp count
    rfl
  · cases count
    rfl

/-- A page that is mapped is not in the cache yet. -/
theorem mapPage_cache (host : Host World Driver Probe Page) (m : Machine World Driver Probe Page)
    (driver : Driver) (gfn : Gfn) (size : Nat) :
    (m.mapPage host driver gfn size).2.cache = m.cache := by
  have called : (m.callDriver host driver gfn).2.cache = m.cache := rfl
  unfold mapPage
  split
  · next answer => rw [answer] at called; exact called
  · next answer =>
    rw [answer] at called
    dsimp only
    split <;> exact called

/-- A page that passes the check of its size is the one that the driver answered with. -/
theorem mapPage_ok {m mapped : Machine World Driver Probe Page} {driver : Driver} {gfn : Gfn} {size : Nat}
    {page : Page} (answer : m.mapPage host driver gfn size = (.ok page, mapped)) :
    (host.map driver gfn .rw m.world).1 = .ok page := by
  unfold mapPage callDriver at answer
  split at answer
  · simp at answer
  · next called =>
    dsimp only at answer
    split at answer
    · cases answer; exact congrArg Prod.fst called
    · simp at answer

theorem tellMapFailure_cache (m : Machine World Driver Probe Page) (gfn : Gfn) (source : IoError) :
    (m.tellMapFailure gfn source).cache = m.cache := by
  unfold tellMapFailure
  split <;> rfl

theorem passesPolicy_cache (host : Host World Driver Probe Page) (m : Machine World Driver Probe Page)
    (gfn : Gfn) (page : Page) (size : Nat) :
    (m.passesPolicy host gfn page size).2.cache = m.cache := by
  unfold passesPolicy
  split
  · rfl
  · dsimp only
    split <;> rfl

/-- The driver answers an acquisition with a page, for which there is room now. -/
def Answers (host : Host World Driver Probe Page) (m : Machine World Driver Probe Page) (gfn : Gfn)
    (room : Machine World Driver Probe Page) (page : Page) : Prop :=
  ∃ driver counted, m.cache.driver = some driver ∧ m.cache.store.find? gfn = none ∧
    m.makeRoom host = (.ok (), room) ∧ room.countMapping? = some counted ∧
    (host.map driver gfn .rw counted.world).1 = .ok page

/-- The outcome of an acquisition, and the cache that it leaves behind. -/
inductive Acquired (host : Host World Driver Probe Page) (m : Machine World Driver Probe Page) (gfn : Gfn)
    (holder : Holder) : Outcome Lease → Cache Driver Probe Page → Prop
  /-- Nothing was acquired. At most, unused pages had to make room. -/
  | failed {outcome : Outcome Lease} {room : Cache Driver Probe Page} :
      outcome.Fails gfn → m.cache.Shrinks room → Acquired host m gfn holder outcome room
  /-- The counter of a cached page is full, which shows after the page was marked as used. -/
  | touched {e : Entry Page} {token : UInt64} {ticked : Cache Driver Probe Page} :
      m.cache.store.find? gfn = some e → m.cache.tick? = some (token, ticked) →
      ({ e with lastUse := token } : Entry Page).pin? holder = none →
      Acquired host m gfn holder (.broken .additionOverflow)
        { ticked with store := m.cache.store.change gfn fun _ => { e with lastUse := token } }
  | pinned {e pinned : Entry Page} {token : UInt64} {ticked : Cache Driver Probe Page} :
      m.cache.store.find? gfn = some e → m.cache.tick? = some (token, ticked) →
      ({ e with lastUse := token } : Entry Page).pin? holder = some pinned →
      Acquired host m gfn holder (.done ⟨e.handle, host.size e.page m.world⟩)
        { ticked with store := m.cache.store.change gfn fun _ => pinned }
  | placed {room : Machine World Driver Probe Page} {page : Page} {token : UInt64} {size : Nat}
      {ticked : Cache Driver Probe Page} :
      m.Answers host gfn room page → room.cache.tick? = some (token, ticked) →
      room.cache.store.gfnOf? (host.address page) = none →
      Acquired host m gfn holder (.done ⟨host.address page, size⟩)
        { ticked with store := (room.cache.store.insert (firstEntry host gfn page token holder)).2 }
  /-- The new page has the address of a cached one and is given back. -/
  | aliased {room : Machine World Driver Probe Page} {page : Page} {token : UInt64} {other : Gfn}
      {ticked : Cache Driver Probe Page} :
      m.Answers host gfn room page → room.cache.tick? = some (token, ticked) →
      room.cache.store.gfnOf? (host.address page) = some other →
      Acquired host m gfn holder (.broken .handleTaken)
        { ticked with store := (room.cache.store.insert (firstEntry host gfn page token holder)).2 }

theorem Answers.shrinks {m room : Machine World Driver Probe Page} {gfn : Gfn} {page : Page}
    (answers : m.Answers host gfn room page) (indexed : m.cache.store.Indexed) :
    m.cache.Shrinks room.cache := by
  obtain ⟨_, _, _, _, made, _⟩ := answers
  exact makeRoom_shrinks indexed made

theorem Answers.uncached {m room : Machine World Driver Probe Page} {gfn : Gfn} {page : Page}
    (answers : m.Answers host gfn room page) : m.cache.store.find? gfn = none := by
  obtain ⟨_, _, _, missing, _⟩ := answers
  exact missing

theorem Answers.missing {m room : Machine World Driver Probe Page} {gfn : Gfn} {page : Page}
    (answers : m.Answers host gfn room page) (indexed : m.cache.store.Indexed) :
    room.cache.store.find? gfn = none := (answers.shrinks indexed).find?_of_missing answers.uncached

/-- A cached page gets one reference more, or its counter or the clock is full. -/
theorem acquireCached_acquired {m : Machine World Driver Probe Page} {gfn : Gfn} {e : Entry Page}
    (found : m.cache.store.find? gfn = some e) (holder : Holder) :
    m.Acquired host gfn holder (m.acquireCached host gfn e holder).1
      (m.acquireCached host gfn e holder).2.cache := by
  unfold acquireCached
  split
  · exact .failed .overflow (.refl _)
  · next token ticked given =>
    have same := Cache.tick?_store given
    dsimp only
    split
    · next full => rw [same]; exact .touched found given full
    · next pinned room => rw [same]; exact .pinned found given room

/-- A page that was answered is put into the cache, unless the clock is full or its address is taken. -/
theorem place_acquired {m room probed : Machine World Driver Probe Page} {gfn : Gfn} {page : Page}
    (indexed : m.cache.store.Indexed) (answers : m.Answers host gfn room page)
    (same : probed.cache = room.cache) (size : Nat) (holder : Holder) :
    m.Acquired host gfn holder (probed.place host gfn page size holder).1
      (probed.place host gfn page size holder).2.cache := by
  unfold place
  rw [same]
  split
  · rw [unmap_cache, same]
    exact .failed .overflow (answers.shrinks indexed)
  · next token ticked given =>
    have stored := Cache.tick?_store given
    have missing := answers.missing indexed
    dsimp only
    rw [stored]
    cases handle : room.cache.store.gfnOf? (host.address page) with
    | some other =>
      -- The page is given back, but the handle stays redirected to the number that was not cached.
      have known : room.cache.store.gfnOf? (firstEntry host gfn page token holder).handle = some other := handle
      have aliased : m.Acquired host gfn holder _ _ := .aliased answers given handle
      rw [Store.insert_of_known known] at aliased ⊢
      exact aliased
    | none =>
      have unknown : room.cache.store.gfnOf? (firstEntry host gfn page token holder).handle = none := handle
      have placed : m.Acquired host gfn holder (.done ⟨_, size⟩) _ := .placed answers given handle
      rw [Store.insert_of_fresh unknown missing] at placed ⊢
      exact placed

/-- A page that is not cached is mapped, after room was made for it. -/
theorem acquireNew_acquired {m : Machine World Driver Probe Page} {driver : Driver} {gfn : Gfn}
    (indexed : m.cache.store.Indexed) (bound : m.cache.driver = some driver)
    (missing : m.cache.store.find? gfn = none) (holder : Holder) :
    m.Acquired host gfn holder (m.acquireNew host driver gfn holder).1
      (m.acquireNew host driver gfn holder).2.cache := by
  unfold acquireNew
  split
  · next fault room stuck =>
    obtain ⟨rfl, rfl⟩ := makeRoom_error indexed stuck
    exact .failed .overflow (.refl _)
  · next room made =>
    have roomy := makeRoom_shrinks indexed made
    split
    · exact .failed .overflow roomy
    · next counted count =>
      have sameCounted := countMapping?_cache count
      dsimp only
      split
      · next source mapped answer =>
        have sameMapped := mapPage_cache host counted driver gfn (host.pageSize driver counted.world)
        rw [answer] at sameMapped
        rw [tellMapFailure_cache, show mapped.cache = room.cache from sameMapped.trans sameCounted]
        exact .failed (.mapFailed source) roomy
      · next page mapped answer =>
        have sameMapped := mapPage_cache host counted driver gfn (host.pageSize driver counted.world)
        rw [answer] at sameMapped
        have sameProbed := passesPolicy_cache host mapped gfn page (host.pageSize driver counted.world)
        split
        · next probed denied =>
          rw [denied] at sameProbed
          rw [unmap_cache, show probed.cache = room.cache from sameProbed.trans (sameMapped.trans sameCounted)]
          exact .failed .pageNotPresent roomy
        · next probed passed =>
          rw [passed] at sameProbed
          exact place_acquired indexed ⟨driver, counted, bound, missing, made, count, mapPage_ok answer⟩
            (sameProbed.trans (sameMapped.trans sameCounted)) _ _

/-- Whatever the outside does, an acquisition ends in one of these cases. Later proofs take them apart and do not look
at its steps again. -/
theorem acquire_acquired (host : Host World Driver Probe Page) {m : Machine World Driver Probe Page}
    (indexed : m.cache.store.Indexed) (gfn : Gfn) (holder : Holder) :
    m.Acquired host gfn holder (m.acquire host gfn holder).1 (m.acquire host gfn holder).2.cache := by
  unfold acquire
  split
  · exact .failed .noSession (.refl _)
  · next driver bound =>
    split
    · next e found => exact acquireCached_acquired found holder
    · next missing => exact acquireNew_acquired indexed bound missing holder

/-- An acquisition changes nothing of a cache but its pages and its clock. -/
theorem Acquired.settings {m : Machine World Driver Probe Page} {gfn : Gfn} {holder : Holder}
    {outcome : Outcome Lease} {cache : Cache Driver Probe Page} (acquired : m.Acquired host gfn holder outcome cache)
    (indexed : m.cache.store.Indexed) : ∃ store clock, cache = { m.cache with store, clock } := by
  have ticks : ∀ {c ticked : Cache Driver Probe Page} {token : UInt64}, c.tick? = some (token, ticked) →
      ∃ clock, ticked = { c with clock } := by
    intro c ticked token given
    obtain ⟨_, next, _, same⟩ := Cache.tick?_eq_some given
    exact ⟨next, same⟩
  cases acquired with
  | failed _ roomy =>
    obtain ⟨gfns, rfl, _⟩ := roomy
    exact ⟨_, _, rfl⟩
  | touched _ given _ | pinned _ given _ =>
    obtain ⟨_, rfl⟩ := ticks given
    exact ⟨_, _, rfl⟩
  | placed answers given _ | aliased answers given _ =>
    obtain ⟨_, rfl⟩ := ticks given
    obtain ⟨gfns, roomy, _⟩ := answers.shrinks indexed
    rw [roomy]
    exact ⟨_, _, rfl⟩

end Machine

end ForeignPages
