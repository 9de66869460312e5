import ForeignPages.Image.File
import ForeignPages.Proofs.Holdings
import ForeignPages.Proofs.KeptOutside
import ForeignPages.Proofs.References

namespace ForeignPages

variable {World Driver Probe Page : Type} {host : Host World Driver Probe Page}

/-- Sound pages are plain memory: a write that fits changes the bytes that it covers, and leaves the page sound. To
a page belong the bytes of its extent, of which its size may hide some. -/
structure Host.Stores (host : Host World Driver Probe Page) (extent : Page → Nat) (sound : Page → World → Prop) :
    Prop where
  size_le : ∀ p world, sound p world → host.size p world ≤ extent p
  stays_sound : ∀ p offset bytes world, sound p world → offset + bytes.length ≤ host.size p world →
    sound p (host.write p offset bytes world)
  byte_write : ∀ p offset bytes world, sound p world → offset + bytes.length ≤ host.size p world →
    ∀ i < extent p, host.byte p i (host.write p offset bytes world) =
      ImageFile.overwrite (fun i => host.byte p i world) offset bytes.toArray i

/-- Between two worlds a sound page stays sound, and none of its bytes changes. -/
def Host.Spares (host : Host World Driver Probe Page) (extent : Page → Nat) (sound : Page → World → Prop) (q : Page)
    (world next : World) : Prop :=
  sound q world → sound q next ∧ ∀ i < extent q, host.byte q i next = host.byte q i world

/-- Sound pages that lie apart have no bytes in common: what is done to one of them, others do not see. -/
structure Host.Separates (host : Host World Driver Probe Page) (apart : Page → Page → Prop) (extent : Page → Nat)
    (sound : Page → World → Prop) : Prop extends host.Stores extent sound where
  symm : ∀ p q, apart p q → apart q p
  map : ∀ driver gfn protection world q,
    (∀ p, (host.map driver gfn protection world).1 = .ok p → apart p q) →
    host.Spares extent sound q world (host.map driver gfn protection world).2
  unmap : ∀ p world q, apart p q → host.Spares extent sound q world (host.unmap p world)
  probe : ∀ probe h size world q, host.Spares extent sound q world (host.probe probe h size world).2
  write : ∀ p offset bytes world q, sound p world → offset + bytes.length ≤ host.size p world → apart p q →
    host.Spares extent sound q world (host.write p offset bytes world)

theorem Host.Spares.holds {extent : Page → Nat} {sound : Page → World → Prop} {q : Page} {world next : World}
    {content : Nat → UInt8} (spares : host.Spares extent sound q world next)
    (held : sound q world ∧ ∀ i < extent q, host.byte q i world = content i) :
    sound q next ∧ ∀ i < extent q, host.byte q i next = content i :=
  ⟨(spares held.1).1, fun i within => ((spares held.1).2 i within).trans (held.2 i within)⟩

theorem Host.Separates.keeps {apart : Page → Page → Prop} {extent : Page → Nat} {sound : Page → World → Prop}
    (separates : host.Separates apart extent sound) (q : Page) (content : Nat → UInt8) :
    host.Keeps (fun p => apart p q) fun world => sound q world ∧ ∀ i < extent q, host.byte q i world = content i where
  map driver gfn protection world far held := (separates.map driver gfn protection world q far).holds held
  unmap p world far held := (separates.unmap p world q far).holds held
  probe probe h size world held := (separates.probe probe h size world q).holds held

namespace Machine

/-- Of the pages of a tidy cache, each lies apart from all others. -/
theorem Tidy.apart_of_perm {apart : Page → Page → Prop} {m : Machine World Driver Probe Page}
    {taken rest : List (Entry Page)} (tidy : m.Tidy apart []) (symmetric : ∀ p q, apart p q → apart q p)
    (split : m.cache.store.entries.Perm (taken ++ rest)) {d e : Entry Page} (left : d ∈ taken) (right : e ∈ rest) :
    apart d.page e.page := by
  have far := tidy.ledger.pairwise_apart symmetric
  have divided := ((split.map Entry.holding).pairwise_iff fun {p q} far => symmetric p.2 q.2 far).mp far
  rw [List.map_append] at divided
  exact (List.pairwise_append.mp divided).2.2 _ (List.mem_map_of_mem left) _ (List.mem_map_of_mem right)

/-- Pages that are cached together share no bytes. -/
theorem Tidy.apart_of_ne {apart : Page → Page → Prop} {m : Machine World Driver Probe Page} {gfn other : Gfn}
    {d e : Entry Page} (tidy : m.Tidy apart []) (symmetric : ∀ p q, apart p q → apart q p)
    (found : m.cache.store.find? gfn = some d) (there : m.cache.store.find? other = some e) (different : other ≠ gfn) :
    apart d.page e.page := by
  have split := m.cache.store.entries_perm_remove gfn
  have stays : (m.cache.store.remove gfn).2.find? other = some e := by
    rw [Store.find?_remove, if_neg different, there]
  rw [Store.remove_of_found found] at split stays
  exact tidy.apart_of_perm symmetric split List.mem_cons_self (Store.mem_entries.mpr ⟨other, stays⟩)

theorem Tidy.spares {apart : Page → Page → Prop} {m : Machine World Driver Probe Page} {other : Gfn} {e : Entry Page}
    (tidy : m.Tidy apart []) (symmetric : ∀ p q, apart p q → apart q p)
    (stays : (m.makeRoom host).2.cache.store.find? other = some e) : m.SparesBusy host fun p => apart p e.page :=
  fun _ split _ member => tidy.apart_of_perm symmetric split member (Store.mem_entries.mpr ⟨other, stays⟩)

theorem makeRoom_find?_of_missing {m : Machine World Driver Probe Page} {gfn : Gfn}
    (host : Host World Driver Probe Page) (indexed : m.cache.store.Indexed) (missing : m.cache.store.find? gfn = none) :
    (m.makeRoom host).2.cache.store.find? gfn = none := by
  cases made : m.makeRoom host with
  | mk result room =>
    cases result with
    | error fault =>
      obtain ⟨_, rfl⟩ := makeRoom_error indexed made
      exact missing
    | ok _ => exact (makeRoom_shrinks indexed made).find?_of_missing missing

theorem place_find? {m : Machine World Driver Probe Page} {gfn other : Gfn} (missing : m.cache.store.find? gfn = none)
    (different : other ≠ gfn) (page : Page) (size : Nat) (holder : Holder) :
    (m.place host gfn page size holder).2.cache.store.find? other = m.cache.store.find? other := by
  unfold place
  split
  · rfl
  · next token ticked given =>
    have stored := Cache.tick?_store given
    dsimp only
    rw [stored]
    cases handle : m.cache.store.gfnOf? (firstEntry host gfn page token holder).handle with
    | some owner =>
      have kept := Store.find?_insert_of_known handle other
      rw [Store.insert_of_known handle] at kept ⊢
      exact kept
    | none =>
      have placed := Store.find?_insert_of_new handle other
      rw [Store.insert_of_fresh handle missing] at placed ⊢
      exact placed.trans (if_neg different)

/-- After an acquisition of another page, those pages are left for which there was room. -/
theorem acquireNew_find? {m : Machine World Driver Probe Page} {gfn other : Gfn} (indexed : m.cache.store.Indexed)
    (driver : Driver) (missing : m.cache.store.find? gfn = none) (different : other ≠ gfn) (holder : Holder) :
    (m.acquireNew host driver gfn holder).2.cache.store.find? other =
      (m.makeRoom host).2.cache.store.find? other := by
  have absent := makeRoom_find?_of_missing host indexed missing
  unfold acquireNew
  split
  · next made => rw [made]
  · next room made =>
    rw [made] at absent ⊢
    split
    · rfl
    · next counted count =>
      have counts := countMapping?_cache count
      have maps := mapPage_cache host counted driver gfn (host.pageSize driver counted.world)
      dsimp only
      split
      · next source mapped answer =>
        rw [answer] at maps
        rw [tellMapFailure_cache, maps, counts]
      · next page mapped answer =>
        rw [answer] at maps
        have probes := passesPolicy_cache host mapped gfn page (host.pageSize driver counted.world)
        split
        · next probed denied =>
          rw [denied] at probes
          rw [unmap_cache, probes, maps, counts]
        · next probed passed =>
          rw [passed] at probes
          have same : probed.cache = room.cache := probes.trans (maps.trans counts)
          rw [place_find? (same ▸ absent) different, same]

/-- Acquiring a page leaves all pages alone that were cached before and are cached afterwards. -/
theorem acquire_spares {apart : Page → Page → Prop} {extent : Page → Nat} {sound : Page → World → Prop}
    {m : Machine World Driver Probe Page} {gfn other : Gfn} {holder : Holder} {e d : Entry Page}
    (separates : host.Separates apart extent sound) (tidy : m.Tidy apart []) (indexed : m.cache.store.Indexed)
    (calm : m.MapsApart apart host gfn) (found : m.cache.store.find? other = some e)
    (stays : (m.acquire host gfn holder).2.cache.store.find? other = some d) :
    host.Spares extent sound e.page m.world (m.acquire host gfn holder).2.world := by
  intro isSound
  have left : ∀ driver, m.cache.driver = some driver → m.cache.store.find? gfn = none →
      (m.makeRoom host).2.cache.store.find? other = some e := by
    intro driver bound missing
    have different : other ≠ gfn := fun same => nomatch (same ▸ found).symm.trans missing
    have acquires : m.acquire host gfn holder = m.acquireNew host driver gfn holder := by
      simp only [acquire, bound, missing]
    rw [acquires, acquireNew_find? indexed driver missing different] at stays
    cases made : m.makeRoom host with
    | mk result room =>
      rw [made] at stays
      cases result with
      | error fault =>
        obtain ⟨_, rfl⟩ := makeRoom_error indexed made
        exact found
      | ok _ =>
        cases found.symm.trans ((makeRoom_shrinks indexed made).found_before stays)
        exact stays
  refine acquire_world (separates.keeps e.page fun i => host.byte e.page i m.world) indexed ?_ ?_ holder
    ⟨isSound, fun _ _ => rfl⟩
  · exact fun driver bound missing => tidy.spares separates.symm (left driver bound missing)
  · intro room page answers
    obtain ⟨driver, _, bound, missing, made, _⟩ := id answers
    have there := left driver bound missing
    rw [made] at there
    exact separates.symm _ _ (calm room page answers other e there)

/-- A page that is answered is of the size that was asked for, as its driver left it. -/
theorem mapPage_delivers {m : Machine World Driver Probe Page} {gfn : Gfn} {driver : Driver} {size : Nat}
    {page : Page} {mapped : Machine World Driver Probe Page}
    (answer : m.mapPage host driver gfn size = (.ok page, mapped)) :
    host.map driver gfn .rw m.world = (.ok page, mapped.world) ∧ host.size page mapped.world = size := by
  unfold mapPage callDriver at answer
  cases called : host.map driver gfn .rw m.world with
  | mk result world =>
    rw [called] at answer
    cases result with
    | error source => cases answer
    | ok mapping =>
      dsimp only at answer
      split at answer
      · next fits =>
        cases answer
        exact ⟨rfl, fits⟩
      · cases answer

theorem passesPolicy_probes (host : Host World Driver Probe Page) (m : Machine World Driver Probe Page) (gfn : Gfn)
    (page : Page) (size : Nat) :
    (m.passesPolicy host gfn page size).2.world = m.world ∨ ∃ probe h count,
      (m.passesPolicy host gfn page size).2.world = (host.probe probe h count m.world).2 := by
  unfold passesPolicy
  split
  · exact .inl rfl
  · refine .inr ⟨m.cache.probe, host.address page, size, ?_⟩
    dsimp only
    split <;> rfl

/-- Where a page is found in its place, it was put there as it is. -/
theorem place_found {m : Machine World Driver Probe Page} {gfn : Gfn} {holder : Holder} {page : Page} {size : Nat}
    {d : Entry Page} (missing : m.cache.store.find? gfn = none)
    (found : (m.place host gfn page size holder).2.cache.store.find? gfn = some d) :
    d.page = page ∧ (m.place host gfn page size holder).1 = .done ⟨host.address page, size⟩ ∧
      (m.place host gfn page size holder).2.world = m.world := by
  unfold place at found ⊢
  split at found
  · cases missing.symm.trans found
  · next token ticked given =>
    have stored := Cache.tick?_store given
    dsimp only at found ⊢
    rw [stored] at found ⊢
    cases handle : m.cache.store.gfnOf? (firstEntry host gfn page token holder).handle with
    | some owner =>
      have kept := Store.find?_insert_of_known handle gfn
      rw [Store.insert_of_known handle] at kept found
      cases (kept.trans missing).symm.trans found
    | none =>
      have placed := Store.find?_insert_of_new handle gfn
      rw [Store.insert_of_fresh handle missing] at placed found ⊢
      cases (placed.trans (if_pos rfl)).symm.trans found
      exact ⟨rfl, rfl, rfl⟩

/-- The page that a driver answers an acquisition with, and the world as it is then. -/
def delivery? (host : Host World Driver Probe Page) (m : Machine World Driver Probe Page) (gfn : Gfn) :
    Option (Page × World) :=
  m.cache.driver.bind fun driver => (m.makeRoom host).2.countMapping?.bind fun counted =>
    match host.map driver gfn .rw counted.world with
    | (.ok page, world) => some (page, world)
    | (.error _, _) => none

/-- A page that was not cached and is cached afterwards is the one that the driver delivered, and at most a
probe came after that. The lease has the size that the page was delivered with. -/
theorem acquire_delivers {m : Machine World Driver Probe Page} {gfn : Gfn} {holder : Holder} {d : Entry Page}
    (indexed : m.cache.store.Indexed) (missing : m.cache.store.find? gfn = none)
    (found : (m.acquire host gfn holder).2.cache.store.find? gfn = some d) :
    ∃ world, m.delivery? host gfn = some (d.page, world) ∧
      (m.acquire host gfn holder).1 = .done ⟨host.address d.page, host.size d.page world⟩ ∧
      ((m.acquire host gfn holder).2.world = world ∨
        ∃ probe h count, (m.acquire host gfn holder).2.world = (host.probe probe h count world).2) := by
  have absent := makeRoom_find?_of_missing host indexed missing
  cases bound : m.cache.driver with
  | none =>
    rw [show m.acquire host gfn holder = (.refused .noSession, m) by simp only [acquire, bound]] at found
    cases missing.symm.trans found
  | some driver =>
    rw [show m.acquire host gfn holder = m.acquireNew host driver gfn holder by
      simp only [acquire, bound, missing]] at found ⊢
    unfold acquireNew at found ⊢
    split at found
    · next made =>
      rw [made] at absent
      cases absent.symm.trans found
    · next room made =>
      rw [made] at absent
      simp only [made, delivery?, bound, Option.bind_some]
      split at found
      · cases absent.symm.trans found
      · next counted count =>
        have counts := countMapping?_cache count
        have maps := mapPage_cache host counted driver gfn (host.pageSize driver counted.world)
        rw [count, Option.bind_some]
        dsimp only at found ⊢
        split at found
        · next source mapped answer =>
          rw [answer] at maps
          rw [tellMapFailure_cache, maps, counts] at found
          cases absent.symm.trans found
        · next page mapped answer =>
          rw [answer] at maps
          obtain ⟨called, fits⟩ := mapPage_delivers answer
          have probes := passesPolicy_cache host mapped gfn page (host.pageSize driver counted.world)
          have asks := passesPolicy_probes host mapped gfn page (host.pageSize driver counted.world)
          split at found
          · next probed denied =>
            rw [denied] at probes
            rw [unmap_cache, probes, maps, counts] at found
            cases absent.symm.trans found
          · next probed passed =>
            rw [passed] at probes asks
            have same : probed.cache = room.cache := probes.trans (maps.trans counts)
            obtain ⟨rfl, done, world⟩ := place_found (same ▸ absent) found
            rw [called, done, world, ← fits]
            exact ⟨mapped.world, rfl, rfl, asks⟩

/-- A lease for a page that is cached already has the size of the page at that moment. -/
theorem acquire_hit {m : Machine World Driver Probe Page} {gfn : Gfn} {holder : Holder} {e : Entry Page}
    {lease : Lease} (indexed : m.cache.store.Indexed) (found : m.cache.store.find? gfn = some e)
    (done : (m.acquire host gfn holder).1 = .done lease) :
    lease = ⟨e.handle, host.size e.page m.world⟩ := by
  have acquired := acquire_acquired host indexed gfn holder
  generalize (m.acquire host gfn holder).2.cache = cache at acquired
  rw [done] at acquired
  cases acquired with
  | failed fails _ => cases fails
  | pinned there _ _ =>
    cases found.symm.trans there
    rfl
  | placed answers _ _ => cases answers.uncached.symm.trans found

end Machine

end ForeignPages
