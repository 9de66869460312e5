import ForeignPages.Proofs.Rejections
import ForeignPages.Proofs.Shelf

namespace ForeignPages

variable {World Driver Probe Page : Type} {host : Host World Driver Probe Page}

/-- Nothing stands between a page and a cache from which others were evicted: its driver delivers it, at an address
that no cached page has, and the residency policy lets it pass. -/
structure Cache.Welcomes (host : Host World Driver Probe Page) (c : Cache Driver Probe Page)
    (evicted : List (Entry Page)) (world : World) (driver : Driver) (gfn : Gfn) (page : Page) : Prop where
  delivers : host.Delivers driver gfn world page
  resides : c.residency = .probe → (host.probe c.probe (host.address page) (host.pageSize driver world)
    (host.map driver gfn .rw world).2).1 = .ok true
  apart : ∀ e ∈ c.store.entries, e.handle = host.address page → e ∈ evicted

namespace Machine

/-- Room is made for another page if none is needed, or if all pages have a total. -/
theorem makeRoom_of_totals {m : Machine World Driver Probe Page} (host : Host World Driver Probe Page)
    (indexed : m.cache.store.Indexed)
    (small : m.cache.limit ≤ m.cache.store.entries.length → ∀ e ∈ m.cache.store.entries, e.Small) :
    ∃ room, m.makeRoom host = (.ok (), room) := by
  by_cases full : m.cache.limit ≤ m.cache.store.entries.length
  · exact makeRoom_of_small host indexed fun gfn e found => small full e (Store.mem_entries.mpr ⟨gfn, found⟩)
  · exact ⟨m, (makeRoom_eq indexed).trans (if_neg full)⟩

/-- A page that is welcome is acquired once there is room for it. -/
theorem acquire_of_welcome {m room : Machine World Driver Probe Page} {driver : Driver} {gfn : Gfn} {page : Page}
    {evicted : List (Entry Page)} {holder : Holder} (indexed : m.cache.store.Indexed)
    (bound : m.cache.driver = some driver) (missing : m.cache.store.find? gfn = none)
    (gives : m.cache.GivesUp evicted) (made : m.makeRoom host = (.ok (), room))
    (welcomes : m.cache.Welcomes host evicted (host.unmapAll evicted m.world) driver gfn page)
    (runs : m.cache.clock.toNat + 1 < 2 ^ 64) (counts : m.countMapping?.isSome) :
    (m.acquire host gfn holder).1 =
      .done ⟨host.address page, host.pageSize driver (host.unmapAll evicted m.world)⟩ := by
  obtain ⟨without, world⟩ := makeRoom_without indexed gives made
  obtain ⟨store, settings⟩ := without.settings
  obtain ⟨delivers, resides, apart⟩ := welcomes
  rw [← world] at delivers resides ⊢
  obtain ⟨acts, dealt, _⟩ := acquire_dealt host indexed gfn holder
  obtain ⟨_, _, ⟨full, _⟩ | ⟨_, tried, tries, _⟩⟩ := dealt.of_room bound missing made
  · have some := makeRoom_countMapping? indexed made
    rw [full, counts] at some
    cases some
  · generalize (m.acquire host gfn holder).1 = outcome at tries ⊢
    generalize (m.acquire host gfn holder).2.cache = after at tries
    cases tries with
    | failed answer => cases answer.symm.trans delivers.1
    | misfit answer different =>
      cases answer.symm.trans delivers.1
      exact absurd delivers.2 different
    | denied answer judged =>
      cases answer.1.symm.trans delivers.1
      cases judged with
      | denied probes asked different =>
        rw [settings] at probes asked
        exact absurd (asked.symm.trans (resides probes)) different
    | housed answer _ housed =>
      cases answer.1.symm.trans delivers.1
      cases housed with
      | spent spent =>
        obtain ⟨_, _, given⟩ := Cache.tick?_of_lt (c := room.cache) (by rw [settings]; exact runs)
        cases spent.symm.trans given
      | aliased _ known =>
        -- The address is that of a page which was evicted, and with the page the cache forgot it.
        rw [without.gfnOf?_eq] at known
        split at known
        · cases known
        · next stays =>
          obtain ⟨other, e, found, same⟩ := (indexed.known _).mp (Option.isSome_of_eq_some known)
          have gone := apart e (Store.mem_entries.mpr ⟨other, found⟩) same
          exact absurd (List.mem_map.mpr ⟨e, gone, same⟩) stays
      | placed => rfl

end Machine

theorem unmapAll_shelf (entries : List (Entry Nat)) (mapped : Nat) : shelf.unmapAll entries mapped = mapped := by
  induction entries with
  | nil => rfl
  | cons e rest ih => exact ih

theorem welcomes_of_shelf {c : Cache Unit Unit Nat} {mapped : Nat}
    (apart : ∀ e ∈ c.store.entries, e.handle ≠ shelf.address mapped) (evicted : List (Entry Nat)) (gfn : Gfn) :
    c.Welcomes shelf evicted (shelf.unmapAll evicted mapped) () gfn mapped := by
  rw [unmapAll_shelf]
  exact ⟨⟨rfl, rfl⟩, fun _ => rfl, fun e cached same => absurd same (apart e cached)⟩

end ForeignPages
