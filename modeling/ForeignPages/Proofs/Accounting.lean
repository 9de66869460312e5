import ForeignPages.Proofs.Runs
import ForeignPages.Proofs.Shelf

namespace ForeignPages

variable {World Driver Probe Page : Type} {host : Host World Driver Probe Page}

namespace Session

/-- The cached pages with their numbers; none if there is no cache. -/
def holdings (s : Session World Driver Probe Page) : List (Gfn × Page) :=
  match s.cache with
  | none => []
  | some cache => cache.store.holdings

/-- The account of a session: every mapping is given back exactly once, so that its journal holds exactly the cached
pages, and nothing after the cache is gone. -/
structure Accounted (host : Host World Driver Probe Page) (s : Session World Driver Probe Page) : Prop where
  live : Balances s.journal s.holdings
  size : ∀ cache, s.cache = some cache → cache.store.size? = .ok s.holdings.length
  /-- The driver of the cache is the one that was attached last. -/
  attached : ∀ cache driver, s.cache = some cache → cache.driver = some driver →
    lastBound? s.journal = some driver
  /-- At most one mapping is live for a number. -/
  single : (s.holdings.map Prod.fst).Nodup
  /-- At no earlier moment more of a page was given back than had been mapped, and at most one mapping
  was live for a number. -/
  once : ∀ newer older, s.journal = newer ++ older → ∃ held, Balances older held ∧ (held.map Prod.fst).Nodup
  /-- Pages are mapped by the driver that was attached last. -/
  own : ∀ newer driver gfn protection page older,
    s.journal = newer ++ .mapped driver gfn protection (.ok page) :: older → lastBound? older = some driver
  /-- Since a driver was attached, as many pages were mapped as were given back or are cached. -/
  current : ∀ newer driver older, s.journal = newer ++ .bound driver :: older →
    (mappings newer).Perm (unmappings newer ++ s.holdings.map Prod.snd) ∧
      (mappings newer).length = (unmappings newer).length + s.holdings.length
  /-- Before the next driver was attached, all pages of a driver were given back. -/
  earlier : ∀ newer driver session former older,
    s.journal = newer ++ .bound driver :: (session ++ .bound former :: older) →
      (mappings session).Perm (unmappings session)
  /-- An operation after which there is no cache has given back all pages. -/
  dropped : ∀ op, (s.step host op).2.cache = none →
    (mappings (s.step host op).2.journal).Perm (unmappings (s.step host op).2.journal)
  discarded : (s.step host .discard).2.cache = none
  /-- Options that are refused take the cache with them. -/
  consumed : ∀ options, options.limit < minLimit → s.guards.size = 0 →
    (s.step host (.setOptions options)).2.cache = none

/-- The journal of a session that keeps its cache tidy holds the cached pages. -/
theorem Sustains.ledger {s : Session World Driver Probe Page} {apart : Page → Page → Prop}
    (held : s.Sustains (fun m _ => m.Tidy apart []) (fun journal => Ledger apart journal [])) :
    Ledger apart s.journal s.holdings := by
  cases present : s.cache with
  | none =>
    simp only [Sustains, present] at held
    simp only [holdings, present]
    exact held.2
  | some cache =>
    simp only [Sustains, present] at held
    simp only [holdings, present]
    exact held.2.ledger

theorem Sustains.size {s : Session World Driver Probe Page} {P : Machine World Driver Probe Page → List Guard → Prop}
    {Q : List (Act Driver Probe Page) → Prop} {cache : Cache Driver Probe Page} (held : s.Sustains P Q)
    (present : s.cache = some cache) : cache.store.size? = .ok s.holdings.length := by
  simp only [Sustains, present] at held
  have length : cache.store.holdings.length = cache.store.entries.length := List.length_map _
  simp only [holdings, present, length]
  exact held.1.size?_eq

/-- A cache whose options are refused is consumed. -/
theorem setOptions_refused_cache {s : Session World Driver Probe Page} {options : Options}
    (small : options.limit < minLimit) (nobody : s.guards.size = 0) :
    (s.step host (.setOptions options)).2.cache = none := by
  change (s.setOptions host options).2.cache = none
  unfold setOptions
  rw [if_pos nobody]
  split
  · next none => exact none
  · unfold Machine.withOptions Cache.setLimit
    rw [if_pos small]

end Session

/-- The journal of every session that a run leads to is an account of the cached pages. -/
theorem Session.Reach.ledger {allowed : Session World Driver Probe Page → Op World Driver Probe → Prop}
    {world : World} {past : List (Op World Driver Probe × Reply)} {s : Session World Driver Probe Page}
    {apart : Page → Page → Prop} (reach : Session.Reach host allowed world past s)
    (heeding : ∀ s op, allowed s op → s.Heeds (fun m gfn => m.MapsApart apart host gfn) op) :
    Ledger apart s.journal s.holdings :=
  ((Machine.tidy_lasting apart host).reach heeding reach).ledger

/-- No mapping leaks and none is given back twice, over any number of drivers, whatever they do, and
whatever operations come in which order, also after faults. -/
theorem Session.Reach.accounted {allowed : Session World Driver Probe Page → Op World Driver Probe → Prop}
    {world : World} {past : List (Op World Driver Probe × Reply)} {s : Session World Driver Probe Page}
    (reach : Session.Reach host allowed world past s) : s.Accounted host := by
  -- Pages may have any addresses here, so every page counts as apart from every other one.
  have lasting := Machine.tidy_lasting (fun _ _ => True) host
  have always : ∀ m gfn, Machine.MapsApart (fun _ _ => True) host m gfn := fun _ _ _ _ _ _ _ _ => trivial
  have sustained := lasting.reach (fun s op _ => s.heeds_of_always op always) reach
  have ledger := sustained.ledger
  have settled : ∀ {newer driver older}, s.journal = newer ++ .bound driver :: older →
      Ledger (fun _ _ => True) older [] := by
    intro newer driver older split
    obtain ⟨_, before⟩ := (split ▸ ledger).of_append
    exact before.before_bound
  refine ⟨ledger.balances, fun cache => sustained.size, ?_, ledger.gfns_nodup, ?_, ?_, ?_, ?_, ?_, ?_, ?_⟩
  · intro cache driver present bound
    simp only [Sustains, present] at sustained
    exact sustained.2.attached driver bound
  · intro newer older split
    obtain ⟨held, before⟩ := (split ▸ ledger).of_append
    exact ⟨held, before.balances, before.gfns_nodup⟩
  · intro newer driver gfn protection page older split
    obtain ⟨_, before⟩ := (split ▸ ledger).of_append
    exact before.lastBound?_of_mapped
  · intro newer driver older split
    have since := (split ▸ ledger).balanced_since ((settled split).bound driver)
    have count := since.length_eq
    rw [List.length_append, List.length_map] at count
    exact ⟨since, count⟩
  · intro newer driver session former older split
    have before := settled split
    obtain ⟨_, attached⟩ := before.of_append
    have between := before.balanced_since (attached.before_bound.bound former)
    rwa [List.map_nil, List.append_nil] at between
  · intro op gone
    have after := lasting.step sustained op (s.heeds_of_always op always)
    simp only [Sustains, gone] at after
    simpa using after.2.balanced
  · exact s.close_cache host
  · exact fun options => setOptions_refused_cache

/-- An outside at which all pages lie at one address, so that no two can be cached. -/
def cramped : Host Nat Unit Unit Nat := { shelf with address := fun _ => ⟨4096⟩ }

/-- A run over two drivers in which a second page runs into the address of the first, and in which
options are refused at last. -/
def consumedCache : List (Op Nat Unit Unit) :=
  [.create (some ()), .acquire ⟨1⟩, .acquire ⟨2⟩, .bind (), .get ⟨3⟩ "guard", .acquire ⟨4⟩,
    .dropGuard "guard", .release ⟨4096⟩, .acquire ⟨3⟩, .setOptions ⟨0, false⟩]

/-- All four pages that were mapped are given back, each of them once. -/
theorem accounted_consumedCache :
    unmappings (Session.run cramped (.start 0) consumedCache).journal = [2, 3, 0, 1] ∧
      (Session.run cramped (.start 0) consumedCache).Accounted cramped := by
  have begun : Session.Reach cramped (fun _ _ => True) 0 [] (.start 0) := .start
  have permitted : (Session.start 0).Permits cramped (fun _ _ => True) consumedCache := by decide
  obtain ⟨_, reach⟩ := begun.run permitted
  exact ⟨by decide, reach.accounted⟩

end ForeignPages
