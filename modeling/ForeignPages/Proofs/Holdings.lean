import ForeignPages.Proofs.Ledger
import ForeignPages.Proofs.SessionReach

namespace ForeignPages

variable {World Driver Probe Page : Type} {host : Host World Driver Probe Page}

/-- A page with the number that it was mapped for. -/
def Entry.holding (e : Entry Page) : Gfn × Page := (e.gfn, e.page)

/-- The pages of a store, with their numbers. -/
def Store.holdings (s : Store Page) : List (Gfn × Page) := s.entries.map Entry.holding

theorem Store.holdings_change {s : Store Page} {gfn : Gfn} {f : Entry Page → Entry Page}
    (keeps : ∀ e, s.find? gfn = some e → (f e).gfn = e.gfn ∧ (f e).page = e.page) :
    (s.change gfn f).holdings = s.holdings :=
  Index.map_values_change Entry.holding fun e found => Prod.ext (keeps e found).1 (keeps e found).2

theorem Store.Reordered.holdings_perm {s t : Store Page} (same : s.Reordered t) :
    s.holdings.Perm t.holdings := same.entries_perm.map _

theorem Store.ne_of_mem_holdings {s : Store Page} {gfn : Gfn} {other : Gfn × Page} (indexed : s.Indexed)
    (missing : s.find? gfn = none) (member : other ∈ s.holdings) : other.1 ≠ gfn := by
  obtain ⟨e, cached, rfl⟩ := List.mem_map.mp member
  obtain ⟨key, found⟩ := Store.mem_entries.mp cached
  have keyed := indexed.keyed key e found
  rintro rfl
  rw [show (e.holding).1 = key from keyed, found] at missing
  cases missing

namespace Machine

/-- The journal holds the pages in hand and those of the store, and the driver of the cache is the
one that was attached last. -/
structure Tidy (apart : Page → Page → Prop) (m : Machine World Driver Probe Page) (hand : List (Gfn × Page)) :
    Prop where
  ledger : Ledger apart m.journal (hand ++ m.cache.store.holdings)
  attached : ∀ driver, m.cache.driver = some driver → lastBound? m.journal = some driver

/-- Whatever a driver maps for a page that is acquired lies apart from all pages that are cached at
that moment. -/
def MapsApart (apart : Page → Page → Prop) (host : Host World Driver Probe Page)
    (m : Machine World Driver Probe Page) (gfn : Gfn) : Prop :=
  ∀ room page, m.Answers host gfn room page →
    ∀ other e, room.cache.store.find? other = some e → apart e.page page

namespace Tidy

theorem of_journal {apart : Page → Page → Prop} {m n : Machine World Driver Probe Page} {hand : List (Gfn × Page)}
    (tidy : m.Tidy apart hand) (holdings : m.cache.store.holdings.Perm n.cache.store.holdings)
    (driver : n.cache.driver = m.cache.driver) (journal : n.journal = m.journal) : n.Tidy apart hand where
  ledger := journal ▸ tidy.ledger.reorder (holdings.append_left hand)
  attached := by rw [driver, journal]; exact tidy.attached

/-- An act that neither maps nor gives back a page keeps the account. -/
theorem record {apart : Page → Page → Prop} {m : Machine World Driver Probe Page} {hand : List (Gfn × Page)}
    {act : Act Driver Probe Page} (tidy : m.Tidy apart hand) (idle : act.Idle) :
    (m.record act).Tidy apart hand where
  ledger := tidy.ledger.idle idle
  attached driver present := (idle.lastBound?_cons m.journal).trans (tidy.attached driver present)

theorem tell {apart : Page → Page → Prop} {m : Machine World Driver Probe Page} {hand : List (Gfn × Page)}
    (tidy : m.Tidy apart hand) (event : Event) : (m.tell event).Tidy apart hand :=
  tidy.record (.told event)

theorem tellAll {apart : Page → Page → Prop} {m : Machine World Driver Probe Page} {hand : List (Gfn × Page)}
    (tidy : m.Tidy apart hand) (events : List Event) :
    (events.foldl Machine.tell m).Tidy apart hand := by
  induction events generalizing m with
  | nil => exact tidy
  | cons event rest ih => exact ih (tidy.tell event)

/-- A page in hand is given back. -/
theorem unmap {apart : Page → Page → Prop} {m : Machine World Driver Probe Page} {hand : List (Gfn × Page)}
    (gfn : Gfn) {page : Page} (tidy : m.Tidy apart ((gfn, page) :: hand)) :
    (m.unmap host page).Tidy apart hand :=
  ⟨tidy.ledger.unmapped, tidy.attached⟩

theorem unmapAll {apart : Page → Page → Prop} {m : Machine World Driver Probe Page} {hand : List (Gfn × Page)}
    {entries : List (Entry Page)} (tidy : m.Tidy apart (entries.map Entry.holding ++ hand)) :
    (m.unmapAll host entries).Tidy apart hand := by
  induction entries generalizing m with
  | nil => exact tidy
  | cons e rest ih => exact ih (Tidy.unmap e.gfn tidy)

/-- Pages that leave the store are in hand until they are given back. -/
theorem takeOut {apart : Page → Page → Prop} {m : Machine World Driver Probe Page} {hand : List (Gfn × Page)}
    {store : Store Page} {taken : List (Entry Page)} (tidy : m.Tidy apart hand)
    (split : m.cache.store.entries.Perm (taken ++ store.entries)) :
    ((m.withStore store).unmapAll host taken).Tidy apart hand := by
  refine unmapAll ⟨tidy.ledger.reorder ?_, tidy.attached⟩
  have holdings := split.map Entry.holding
  rw [List.map_append] at holdings
  refine (holdings.append_left hand).trans ?_
  rw [← List.append_assoc]
  exact List.perm_append_comm.append_right _

theorem clear {apart : Page → Page → Prop} {m : Machine World Driver Probe Page} {hand : List (Gfn × Page)}
    (host : Host World Driver Probe Page) (tidy : m.Tidy apart hand) : (m.clear host).Tidy apart hand :=
  tidy.takeOut (List.append_nil _ ▸ .refl _)

/-- Evicted pages are given back one by one. -/
theorem makeRoom {apart : Page → Page → Prop} {m : Machine World Driver Probe Page} {hand : List (Gfn × Page)}
    (host : Host World Driver Probe Page) (tidy : m.Tidy apart hand) :
    (m.makeRoom host).2.Tidy apart hand := by
  unfold Machine.makeRoom
  split
  · exact tidy
  · split
    · unfold cleanUp
      split
      · exact tidy
      · split
        · exact tidy
        · exact (tidy.takeOut (m.cache.store.entries_perm_removeAll _)).tell _
    · exact tidy

theorem countMapping? {apart : Page → Page → Prop} {m : Machine World Driver Probe Page} {hand : List (Gfn × Page)}
    {counted : Machine World Driver Probe Page} (tidy : m.Tidy apart hand) (count : m.countMapping? = some counted) :
    counted.Tidy apart hand := by
  unfold Machine.countMapping? at count
  split at count
  · obtain ⟨_, _, rfl⟩ := Option.map_eq_some_iff.mp count
    exact ⟨tidy.ledger, tidy.attached⟩
  · cases count
    exact tidy

/-- A page that passes the check of its size is in hand. Any other page is given back. -/
theorem mapPage {apart : Page → Page → Prop} {m : Machine World Driver Probe Page}
    (host : Host World Driver Probe Page) {driver : Driver} {gfn : Gfn} (tidy : m.Tidy apart [])
    (indexed : m.cache.store.Indexed) (bound : m.cache.driver = some driver)
    (missing : m.cache.store.find? gfn = none)
    (far : ∀ page, (host.map driver gfn .rw m.world).1 = .ok page → ∀ other e, m.cache.store.find? other = some e →
      apart e.page page)
    (expected : Nat) :
    (m.mapPage host driver gfn expected).2.Tidy apart
      (match (m.mapPage host driver gfn expected).1 with
        | .ok page => [(gfn, page)]
        | .error _ => []) := by
  have free : ∀ page, (host.map driver gfn .rw m.world).1 = .ok page →
      ∀ other ∈ m.cache.store.holdings, other.1 ≠ gfn ∧ apart other.2 page := by
    intro page answer other member
    refine ⟨Store.ne_of_mem_holdings indexed missing member, ?_⟩
    obtain ⟨e, cached, rfl⟩ := List.mem_map.mp member
    obtain ⟨key, found⟩ := Store.mem_entries.mp cached
    exact far page answer key e found
  have last := tidy.attached driver bound
  unfold Machine.mapPage callDriver
  cases answer : host.map driver gfn .rw m.world with
  | mk result world =>
    cases result with
    | error source =>
      have failed := tidy.record (.failed driver gfn .rw source)
      exact failed.of_journal (.refl _) rfl rfl
    | ok page =>
      have mapped : Tidy apart { m.record (.mapped driver gfn .rw (.ok page)) with world } [(gfn, page)] :=
        ⟨tidy.ledger.mapped .rw last (free page (congrArg Prod.fst answer)), tidy.attached⟩
      dsimp only
      split
      · exact mapped
      · exact mapped.unmap gfn

theorem passesPolicy {apart : Page → Page → Prop} {m : Machine World Driver Probe Page} {hand : List (Gfn × Page)}
    (host : Host World Driver Probe Page) (tidy : m.Tidy apart hand) (gfn : Gfn) (page : Page) (size : Nat) :
    (m.passesPolicy host gfn page size).2.Tidy apart hand := by
  unfold Machine.passesPolicy
  split
  · exact tidy
  · cases answer : host.probe m.cache.probe (host.address page) size m.world with
    | mk verdict world =>
      have recorded := tidy.record (.probed m.cache.probe (host.address page) size verdict)
      have probed : Tidy apart { m.record (.probed m.cache.probe (host.address page) size verdict) with world }
          hand := recorded.of_journal (.refl _) rfl rfl
      dsimp only
      split
      · exact probed
      · exact probed.tell _
      · exact probed.tell _

/-- The page in hand is put into the store, or given back. -/
theorem place {apart : Page → Page → Prop} {m : Machine World Driver Probe Page} {gfn : Gfn} {page : Page}
    (tidy : m.Tidy apart [(gfn, page)]) (missing : m.cache.store.find? gfn = none) (size : Nat) (holder : Holder) :
    (m.place host gfn page size holder).2.Tidy apart [] := by
  unfold Machine.place
  split
  · exact tidy.unmap gfn
  · next token ticked given =>
    obtain ⟨_, next, _, rfl⟩ := Cache.tick?_eq_some given
    have ticked : Tidy apart { m with cache := { m.cache with clock := next } } [(gfn, page)] :=
      tidy.of_journal (.refl _) rfl rfl
    have told := ticked.tell (.pageMapped gfn (host.address page))
    dsimp only
    cases handle : m.cache.store.gfnOf? (firstEntry host gfn page token holder).handle with
    | some other =>
      rw [Store.insert_of_known handle]
      exact Tidy.unmap gfn (told.of_journal (.refl _) rfl rfl)
    | none =>
      have stored := Store.entries_insert_of_fresh handle missing
      rw [Store.insert_of_fresh handle missing] at stored ⊢
      refine ⟨told.ledger.reorder ?_, told.attached⟩
      exact List.Perm.of_eq (congrArg (List.map Entry.holding) stored).symm

theorem change {apart : Page → Page → Prop} {m : Machine World Driver Probe Page} {hand : List (Gfn × Page)}
    {gfn : Gfn} {f : Entry Page → Entry Page} (tidy : m.Tidy apart hand)
    (keeps : ∀ e, (f e).gfn = e.gfn ∧ (f e).page = e.page) :
    (m.withStore (m.cache.store.change gfn f)).Tidy apart hand :=
  tidy.of_journal (.of_eq (Store.holdings_change fun e _ => keeps e).symm) rfl rfl

theorem acquireCached {apart : Page → Page → Prop} {m : Machine World Driver Probe Page} {hand : List (Gfn × Page)}
    {gfn : Gfn} {e : Entry Page} (tidy : m.Tidy apart hand) (found : m.cache.store.find? gfn = some e)
    (holder : Holder) :
    (m.acquireCached host gfn e holder).2.Tidy apart hand := by
  have changed : ∀ d : Entry Page, d.gfn = e.gfn → d.page = e.page →
      m.cache.store.holdings.Perm (m.cache.store.change gfn fun _ => d).holdings := by
    intro d sameGfn samePage
    refine List.Perm.of_eq (Store.holdings_change fun f again => ?_).symm
    cases Option.some.inj (found.symm.trans again)
    exact ⟨sameGfn, samePage⟩
  unfold Machine.acquireCached
  split
  · exact tidy
  · next token ticked given =>
    obtain ⟨_, next, _, rfl⟩ := Cache.tick?_eq_some given
    dsimp only
    split
    · exact tidy.of_journal (changed _ rfl rfl) rfl rfl
    · next pinned room =>
      obtain ⟨sameGfn, _, samePage, _⟩ := Entry.pin?_keeps room
      exact tidy.of_journal (changed pinned sameGfn samePage) rfl rfl

/-- The page that is mapped is in hand until it is cached or given back. -/
theorem acquireNew {apart : Page → Page → Prop} {m : Machine World Driver Probe Page} {driver : Driver} {gfn : Gfn}
    (tidy : m.Tidy apart []) (indexed : m.cache.store.Indexed) (bound : m.cache.driver = some driver)
    (missing : m.cache.store.find? gfn = none) (calm : m.MapsApart apart host gfn) (holder : Holder) :
    (m.acquireNew host driver gfn holder).2.Tidy apart [] := by
  have roomy := tidy.makeRoom host
  unfold Machine.acquireNew
  cases made : m.makeRoom host with
  | mk result room =>
    rw [made] at roomy
    cases result with
    | error fault => exact roomy
    | ok _ =>
      obtain ⟨gfns, shrunk, _⟩ := makeRoom_shrinks indexed made
      have indexed' : room.cache.store.Indexed := shrunk ▸ indexed.removeAll gfns
      have missing' : room.cache.store.find? gfn = none := by
        rw [shrunk, Store.find?_removeAll, missing, ite_self]
      have bound' : room.cache.driver = some driver := shrunk ▸ bound
      dsimp only
      split
      · exact roomy
      · next counted count =>
        have same := countMapping?_cache count
        -- The driver answers for the cache after the cleanup, so only what is left has to be apart.
        have far : ∀ page, (host.map driver gfn .rw counted.world).1 = .ok page →
            ∀ other e, counted.cache.store.find? other = some e → apart e.page page :=
          fun page answer => same ▸ calm room page ⟨driver, counted, bound, missing, made, count, answer⟩
        have mapped := (roomy.countMapping? count).mapPage host (same ▸ indexed') (same ▸ bound')
          (same ▸ missing') far (host.pageSize driver counted.world)
        have kept := mapPage_cache host counted driver gfn (host.pageSize driver counted.world)
        split
        · next source failed answer =>
          rw [answer] at mapped
          unfold tellMapFailure
          split
          · exact Tidy.tell mapped _
          · exact mapped
        · next page held answer =>
          rw [answer] at mapped kept
          have probed := Tidy.passesPolicy host mapped gfn page (host.pageSize driver counted.world)
          have kept' := passesPolicy_cache host held gfn page (host.pageSize driver counted.world)
          split
          · next denied verdict =>
            rw [verdict] at probed
            exact Tidy.unmap gfn probed
          · next passed verdict =>
            rw [verdict] at probed kept'
            refine Tidy.place probed ?_ _ holder
            rw [kept', kept, same, missing']

/-- An acquisition keeps the account, whatever its outcome. -/
theorem acquire {apart : Page → Page → Prop} {m : Machine World Driver Probe Page} (tidy : m.Tidy apart [])
    (indexed : m.cache.store.Indexed) {gfn : Gfn} (calm : m.MapsApart apart host gfn) (holder : Holder) :
    (m.acquire host gfn holder).2.Tidy apart [] := by
  unfold Machine.acquire
  split
  · exact tidy
  · next driver bound =>
    split
    · next e found => exact tidy.acquireCached found holder
    · next missing => exact tidy.acquireNew indexed bound missing calm holder

theorem choosePolicy {apart : Page → Page → Prop} {m : Machine World Driver Probe Page} {hand : List (Gfn × Page)}
    (host : Host World Driver Probe Page) (tidy : m.Tidy apart hand) :
    (m.choosePolicy host).Tidy apart hand := by
  unfold Machine.choosePolicy
  split
  · exact tidy
  · have told := (tidy.tellAll (KernelVersion.ofFile (host.release m.world)).2).tell
      (.policySelected (KernelVersion.ofFile (host.release m.world)).1)
    exact ⟨told.ledger, told.attached⟩

/-- Nothing is left of an earlier driver when the next one is attached. -/
theorem bind {apart : Page → Page → Prop} {m : Machine World Driver Probe Page} (tidy : m.Tidy apart [])
    (driver : Driver) : (m.bind host driver).Tidy apart [] := by
  have emptied := (tidy.clear host).choosePolicy host
  have stored : (m.bind host driver).cache.store = .empty := m.bind_store driver
  have held : Ledger apart ((m.clear host).choosePolicy host).journal [] := by
    have same : ((m.clear host).choosePolicy host).cache.store = .empty := m.bind_store driver
    have ledger := emptied.ledger
    rw [same] at ledger
    exact ledger
  refine ⟨?_, fun d present => ?_⟩
  · rw [stored]
    exact held.bound driver
  · cases present
    rfl

theorem release {apart : Page → Page → Prop} {m : Machine World Driver Probe Page} {hand : List (Gfn × Page)}
    (tidy : m.Tidy apart hand) (h : Handle) : (m.release h).2.Tidy apart hand := by
  unfold Machine.release
  split
  · exact tidy
  · split
    · exact tidy
    · split
      · split
        · exact tidy
        · exact tidy.tell _
      · exact tidy.change fun _ => ⟨rfl, rfl⟩

theorem releaseGuard {apart : Page → Page → Prop} {m : Machine World Driver Probe Page} {hand : List (Gfn × Page)}
    (tidy : m.Tidy apart hand) (gfn : Gfn) : (m.releaseGuard gfn).2.Tidy apart hand := by
  unfold Machine.releaseGuard
  split
  · exact tidy
  · split
    · exact tidy
    · exact tidy.change fun _ => ⟨rfl, rfl⟩

end Tidy

/-- Every kind of work on a cache keeps the account, and the end of a cache leaves it empty. -/
theorem tidy_lasting (apart : Page → Page → Prop) (host : Host World Driver Probe Page) :
    Lasting host (fun m gfn => m.MapsApart apart host gfn) (fun m _ => m.Tidy apart [])
      (fun journal => Ledger apart journal []) where
  start := .start
  unbound _ _ _ held := ⟨held, nofun⟩
  guards tidy _ := tidy
  reorder tidy same := tidy.of_journal same.holdings_perm rfl rfl
  retune tidy tuned := tidy.of_journal (.of_eq (tuned.store ▸ rfl)) tuned.driver tuned.journal
  bind driver _ tidy := tidy.bind driver
  destroy _ tidy := by
    have closed := (tidy.clear host).ledger
    rw [clear_cache] at closed
    exact closed.idle (.told _)
  acquire gfn holder indexed calm tidy := tidy.acquire indexed calm holder
  release h _ tidy := tidy.release h
  releaseGuard _ tidy := tidy.releaseGuard _

end Machine

end ForeignPages
