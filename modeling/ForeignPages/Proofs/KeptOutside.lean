import ForeignPages.Release
import ForeignPages.Proofs.Acquired

namespace ForeignPages

variable {World Driver Probe Page : Type} {host : Host World Driver Probe Page}

/-- A fact about the outside that holds on, as long as nobody writes to a page, and only idle pages come
and go. -/
structure Host.Keeps (host : Host World Driver Probe Page) (idle : Page → Prop) (Q : World → Prop) : Prop where
  map : ∀ driver gfn protection world, (∀ page, (host.map driver gfn protection world).1 = .ok page → idle page) →
    Q world → Q (host.map driver gfn protection world).2
  unmap : ∀ page world, idle page → Q world → Q (host.unmap page world)
  probe : ∀ probe h size world, Q world → Q (host.probe probe h size world).2

namespace Machine

/-- Whatever leaves the store when room is made is idle. -/
def SparesBusy (host : Host World Driver Probe Page) (m : Machine World Driver Probe Page) (idle : Page → Prop) :
    Prop :=
  ∀ taken : List (Entry Page), m.cache.store.entries.Perm (taken ++ (m.makeRoom host).2.cache.store.entries) →
    ∀ e ∈ taken, idle e.page

theorem unmapAll_world (host : Host World Driver Probe Page) (m : Machine World Driver Probe Page)
    (entries : List (Entry Page)) :
    (m.unmapAll host entries).world = entries.foldl (fun world e => host.unmap e.page world) m.world := by
  induction entries generalizing m with
  | nil => rfl
  | cons e rest ih => exact ih (m.unmap host e.page)

/-- Room is made by giving back the pages that leave the store. -/
theorem makeRoom_evicts (host : Host World Driver Probe Page) (m : Machine World Driver Probe Page) :
    ∃ taken : List (Entry Page), m.cache.store.entries.Perm (taken ++ (m.makeRoom host).2.cache.store.entries) ∧
      (m.makeRoom host).2.world = taken.foldl (fun world e => host.unmap e.page world) m.world := by
  unfold makeRoom
  split
  · exact ⟨[], .refl _, rfl⟩
  · split
    · unfold cleanUp
      split
      · exact ⟨[], .refl _, rfl⟩
      · split
        · exact ⟨[], .refl _, rfl⟩
        · next unused _ =>
          refine ⟨(m.cache.store.removeAll (Store.victims m.cache.limit unused)).1, ?_, unmapAll_world host _ _⟩
          rw [tell_cache, unmapAll_cache]
          exact m.cache.store.entries_perm_removeAll _
    · exact ⟨[], .refl _, rfl⟩

/-- Room is made at the cost of pages that are not busy. -/
theorem makeRoom_world {m : Machine World Driver Probe Page} {idle : Page → Prop} {Q : World → Prop}
    (keeps : host.Keeps idle Q) (spares : m.SparesBusy host idle) (held : Q m.world) :
    Q (m.makeRoom host).2.world := by
  obtain ⟨taken, split, same⟩ := m.makeRoom_evicts host
  rw [same]
  have unused := spares taken split
  -- The pages go one after another, so the world that the rest finds is any that keeps its promise.
  generalize m.world = world at held
  clear same split
  induction taken generalizing world with
  | nil => exact held
  | cons e rest ih =>
    exact ih (fun d member => unused d (List.mem_cons_of_mem e member)) _
      (keeps.unmap e.page world (unused e List.mem_cons_self) held)

theorem countMapping?_world {m counted : Machine World Driver Probe Page}
    (count : m.countMapping? = some counted) :
    counted.world = m.world := by
  unfold countMapping? at count
  split at count
  · obtain ⟨_, _, rfl⟩ := Option.map_eq_some_iff.mp count
    rfl
  · cases count
    rfl

/-- A driver that is asked keeps what lies outside. -/
theorem mapPage_world {m : Machine World Driver Probe Page} {idle : Page → Prop} {Q : World → Prop}
    (keeps : host.Keeps idle Q) {driver : Driver} {gfn : Gfn}
    (answered : ∀ page, (host.map driver gfn .rw m.world).1 = .ok page → idle page) (size : Nat) (held : Q m.world) :
    Q (m.mapPage host driver gfn size).2.world := by
  have called : Q (m.callDriver host driver gfn).2.world := keeps.map driver gfn .rw m.world answered held
  have result : (m.callDriver host driver gfn).1 = (host.map driver gfn .rw m.world).1 := rfl
  unfold mapPage
  split
  · next answer => rw [answer] at called; exact called
  · next page mapped answer =>
    rw [answer] at called result
    dsimp only
    split
    · exact called
    · exact keeps.unmap page mapped.world (answered page result.symm) called

theorem passesPolicy_world {m : Machine World Driver Probe Page} {idle : Page → Prop} {Q : World → Prop}
    (keeps : host.Keeps idle Q) (gfn : Gfn) (page : Page) (size : Nat) (held : Q m.world) :
    Q (m.passesPolicy host gfn page size).2.world := by
  unfold passesPolicy
  split
  · exact held
  · have probed := keeps.probe m.cache.probe (host.address page) size m.world held
    dsimp only
    split <;> exact probed

/-- A page that cannot be cached is given back, and was not busy. -/
theorem place_world {m : Machine World Driver Probe Page} {idle : Page → Prop} {Q : World → Prop}
    (keeps : host.Keeps idle Q) {gfn : Gfn} {page : Page} (unused : idle page)
    (missing : m.cache.store.find? gfn = none) (size : Nat) (holder : Holder) (held : Q m.world) :
    Q (m.place host gfn page size holder).2.world := by
  unfold place
  split
  · exact keeps.unmap page m.world unused held
  · next token ticked given =>
    have stored := Cache.tick?_store given
    dsimp only
    rw [stored]
    cases handle : m.cache.store.gfnOf? (firstEntry host gfn page token holder).handle with
    | some other =>
      rw [Store.insert_of_known handle]
      exact keeps.unmap page m.world unused held
    | none =>
      rw [Store.insert_of_fresh handle missing]
      exact held

/-- A page that is mapped anew keeps what lies outside, at every stage. -/
theorem acquireNew_world {m : Machine World Driver Probe Page} {idle : Page → Prop} {Q : World → Prop}
    (keeps : host.Keeps idle Q) (indexed : m.cache.store.Indexed) {driver : Driver} {gfn : Gfn}
    (bound : m.cache.driver = some driver) (missing : m.cache.store.find? gfn = none)
    (spares : m.SparesBusy host idle) (answered : ∀ room page, m.Answers host gfn room page → idle page)
    (holder : Holder) (held : Q m.world) : Q (m.acquireNew host driver gfn holder).2.world := by
  have roomy := makeRoom_world keeps spares held
  unfold acquireNew
  split
  · next made => rw [made] at roomy; exact roomy
  · next room made =>
    rw [made] at roomy
    split
    · exact roomy
    · next counted count =>
      have unused : ∀ page, (host.map driver gfn .rw counted.world).1 = .ok page → idle page :=
        fun page answer => answered room page ⟨driver, counted, bound, missing, made, count, answer⟩
      rw [← countMapping?_world count] at roomy
      have mapped := mapPage_world keeps unused (host.pageSize driver counted.world) roomy
      have kept := mapPage_cache host counted driver gfn (host.pageSize driver counted.world)
      dsimp only
      split
      · next source called answer =>
        rw [answer] at mapped
        unfold tellMapFailure
        split <;> exact mapped
      · next page called answer =>
        rw [answer] at mapped kept
        have away := unused page (mapPage_ok answer)
        have probed := passesPolicy_world keeps gfn page (host.pageSize driver counted.world) mapped
        have kept' := passesPolicy_cache host called gfn page (host.pageSize driver counted.world)
        split
        · next denied => rw [denied] at probed; exact keeps.unmap page _ away probed
        · next passed =>
          rw [passed] at probed kept'
          refine place_world keeps away ?_ _ holder probed
          rw [kept', kept, countMapping?_cache count]
          exact (makeRoom_shrinks indexed made).find?_of_missing missing

theorem acquireCached_world (m : Machine World Driver Probe Page) (gfn : Gfn) (e : Entry Page) (holder : Holder) :
    (m.acquireCached host gfn e holder).2.world = m.world := by
  unfold acquireCached
  split
  · rfl
  · dsimp only
    split <;> rfl

/-- An acquisition maps, probes and gives pages back, so what these three keep outlasts it. -/
theorem acquire_world {m : Machine World Driver Probe Page} {idle : Page → Prop} {Q : World → Prop}
    (keeps : host.Keeps idle Q) (indexed : m.cache.store.Indexed) {gfn : Gfn}
    (spares : ∀ driver, m.cache.driver = some driver → m.cache.store.find? gfn = none → m.SparesBusy host idle)
    (answered : ∀ room page, m.Answers host gfn room page → idle page) (holder : Holder) (held : Q m.world) :
    Q (m.acquire host gfn holder).2.world := by
  unfold acquire
  split
  · exact held
  · next driver bound =>
    split
    · next e _ =>
      rw [acquireCached_world]
      exact held
    · next missing =>
      have spares := spares driver bound missing
      exact acquireNew_world keeps indexed bound missing spares answered holder held

theorem release_world (m : Machine World Driver Probe Page) (h : Handle) : (m.release h).2.world = m.world := by
  unfold release
  split
  · rfl
  · split
    · rfl
    · split
      · split <;> rfl
      · rfl

theorem releaseGuard_world (m : Machine World Driver Probe Page) (gfn : Gfn) :
    (m.releaseGuard gfn).2.world = m.world := by
  unfold releaseGuard
  split
  · rfl
  · split <;> rfl

end Machine

end ForeignPages
