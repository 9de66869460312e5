import ForeignPages.Proofs.SessionReach

namespace ForeignPages

variable {World Driver Probe Page : Type}

/-- The pages of a store count the live guards on them, and every live guard has its page. -/
structure Store.Guarded (s : Store Page) (live : List Guard) : Prop where
  counted : ∀ gfn e, s.find? gfn = some e → e.guards.toNat = live.countP (·.gfn = gfn)
  cached : ∀ g ∈ live, ∃ e, s.find? g.gfn = some e ∧ e.handle = g.handle

namespace Store.Guarded

theorem empty : (Store.empty : Store Page).Guarded [] := ⟨by simp, by simp⟩

theorem perm {s : Store Page} {live live' : List Guard} (guarded : s.Guarded live)
    (same : live.Perm live') :
    s.Guarded live' where
  counted gfn e found := (guarded.counted gfn e found).trans (same.countP_eq _)
  cached g member := guarded.cached g (same.mem_iff.mpr member)

/-- Guards see only the handle of a page and its guard counter. -/
theorem of_same {s t : Store Page} {live : List Guard} (guarded : s.Guarded live)
    (same : ∀ gfn,
      (t.find? gfn).map (fun e => (e.handle, e.guards)) = (s.find? gfn).map fun e => (e.handle, e.guards)) :
    t.Guarded live where
  counted gfn e found := by
    have image := same gfn
    rw [found, Option.map_some] at image
    obtain ⟨old, atOld, seen⟩ := Option.map_eq_some_iff.mp image.symm
    rw [← guarded.counted gfn old atOld, ← (Prod.mk.inj seen).2]
  cached g member := by
    obtain ⟨old, atOld, handle⟩ := guarded.cached g member
    have image := same g.gfn
    rw [atOld, Option.map_some] at image
    obtain ⟨e, found, seen⟩ := Option.map_eq_some_iff.mp image
    exact ⟨e, found, (Prod.mk.inj seen).1.trans handle⟩

/-- What changes neither the handle nor the guards of a page keeps the count. -/
theorem change {s : Store Page} {live : List Guard} {gfn : Gfn} {f : Entry Page → Entry Page}
    (guarded : s.Guarded live) (keeps : ∀ e, s.find? gfn = some e → (f e).handle = e.handle ∧ (f e).guards = e.guards) :
    (s.change gfn f).Guarded live := by
  refine guarded.of_same fun other => ?_
  rw [find?_change]
  split
  · next same =>
    subst same
    cases found : s.find? other with
    | none => rfl
    | some e => simp [keeps e found]
  · rfl

theorem none_of_missing {s : Store Page} {live : List Guard} {gfn : Gfn} (guarded : s.Guarded live)
    (missing : s.find? gfn = none) :
    live.countP (·.gfn = gfn) = 0 := by
  refine List.countP_eq_zero.mpr fun g member same => ?_
  obtain ⟨e, found, _⟩ := guarded.cached g member
  rw [of_decide_eq_true same, missing] at found
  simp at found

theorem references?_ne_zero {s : Store Page} {live : List Guard} {g : Guard} {e : Entry Page}
    (guarded : s.Guarded live) (member : g ∈ live) (found : s.find? g.gfn = some e) : e.references? ≠ some 0 := by
  intro free
  have zero := congrArg UInt32.toNat (Entry.references?_eq_zero.mp free).2
  rw [guarded.counted g.gfn e found] at zero
  exact List.countP_eq_zero.mp zero g member (decide_eq_true rfl)

theorem find?_removeAll {s : Store Page} {live : List Guard} {gfns : List Gfn} {g : Guard} (guarded : s.Guarded live)
    (free : ∀ gfn ∈ gfns, ∃ e, s.find? gfn = some e ∧ e.references? = some 0) (member : g ∈ live) :
    (s.removeAll gfns).2.find? g.gfn = s.find? g.gfn := by
  rw [Store.find?_removeAll, if_neg]
  intro chosen
  obtain ⟨e, found, unheld⟩ := free g.gfn chosen
  exact guarded.references?_ne_zero member found unheld

/-- Pages that nobody holds can go. -/
theorem removeAll {s : Store Page} {live : List Guard} {gfns : List Gfn} (guarded : s.Guarded live)
    (free : ∀ gfn ∈ gfns, ∃ e, s.find? gfn = some e ∧ e.references? = some 0) :
    (s.removeAll gfns).2.Guarded live where
  counted gfn e found := by
    rw [Store.find?_removeAll] at found
    split at found
    · simp at found
    · exact guarded.counted gfn e found
  cached g member := by
    obtain ⟨e, found, handle⟩ := guarded.cached g member
    exact ⟨e, (guarded.find?_removeAll free member).trans found, handle⟩

theorem cached_change {s : Store Page} {gfn : Gfn} {e : Entry Page} {f : Entry Page → Entry Page} {g : Guard}
    (found : s.find? gfn = some e) (same : (f e).handle = e.handle)
    (there : ∃ d, s.find? g.gfn = some d ∧ d.handle = g.handle) :
    ∃ d, (s.change gfn f).find? g.gfn = some d ∧ d.handle = g.handle := by
  obtain ⟨d, there, seen⟩ := there
  rw [find?_change]
  by_cases here : g.gfn = gfn
  · rw [here, found] at there
    cases Option.some.inj there
    exact ⟨f e, by rw [if_pos here, here, found]; rfl, same.trans seen⟩
  · exact ⟨d, by rw [if_neg here, there], seen⟩

/-- A new guard is counted by its page. -/
theorem take {s : Store Page} {live : List Guard} {g : Guard} {e : Entry Page} {f : Entry Page → Entry Page}
    (guarded : s.Guarded live) (found : s.find? g.gfn = some e) (handle : (f e).handle = g.handle)
    (same : (f e).handle = e.handle) (more : (f e).guards.toNat = e.guards.toNat + 1) :
    (s.change g.gfn f).Guarded (g :: live) where
  counted gfn d there := by
    rw [find?_change] at there
    rw [List.countP_cons]
    split at there
    · next here =>
      subst here
      rw [found] at there
      cases Option.some.inj there
      rw [more, guarded.counted g.gfn e found, if_pos (decide_eq_true rfl)]
    · next elsewhere =>
      rw [guarded.counted gfn d there, if_neg (by simpa using Ne.symm elsewhere), Nat.add_zero]
  cached other member := by
    rcases List.mem_cons.mp member with rfl | old
    · exact ⟨f e, by rw [find?_change, if_pos rfl, found]; rfl, handle⟩
    · exact cached_change found same (guarded.cached other old)

/-- A guard that is dropped is counted no longer. -/
theorem drop {s : Store Page} {live : List Guard} {g : Guard} {e : Entry Page} {f : Entry Page → Entry Page}
    (guarded : s.Guarded (g :: live)) (found : s.find? g.gfn = some e) (same : (f e).handle = e.handle)
    (less : (f e).guards.toNat + 1 = e.guards.toNat) : (s.change g.gfn f).Guarded live where
  counted gfn d there := by
    rw [find?_change] at there
    have before := guarded.counted gfn
    simp only [List.countP_cons] at before
    split at there
    · next here =>
      subst here
      rw [found] at there
      cases Option.some.inj there
      have counted := before e found
      rw [if_pos (decide_eq_true rfl)] at counted
      omega
    · next elsewhere =>
      have counted := before d there
      rwa [if_neg (by simpa using Ne.symm elsewhere), Nat.add_zero] at counted
  cached other member := cached_change found same (guarded.cached other (List.mem_cons_of_mem _ member))

theorem guards_ne_zero {s : Store Page} {live : List Guard} {g : Guard} (guarded : s.Guarded (g :: live)) :
    ∃ e, s.find? g.gfn = some e ∧ 0 < e.guards.toNat := by
  obtain ⟨e, found, _⟩ := guarded.cached g List.mem_cons_self
  refine ⟨e, found, ?_⟩
  rw [guarded.counted g.gfn e found]
  exact List.countP_pos_iff.mpr ⟨g, List.mem_cons_self, decide_eq_true rfl⟩

/-- A page that is put into the store counts the guard for which it was mapped, if it was for one. -/
theorem insert {s : Store Page} {live : List Guard} {host : Host World Driver Probe Page} {gfn : Gfn} {page : Page}
    {token : UInt64} (guarded : s.Guarded live) (unknown : s.gfnOf? (host.address page) = none)
    (missing : s.find? gfn = none) (holder : Holder) (size : Nat) :
    (s.insert (Machine.firstEntry host gfn page token holder)).2.Guarded
      (Outcome.guards gfn holder (.done ⟨host.address page, size⟩) ++ live) where
  counted other e found := by
    have nobody := guarded.none_of_missing missing
    rw [find?_insert_of_new unknown] at found
    rw [List.countP_append]
    split at found
    · next same =>
      cases Option.some.inj found
      subst same
      rw [nobody]
      cases holder <;> simp [Outcome.guards, Machine.firstEntry]
    · next elsewhere =>
      have apart : gfn ≠ other := fun same => elsewhere same.symm
      rw [guarded.counted other e found]
      cases holder <;> simp [Outcome.guards, apart]
  cached g member := by
    have stored : (s.insert (Machine.firstEntry host gfn page token holder)).2.find? gfn =
        some (Machine.firstEntry host gfn page token holder) := by
      rw [find?_insert_of_new unknown]
      exact if_pos rfl
    rcases List.mem_append.mp member with new | old
    · cases holder with
      | handle => simp [Outcome.guards] at new
      | guard =>
        rw [List.mem_singleton.mp new]
        exact ⟨_, stored, rfl⟩
    · obtain ⟨e, found, handle⟩ := guarded.cached g old
      have elsewhere : g.gfn ≠ gfn := fun same => by rw [same, missing] at found; simp at found
      refine ⟨e, ?_, handle⟩
      rw [find?_insert_of_new unknown]
      exact (if_neg elsewhere).trans found

end Store.Guarded

namespace Machine

/-- After an acquisition the guards that it handed out count with those before it. -/
theorem Acquired.guarded {host : Host World Driver Probe Page} {m : Machine World Driver Probe Page}
    {live : List Guard} {gfn : Gfn} {holder : Holder} {outcome : Outcome Lease} {cache : Cache Driver Probe Page}
    (acquired : m.Acquired host gfn holder outcome cache) (indexed : m.cache.store.Indexed)
    (guarded : m.cache.store.Guarded live) :
    cache.store.Guarded (outcome.guards gfn holder ++ live) := by
  cases acquired with
  | failed fails roomy =>
    have none : outcome.guards gfn holder = [] := by cases fails <;> cases holder <;> rfl
    obtain ⟨gfns, rfl, free⟩ := roomy
    rw [none]
    exact guarded.removeAll free
  | touched found _ _ =>
    have none : Outcome.guards gfn holder (.broken .additionOverflow) = [] := by cases holder <;> rfl
    rw [none]
    refine guarded.change fun e again => ?_
    cases Option.some.inj (found.symm.trans again)
    exact ⟨rfl, rfl⟩
  | @pinned e pinned token ticked found _ room =>
    cases holder with
    | handle =>
      obtain ⟨refs, _, rfl⟩ := Entry.pin?_handle room
      refine guarded.change fun e again => ?_
      cases Option.some.inj (found.symm.trans again)
      exact ⟨rfl, rfl⟩
    | guard =>
      obtain ⟨guards, more, rfl⟩ := Entry.pin?_guard room
      exact guarded.take (g := ⟨gfn, e.handle, _⟩) found rfl rfl more
  | placed answers _ unknown =>
    obtain ⟨gfns, roomy, free⟩ := answers.shrinks indexed
    have missing := answers.missing indexed
    rw [roomy] at unknown missing ⊢
    exact (guarded.removeAll free).insert unknown missing holder _
  | @aliased room page token other ticked answers _ known =>
    have none : Outcome.guards gfn holder (.broken .handleTaken) = [] := by cases holder <;> rfl
    obtain ⟨gfns, roomy, free⟩ := answers.shrinks indexed
    rw [none]
    rw [roomy] at known ⊢
    -- Guards go to their pages by number, so the redirected handle does not concern them.
    refine (guarded.removeAll free).of_same fun gfn' => ?_
    rw [Store.find?_insert_of_known known]

/-- Releasing a handle takes no guard away. -/
theorem release_keeps_guards (m : Machine World Driver Probe Page) (h : Handle) (gfn : Gfn) :
    ((m.release h).2.cache.store.find? gfn).map (fun e => (e.handle, e.guards)) =
      (m.cache.store.find? gfn).map fun e => (e.handle, e.guards) := by
  unfold release
  split
  · rfl
  · split
    · rfl
    · split
      · split <;> rfl
      · change ((m.cache.store.change _ _).find? gfn).map _ = _
        rw [Store.find?_change]
        split
        · rw [Option.map_map]; rfl
        · rfl

/-- Dropping a live guard works, and takes exactly its own reference. -/
theorem releaseGuard_guarded {m : Machine World Driver Probe Page} {live : List Guard} {g : Guard}
    (guarded : m.cache.store.Guarded (g :: live)) :
    (m.releaseGuard g.gfn).1 = .done () ∧ (m.releaseGuard g.gfn).2.cache.store.Guarded live := by
  obtain ⟨e, found, positive⟩ := guarded.guards_ne_zero
  have some : e.guards ≠ 0 := by rintro zero; simp [zero] at positive
  have less : (e.guards - 1).toNat + 1 = e.guards.toNat := by
    rw [toNat_sub_one positive]
    exact Nat.sub_add_cancel positive
  unfold releaseGuard
  simp only [found, if_neg some]
  exact ⟨trivial, guarded.drop found rfl less⟩

/-- Whatever callers and drivers do, every page counts its live guards. -/
theorem guarded_lasting (host : Host World Driver Probe Page) :
    Lasting host (fun _ _ => True) (fun m live => m.cache.store.Guarded live) (fun _ => True) where
  start := trivial
  unbound _ _ _ _ := .empty
  guards guarded same := guarded.perm same
  reorder guarded same := guarded.of_same fun gfn => congrArg _ (same.find?_eq gfn)
  retune guarded tuned := tuned.store ▸ guarded
  bind driver _ _ := by rw [bind_store]; exact .empty
  destroy _ _ := trivial
  acquire gfn holder indexed _ guarded := (acquire_acquired host indexed gfn holder).guarded indexed guarded
  release h _ guarded := guarded.of_same (release_keeps_guards _ h)
  releaseGuard _ guarded := (releaseGuard_guarded guarded).2

end Machine

namespace Session

/-- So it does in every session that a run leads to. -/
theorem Reach.guarded {host : Host World Driver Probe Page} {world : World}
    {past : List (Op World Driver Probe × Reply)}
    {allowed : Session World Driver Probe Page → Op World Driver Probe → Prop} {s : Session World Driver Probe Page}
    (reach : Reach host allowed world past s) :
    s.Sustains (fun m live => m.cache.store.Guarded live) (fun _ => True) :=
  (Machine.guarded_lasting host).always reach

theorem Reach.indexed {host : Host World Driver Probe Page} {world : World}
    {past : List (Op World Driver Probe × Reply)}
    {allowed : Session World Driver Probe Page → Op World Driver Probe → Prop} {s : Session World Driver Probe Page}
    {cache : Cache Driver Probe Page} (reach : Reach host allowed world past s) (present : s.cache = some cache) :
    cache.store.Indexed := (sustains_of_cache reach.guarded present).1

/-- The page of a live guard is cached, under the handle of the guard. -/
theorem Reach.guard_cached {host : Host World Driver Probe Page} {world : World}
    {past : List (Op World Driver Probe × Reply)}
    {allowed : Session World Driver Probe Page → Op World Driver Probe → Prop} {s : Session World Driver Probe Page}
    {name : String} {g : Guard} (reach : Reach host allowed world past s) (taken : s.guards.find? name = some g) :
    ∃ e, s.cached? g.gfn = some e ∧ e.handle = g.handle := by
  have held := reach.guarded
  have member : g ∈ s.guards.values := Index.mem_values.mpr ⟨name, taken⟩
  cases present : s.cache with
  | none =>
    simp only [Sustains, present] at held
    rw [held.1] at member
    cases member
  | some cache =>
    obtain ⟨e, found, handle⟩ := (sustains_of_cache held present).2.cached g member
    exact ⟨e, cached?_eq_some.mpr ⟨cache, present, found⟩, handle⟩

end Session

end ForeignPages
