import ForeignPages.Proofs.GuardCount

namespace ForeignPages

variable {World Driver Probe Page : Type} {host : Host World Driver Probe Page}

/-- The recency tokens of the pages are distinct, and the clock is past all of them. -/
structure Cache.Clocked (c : Cache Driver Probe Page) : Prop where
  past : ∀ gfn e, c.store.find? gfn = some e → e.lastUse.toNat < c.clock.toNat
  apart : ∀ gfn other e d, c.store.find? gfn = some e → c.store.find? other = some d → e.lastUse = d.lastUse →
    gfn = other

theorem Store.find?_change_of_found {s : Store Page} {gfn : Gfn} {e : Entry Page} (found : s.find? gfn = some e)
    (d : Entry Page) (other : Gfn) :
    (s.change gfn fun _ => d).find? other = if other = gfn then some d else s.find? other := by
  rw [Store.find?_change]
  split
  · next here => rw [here, found, Option.map_some]
  · rfl

namespace Cache.Clocked

/-- Every page was cached before with its token, and the clock has not been put back. -/
theorem of_older {c d : Cache Driver Probe Page} (clocked : c.Clocked) (clock : c.clock.toNat ≤ d.clock.toNat)
    (older : ∀ gfn e, d.store.find? gfn = some e → ∃ e', c.store.find? gfn = some e' ∧ e'.lastUse = e.lastUse) :
    d.Clocked where
  past gfn e found := by
    obtain ⟨e', before, same⟩ := older gfn e found
    exact same ▸ Nat.lt_of_lt_of_le (clocked.past gfn e' before) clock
  apart gfn other e f atGfn atOther same := by
    obtain ⟨e', before, sameE⟩ := older gfn e atGfn
    obtain ⟨f', before', sameF⟩ := older other f atOther
    exact clocked.apart gfn other e' f' before before' (sameE.trans (same.trans sameF.symm))

theorem shrinks {c d : Cache Driver Probe Page} (clocked : c.Clocked) (shrinks : c.Shrinks d) : d.Clocked := by
  refine clocked.of_older ?_ fun gfn e found => ⟨e, shrinks.found_before found, rfl⟩
  obtain ⟨_, rfl, _⟩ := shrinks
  exact Nat.le_refl _

theorem recounts {c d : Cache Driver Probe Page} (clocked : c.Clocked) (recounts : c.Recounts d) : d.Clocked := by
  refine clocked.of_older ?_ fun gfn e found => ?_
  · rcases recounts with rfl | ⟨_, _, rfl, _⟩ <;> exact Nat.le_refl _
  · rcases recounts.find?_eq gfn with same | ⟨e', _, _, before, after⟩
    · exact ⟨e, same ▸ found, rfl⟩
    · cases after.symm.trans found
      exact ⟨e', before, rfl⟩

/-- One page gets the token that the clock gives out. -/
theorem use {c d : Cache Driver Probe Page} {gfn : Gfn} {e : Entry Page} (clocked : c.Clocked)
    (given : d.clock.toNat = c.clock.toNat + 1) (token : e.lastUse = c.clock)
    (stored : ∀ other, d.store.find? other = if other = gfn then some e else c.store.find? other) : d.Clocked where
  past other f found := by
    rw [stored] at found
    split at found
    · cases found
      rw [token]
      omega
    · have before := clocked.past other f found
      omega
  apart first second f f' found found' same := by
    have later : ∀ {other f}, c.store.find? other = some f → f.lastUse ≠ e.lastUse := by
      intro other f before equal
      have past := clocked.past other f before
      rw [equal, token] at past
      exact Nat.lt_irrefl _ past
    rw [stored] at found found'
    split at found <;> split at found'
    · next here here' => exact here.trans here'.symm
    · cases found
      exact absurd same.symm (later found')
    · cases found'
      exact absurd same (later found)
    · exact clocked.apart first second f f' found found' same

end Cache.Clocked

namespace Machine

/-- A page that is acquired takes the next token, which nobody has yet. -/
theorem Acquired.clocked {m : Machine World Driver Probe Page} {gfn : Gfn} {holder : Holder} {outcome : Outcome Lease}
    {cache : Cache Driver Probe Page} (acquired : m.Acquired host gfn holder outcome cache)
    (indexed : m.cache.store.Indexed) (clocked : m.cache.Clocked) : cache.Clocked := by
  cases acquired with
  | failed _ roomy => exact clocked.shrinks roomy
  | @touched e _ _ found given _ =>
    obtain ⟨rfl, next, clock, rfl⟩ := Cache.tick?_eq_some given
    exact clocked.use (e := { e with lastUse := m.cache.clock }) clock rfl (Store.find?_change_of_found found _)
  | pinned found given room =>
    obtain ⟨rfl, next, clock, rfl⟩ := Cache.tick?_eq_some given
    exact clocked.use clock (Entry.pin?_keeps room).2.2.2 (Store.find?_change_of_found found _)
  | @placed room page _ _ _ answers given unknown =>
    obtain ⟨rfl, next, clock, rfl⟩ := Cache.tick?_eq_some given
    exact (clocked.shrinks (answers.shrinks indexed)).use clock rfl (Store.find?_insert_of_new unknown)
  | @aliased room page _ _ _ answers given known =>
    obtain ⟨rfl, next, clock, rfl⟩ := Cache.tick?_eq_some given
    refine (clocked.shrinks (answers.shrinks indexed)).of_older (clock ▸ Nat.le_succ _) fun other e found => ?_
    exact ⟨e, (Store.find?_insert_of_known known other).symm.trans found, rfl⟩

/-- Whatever drivers do, no two pages were used at the same time. -/
theorem clocked_lasting (host : Host World Driver Probe Page) :
    Lasting host (fun _ _ => True) (fun m _ => m.cache.Clocked) (fun _ => True) where
  start := trivial
  unbound _ _ _ _ := ⟨fun _ _ => nofun, fun _ _ _ _ => nofun⟩
  guards clocked _ := clocked
  reorder {m _ store} clocked same := by
    refine clocked.of_older (Nat.le_refl _) fun gfn e found => ⟨e, ?_, rfl⟩
    exact (same.find?_eq gfn).symm.trans found
  retune clocked tuned := by
    refine clocked.of_older (Nat.le_of_eq (congrArg UInt64.toNat tuned.clock.symm)) fun gfn e found => ⟨e, ?_, rfl⟩
    rwa [tuned.store] at found
  bind {m} driver _ _ := by
    have empty : ∀ gfn, (m.bind host driver).cache.store.find? gfn = none := by
      intro gfn
      rw [bind_store, Store.find?_empty]
    refine ⟨fun gfn e found => ?_, fun gfn _ e _ found _ _ => ?_⟩ <;> cases (empty gfn).symm.trans found
  destroy _ _ := trivial
  acquire gfn holder indexed _ clocked := (acquire_acquired host indexed gfn holder).clocked indexed clocked
  release h _ clocked := clocked.recounts (release_recounts _ h)
  releaseGuard _ clocked := clocked.recounts (releaseGuard_recounts _ _)

end Machine

/-- However the pages are gone through, their order of last use is the same. -/
theorem Session.Reach.clocked {allowed : Session World Driver Probe Page → Op World Driver Probe → Prop}
    {world : World} {past : List (Op World Driver Probe × Reply)} {s : Session World Driver Probe Page}
    {cache : Cache Driver Probe Page} (reach : Session.Reach host allowed world past s)
    (present : s.cache = some cache) : cache.Clocked :=
  (sustains_of_cache ((Machine.clocked_lasting host).always reach) present).2

end ForeignPages
