import ForeignPages.Proofs.Visits
import ForeignPages.Proofs.Welcome

namespace ForeignPages

/-- Division, rounded up. -/
def ceilDiv (a b : Nat) : Nat := (a + b - 1) / b

theorem le_ceilDiv_mul (a : Nat) {b : Nat} (positive : 0 < b) : a ≤ ceilDiv a b * b := by
  have parts := Nat.div_add_mod' (a + b - 1) b
  have rest := Nat.mod_lt (a + b - 1) positive
  unfold ceilDiv
  omega

theorem sawtooth_of_le {limit len : Nat} (full : limit ≤ len) : sawtooth limit len = len - limit / 2 + 1 :=
  if_neg (Nat.not_lt.mpr full)

/-- No visit brings the pages above a bound that they were within, if the limit is within it too. -/
theorem sawtooth_le_of_le {limit len bound : Nat} (large : 2 ≤ limit) (allowed : limit ≤ bound)
    (within : len ≤ bound) :
    sawtooth limit len ≤ bound := by
  unfold sawtooth
  split <;> omega

theorem half_lt_sawtooth_of_le {limit len : Nat} (full : limit ≤ len) : (limit + 1) / 2 + 1 ≤ sawtooth limit len := by
  rw [sawtooth_of_le full]
  omega

theorem half_lt_sawtooth {limit len : Nat} (above : (limit + 1) / 2 + 1 ≤ len) :
    (limit + 1) / 2 + 1 ≤ sawtooth limit len := by
  unfold sawtooth
  split <;> omega

/-- As long as the limit is reached, every visit brings the number of pages down by the same amount. -/
theorem descends {limit n : Nat} (len : Nat → Nat) (large : 2 ≤ limit)
    (steps : ∀ i < n, len (i + 1) = sawtooth limit (len i)) {k : Nat} (within : k ≤ n) (full : ∀ i < k, limit ≤ len i) :
    len k + k * (limit / 2 - 1) = len 0 := by
  induction k with
  | zero => simp
  | succ k ih =>
    have before := ih (by omega) fun i earlier => full i (by omega)
    have reached := full k (by omega)
    rw [steps k (by omega), sawtooth_of_le reached, Nat.succ_mul]
    omega

/-- From above, the sawtooth comes below the limit within a number of visits that the excess tells. -/
theorem recovers_of_steps {limit n : Nat} (len : Nat → Nat) (large : 4 ≤ limit)
    (steps : ∀ i < n, len (i + 1) = sawtooth limit (len i)) (within : ceilDiv (len 0 - limit + 1) (limit / 2 - 1) ≤ n) :
    ∃ k ≤ ceilDiv (len 0 - limit + 1) (limit / 2 - 1), len k < limit := by
  refine Classical.byContradiction fun never => ?_
  have full : ∀ i ≤ ceilDiv (len 0 - limit + 1) (limit / 2 - 1), limit ≤ len i :=
    fun i early => Nat.not_lt.mp fun below => never ⟨i, early, below⟩
  have down := descends len (by omega) steps within fun i earlier => full i (Nat.le_of_lt earlier)
  have enough := le_ceilDiv_mul (len 0 - limit + 1) (show 0 < limit / 2 - 1 by omega)
  have last := full _ (Nat.le_refl _)
  omega

/-- What one visit keeps, all later ones keep. -/
theorem keeps_of_steps {limit n : Nat} (len : Nat → Nat) (P : Nat → Prop)
    (steps : ∀ i < n, len (i + 1) = sawtooth limit (len i)) (keeps : ∀ l, P l → P (sawtooth limit l)) {i j : Nat}
    (later : i ≤ j) (within : j ≤ n) (start : P (len i)) :
    P (len j) := by
  induction later with
  | refl => exact start
  | @step j _ ih =>
    rw [steps j (by omega)]
    exact keeps _ (ih (by omega))

variable {World Driver Probe Page : Type} {host : Host World Driver Probe Page}

/-- The number of pages in the cache of a session. -/
def Session.len (s : Session World Driver Probe Page) : Nat := s.cache.elim 0 (·.store.entries.length)

/-- How the number of pages goes from visit to visit, under one limit. The visit after a session in which the limit
is reached is one with a cleanup. -/
structure Session.Churns (path : Nat → Session World Driver Probe Page) (n limit : Nat) : Prop where
  large : minLimit ≤ limit
  reports : ∀ i ≤ n, ∃ cache, (path i).cache = some cache ∧ cache.limit = limit ∧ cache.held = 0 ∧
    cache.store.size? = .ok (path i).len
  step : ∀ i < n, (path (i + 1)).len =
    if (path i).len < limit then (path i).len + 1 else (path i).len - limit / 2 + 1
  cleanups : ∀ i < n, ∃ acts, (path (i + 1)).journal = acts ++ (path i).journal ∧
    (tellings acts).filter Event.evicts =
      if limit ≤ (path i).len then [.cleanedUp (path i).len (path i).len (limit / 2)] else []
  recovers : ceilDiv ((path 0).len - limit + 1) (limit / 2 - 1) ≤ n →
    ∃ k ≤ ceilDiv ((path 0).len - limit + 1) (limit / 2 - 1), (path k).len < limit
  /-- Once below the limit, the cache never exceeds it again. -/
  within : ∀ i j, i ≤ j → j ≤ n → (path i).len < limit → (path j).len ≤ limit
  /-- From the first cleanup on. -/
  cleaned : ∀ i j, i < j → j ≤ n → limit ≤ (path i).len →
    (limit + 1) / 2 + 1 ≤ (path j).len ∧ (path j).len ≤ max (path 0).len limit
  /-- Once below the limit after a cleanup. -/
  settled : ∀ i j k, i < j → j ≤ k → k ≤ n → limit ≤ (path i).len → (path j).len < limit →
    (limit + 1) / 2 + 1 ≤ (path k).len ∧ (path k).len ≤ limit

/-- Every session on the way can be reached, under the same limit, and nobody holds a page in it. -/
theorem Session.Reach.visited {world : World} {past : List (Op World Driver Probe × Reply)} {n : Nat}
    {cache : Cache Driver Probe Page} {path : Nat → Session World Driver Probe Page}
    (reach : Session.Reach host (fun _ _ => True) world past (path 0)) (present : (path 0).cache = some cache)
    (idle : cache.held = 0) (visits : ∀ i < n, (path i).Visits host (path (i + 1))) {i : Nat} (within : i ≤ n) :
    ∃ past c, Session.Reach host (fun _ _ => True) world past (path i) ∧ (path i).cache = some c ∧
      c.limit = cache.limit ∧ c.held = 0 := by
  induction i with
  | zero => exact ⟨past, cache, reach, present, rfl, idle⟩
  | succ i ih =>
    obtain ⟨_, c, reached, there, limit, none⟩ := ih (by omega)
    obtain ⟨_, further⟩ := (visits i within).reach reached
    obtain ⟨after, left, limit', none', _⟩ := ((visits i within).visited reached there none).left
    exact ⟨_, after, further, left, limit'.trans limit, none'⟩

/-- Wherever a run has led a cache that nobody holds a page of, also far above its limit: as pages come and go
one at a time, it is back below the limit soon, and stays between half of it and the limit. -/
theorem Session.Reach.churns {world : World} {past : List (Op World Driver Probe × Reply)} {n : Nat}
    {cache : Cache Driver Probe Page} {path : Nat → Session World Driver Probe Page}
    (reach : Session.Reach host (fun _ _ => True) world past (path 0)) (present : (path 0).cache = some cache)
    (idle : cache.held = 0) (visits : ∀ i < n, (path i).Visits host (path (i + 1))) :
    Session.Churns path n cache.limit := by
  have large : 50 ≤ cache.limit := reach.minLimit_le present
  have visited : ∀ i < n, ∃ c, (path i).cache = some c ∧ c.limit = cache.limit ∧ (path i).Visited (path (i + 1)) c := by
    intro i within
    obtain ⟨_, c, reached, there, limit, none⟩ := reach.visited present idle visits (Nat.le_of_lt within)
    exact ⟨c, there, limit, (visits i within).visited reached there none⟩
  have steps : ∀ i < n, (path (i + 1)).len = sawtooth cache.limit (path i).len := by
    intro i within
    obtain ⟨c, there, limit, visit⟩ := visited i within
    obtain ⟨after, left, _, _, length⟩ := visit.left
    rw [len, left, len, there, ← limit]
    exact length
  have upper : ∀ j ≤ n, (path j).len ≤ max (path 0).len cache.limit := by
    intro j within
    have kept : ∀ l, l ≤ max (path 0).len cache.limit → sawtooth cache.limit l ≤ max (path 0).len cache.limit :=
      fun _ => sawtooth_le_of_le (by omega) (Nat.le_max_right _ _)
    exact keeps_of_steps (fun i => (path i).len) _ steps kept (Nat.zero_le j) within (Nat.le_max_left _ _)
  -- From the first full cache on, no step leaves half of the limit or less.
  have cleaned : ∀ i j, i < j → j ≤ n → cache.limit ≤ (path i).len → (cache.limit + 1) / 2 + 1 ≤ (path j).len := by
    intro i j later within full
    have first : (cache.limit + 1) / 2 + 1 ≤ (path (i + 1)).len := by
      rw [steps i (by omega)]
      exact half_lt_sawtooth_of_le full
    exact keeps_of_steps (fun i => (path i).len) (_ ≤ ·) steps (fun _ => half_lt_sawtooth) later within first
  have below : ∀ i j, i ≤ j → j ≤ n → (path i).len < cache.limit → (path j).len ≤ cache.limit :=
    fun i j later within start => keeps_of_steps (fun i => (path i).len) (· ≤ cache.limit) steps
      (fun _ => sawtooth_le_of_le (by omega) (Nat.le_refl _)) later within (Nat.le_of_lt start)
  have recovers := recovers_of_steps (fun i => (path i).len) (show 4 ≤ cache.limit by omega) steps
  refine ⟨large, fun i within => ?_, steps, fun i within => ?_, recovers, below,
    fun i j later within full => ⟨cleaned i j later within full, upper j within⟩,
    fun i j k later last within full start => ⟨cleaned i k (by omega) within full, below j k last within start⟩⟩
  · obtain ⟨_, c, reached, there, limit, none⟩ := reach.visited present idle visits within
    refine ⟨c, there, limit, none, ?_⟩
    rw [(reached.indexed there).size?_eq, len, there]
    rfl
  · obtain ⟨c, there, limit, visit⟩ := visited i within
    have told := visit.told
    rw [limit] at told
    rw [len, there]
    exact told

/-- A run that fills a cache with pages that nobody holds, and lowers its limit. -/
def overfilled : List (Op Nat Unit Unit) :=
  [.create (some ()), .setLimit 51] ++
    (List.range 51).flatMap (fun n => [.acquire ⟨UInt64.ofNat n⟩, .release (shelf.address n)]) ++ [.setLimit 50]

/-- A page that lies apart from the cached ones comes in. -/
theorem acquire_of_shelf {m : Machine Nat Unit Unit Nat} {gfn : Gfn} (indexed : m.cache.store.Indexed)
    (clocked : m.cache.Clocked) (idle : m.cache.held = 0) (bound : m.cache.driver = some ())
    (missing : m.cache.store.find? gfn = none) (uncounted : m.cache.counting = false)
    (runs : m.cache.clock.toNat + 1 < 2 ^ 64) (apart : m.cache.store.gfnOf? (shelf.address m.world) = none)
    (holder : Holder) : ∃ lease, (m.acquire shelf gfn holder).1 = .done lease := by
  obtain ⟨evicted, gives⟩ := clocked.givesUp indexed
  have small : ∀ other e, m.cache.store.find? other = some e → e.Small := by
    intro other e found
    obtain ⟨refs, guards⟩ :=
      Entry.references?_eq_zero.mp (Entry.free_of_not_held (Cache.held_eq_zero.mp idle other e found))
    rw [Entry.Small, refs, guards]
    decide
  obtain ⟨room, made⟩ := Machine.makeRoom_of_small shelf indexed small
  have unknown : ∀ e ∈ m.cache.store.entries, e.handle ≠ shelf.address m.world := by
    intro e cached same
    obtain ⟨other, found⟩ := Store.mem_entries.mp cached
    have known := (indexed.known _).mpr ⟨other, e, found, same⟩
    rw [apart] at known
    cases known
  have counts : m.countMapping?.isSome := by
    rw [Machine.countMapping?, uncounted]
    rfl
  have welcomes := welcomes_of_shelf unknown evicted gfn
  exact ⟨_, Machine.acquire_of_welcome indexed bound missing gives made welcomes runs counts⟩

/-- One page above the limit, the first visit evicts half of it. -/
theorem churns_overfilled : ∃ path : Nat → Session Nat Unit Unit Nat,
    path 0 = Session.run shelf (.start 0) overfilled ∧ (path 0).len = 51 ∧ (path 1).len = 27 ∧
      Session.Churns path 1 50 := by
  have begun : Session.Reach shelf (fun _ _ => True) 0 [] (.start 0) := .start
  have permitted : (Session.start 0).Permits shelf (fun _ _ => True) overfilled := by decide +kernel
  obtain ⟨_, reach⟩ := begun.run permitted
  obtain ⟨length, world, state⟩ : (Session.run shelf (.start 0) overfilled).len = 51 ∧
      (Session.run shelf (.start 0) overfilled).world = 51 ∧
      (Session.run shelf (.start 0) overfilled).cache.any (fun c =>
        decide (c.limit = 50 ∧ c.held = 0 ∧ c.driver = some () ∧ c.counting = false ∧ c.clock.toNat + 1 < 2 ^ 64) &&
          (c.store.find? ⟨51⟩).isNone && (c.store.gfnOf? (shelf.address 51)).isNone) = true := by decide +kernel
  generalize Session.run shelf (.start 0) overfilled = s at reach length world state
  cases present : s.cache with
  | none => simp only [present, Option.any_none, Bool.false_eq_true] at state
  | some cache =>
    simp only [present, Option.any_some, Bool.and_eq_true, decide_eq_true_eq, Option.isNone_iff_eq_none] at state
    obtain ⟨⟨⟨limit, idle, bound, uncounted, runs⟩, missing⟩, apart⟩ := state
    have apart' : cache.store.gfnOf? (shelf.address s.world) = none := by rw [world]; exact apart
    obtain ⟨lease, done⟩ := acquire_of_shelf (m := s.machine cache) (reach.indexed present) (reach.clocked present)
      idle bound missing uncounted runs apart' .handle
    have reply : (s.step shelf (.acquire ⟨51⟩)).1 = .handle lease.handle := by
      simp only [Session.step, Session.onCache, present, done]
      rfl
    have uncached : s.cached? ⟨51⟩ = none := by
      rw [Session.cached?, present]
      exact missing
    have visit : s.Visits shelf ((s.step shelf (.acquire ⟨51⟩)).2.step shelf (.release lease.handle)).2 :=
      .handle uncached reply .start .start
    let path : Nat → Session Nat Unit Unit Nat := fun i =>
      if i = 0 then s else ((s.step shelf (.acquire ⟨51⟩)).2.step shelf (.release lease.handle)).2
    have visits : ∀ i < 1, (path i).Visits shelf (path (i + 1)) := fun i first => by
      rw [Nat.lt_one_iff.mp first]
      exact visit
    have churns : Session.Churns path 1 cache.limit := Session.Reach.churns reach present idle visits
    rw [limit] at churns
    refine ⟨path, rfl, length, ?_, churns⟩
    rw [churns.step 0 Nat.one_pos]
    rw [show (path 0).len = 51 from length]
    rfl

end ForeignPages
