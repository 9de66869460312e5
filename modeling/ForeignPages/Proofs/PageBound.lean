import ForeignPages.Proofs.GuardCount
import ForeignPages.Proofs.PageGrowth
import ForeignPages.Proofs.ReferenceBalance
import ForeignPages.Proofs.Shelf

namespace ForeignPages

variable {World Driver Probe Page : Type} {host : Host World Driver Probe Page}

namespace Session

/-- The pages that somebody holds. -/
def held (s : Session World Driver Probe Page) : Nat := s.cache.elim 0 Cache.held

end Session

namespace Moment

/-- The limit in effect when a page is acquired that is not cached. -/
def missed? (t : Moment World Driver Probe Page) : Option Nat :=
  match t.session.cache, t.op.acquires? with
  | some cache, some (gfn, _) => if cache.contains gfn then none else some cache.limit
  | _, _ => none

/-- How many pages are held as soon as a page is acquired. An older guard of the same name is dropped
only then. -/
def heldAfter (host : Host World Driver Probe Page) (t : Moment World Driver Probe Page) : Nat :=
  match t.session.cache, t.op.acquires? with
  | some cache, some (gfn, holder) => ((t.session.machine cache).acquire host gfn holder).2.cache.held
  | _, _ => 0

def held (host : Host World Driver Probe Page) (t : Moment World Driver Probe Page) : Nat :=
  max t.session.held (t.heldAfter host)

end Moment

/-- The largest limit under which a page was acquired that was not cached. -/
def largestLimit (moments : List (Moment World Driver Probe Page)) : Nat :=
  (moments.filterMap Moment.missed?).foldr max 0

/-- The largest number of pages that were held at the same time. -/
def mostHeld (host : Host World Driver Probe Page) (moments : List (Moment World Driver Probe Page))
    (s : Session World Driver Probe Page) : Nat :=
  max s.held ((moments.map (Moment.held host)).foldr max 0)

theorem le_foldr_max {numbers : List Nat} {n : Nat} (member : n ∈ numbers) : n ≤ numbers.foldr max 0 := by
  induction member with
  | head rest => exact Nat.le_max_left _ _
  | tail m _ ih => exact Nat.le_trans ih (Nat.le_max_right _ _)

/-- A number of pages that history accounts for: as many were allowed when a page was mapped, or as many
were held. -/
inductive Explained (host : Host World Driver Probe Page) (moments : List (Moment World Driver Probe Page)) :
    Nat → Prop
  | empty : Explained host moments 0
  | allowed {n limit : Nat} {gfn : Gfn} {t : Moment World Driver Probe Page} : t ∈ moments →
      t.missed? = some limit → t.maps host gfn = true → n ≤ limit → Explained host moments n
  | held {n : Nat} {t : Moment World Driver Probe Page} : t ∈ moments → n ≤ t.held host → Explained host moments n

namespace Explained

/-- A smaller number is explained by whatever explains a larger one. -/
theorem mono {moments : List (Moment World Driver Probe Page)} {n k : Nat} (explained : Explained host moments n)
    (fewer : k ≤ n) : Explained host moments k := by
  cases explained with
  | empty =>
    rw [Nat.le_zero.mp fewer]
    exact .empty
  | allowed member missed maps fits => exact .allowed member missed maps (Nat.le_trans fewer fits)
  | held member some => exact .held member (Nat.le_trans fewer some)

theorem cons {moments : List (Moment World Driver Probe Page)} {n : Nat} (explained : Explained host moments n)
    (t : Moment World Driver Probe Page) :
    Explained host (t :: moments) n := by
  cases explained with
  | empty => exact .empty
  | allowed member missed maps fits => exact .allowed (List.mem_cons_of_mem _ member) missed maps fits
  | held member some => exact .held (List.mem_cons_of_mem _ member) some

/-- Whatever explains a number bounds it. -/
theorem le_max {moments : List (Moment World Driver Probe Page)} {n : Nat} (explained : Explained host moments n)
    (s : Session World Driver Probe Page) :
    n ≤ max (largestLimit moments) (mostHeld host moments s) := by
  cases explained with
  | empty => exact Nat.zero_le _
  | @allowed n limit gfn t member missed maps fits =>
    have below : limit ≤ largestLimit moments := le_foldr_max (List.mem_filterMap.mpr ⟨t, member, missed⟩)
    exact Nat.le_trans (Nat.le_trans fits below) (Nat.le_max_left _ _)
  | @held n t member some =>
    have below : t.held host ≤ (moments.map (Moment.held host)).foldr max 0 :=
      le_foldr_max (List.mem_map_of_mem member)
    have most : t.held host ≤ mostHeld host moments s := Nat.le_trans below (Nat.le_max_right _ _)
    exact Nat.le_trans (Nat.le_trans some most) (Nat.le_max_right _ _)

end Explained

namespace Session

/-- Only an acquisition brings a page, and it brings one at most. -/
theorem Effect.length_le {s : Session World Driver Probe Page} {op : Op World Driver Probe} {reply : Reply}
    {d : Cache Driver Probe Page} (effect : s.Effect host op reply (some d))
    (indexed : ∀ cache, s.cache = some cache → cache.store.Indexed)
    (large : ∀ cache, s.cache = some cache → minLimit ≤ cache.limit) :
    d.store.entries.length = 0 ∨
      ∃ cache, s.cache = some cache ∧ (d.store.entries.length ≤ cache.store.entries.length ∨
        ∃ gfn holder, op.acquires? = some (gfn, holder) ∧
          (s.machine cache).Grows gfn ((s.machine cache).acquire host gfn holder).2.cache ∧
          ((s.machine cache).acquire host gfn holder).2.cache.Unguards d) := by
  cases effect with
  | emptied _ empty _ =>
    refine .inl ?_
    rw [empty]
    rfl
  | settled present _ _ store _ => exact .inr ⟨_, present, .inl (Nat.le_of_eq (by rw [store]))⟩
  | unguarded present _ _ unguards => exact .inr ⟨_, present, .inl (Nat.le_of_eq unguards.recounts.length_eq)⟩
  | @released c h present _ =>
    have same := ((s.machine c).release_recounts h).length_eq
    exact .inr ⟨c, present, .inl (Nat.le_of_eq same)⟩
  | @acquired c d gfn holder present asks unguards =>
    refine .inr ⟨c, present, ?_⟩
    have acquired := Machine.acquire_acquired host (m := s.machine c) (indexed c present) gfn holder
    have fits : 2 ≤ c.limit := Nat.le_trans (by decide) (large c present)
    rcases acquired.length_le (indexed c present) fits with fewer | grows
    · exact .inl (Nat.le_trans (Nat.le_of_eq unguards.recounts.length_eq) fewer)
    · exact .inr ⟨gfn, holder, asks, grows, unguards⟩

theorem step_cache_of_acquires {s : Session World Driver Probe Page} {op : Op World Driver Probe}
    (host : Host World Driver Probe Page) {cache : Cache Driver Probe Page} {asked : Gfn × Holder}
    (present : s.cache = some cache) (asks : op.acquires? = some asked) :
    ∃ after, (s.step host op).2.cache = some after := by
  have lasts : op.ends = false := by
    cases op with
    | acquire | get => rfl
    | _ => cases asks
  exact cache_of_lasting host present lasts

/-- No operation takes the limit below the smallest one that is accepted. -/
theorem Effect.minLimit_le {s : Session World Driver Probe Page} {op : Op World Driver Probe} {reply : Reply}
    {d : Cache Driver Probe Page} (effect : s.Effect host op reply (some d))
    (indexed : ∀ cache, s.cache = some cache → cache.store.Indexed)
    (large : ∀ cache, s.cache = some cache → minLimit ≤ cache.limit) : minLimit ≤ d.limit := by
  cases effect with
  | emptied _ _ limit =>
    rcases limit with initial | ⟨old, present, same⟩
    · rw [initial]
      decide
    · rw [same]
      exact large old present
  | settled present _ _ _ limit =>
    rcases limit with same | large'
    · rw [same]
      exact large _ present
    · exact large'
  | unguarded present _ _ unguards =>
    rw [unguards.recounts.limit_eq]
    exact large _ present
  | @released c h present _ =>
    have above := large c present
    rwa [((s.machine c).release_recounts h).limit_eq]
  | @acquired c d gfn holder present _ unguards =>
    have acquired := Machine.acquire_acquired host (m := s.machine c) (indexed c present) gfn holder
    obtain ⟨_, _, same⟩ := acquired.settings (indexed c present)
    rw [unguards.recounts.limit_eq, same]
    exact large c present

end Session

/-- Smaller limits are refused, so a cleanup evicts at least one page if it can. -/
theorem Session.Reach.minLimit_le {world : World} {past : List (Op World Driver Probe × Reply)}
    {s : Session World Driver Probe Page} {allowed : Session World Driver Probe Page → Op World Driver Probe → Prop}
    (reach : Session.Reach host allowed world past s) {cache : Cache Driver Probe Page}
    (present : s.cache = some cache) : minLimit ≤ cache.limit := by
  induction reach generalizing cache with
  | start => cases present
  | reorder _ before _ ih =>
    have above := ih before
    cases present
    exact above
  | @step past s op reach _ ih =>
    have effect := s.step_effect host op
    rw [present] at effect
    exact effect.minLimit_le (fun _ => reach.indexed) fun _ => ih

/-- An operation that leaves more pages behind has acquired one more of them. -/
theorem Session.Reach.length_le {world : World} {past : List (Op World Driver Probe × Reply)}
    {s : Session World Driver Probe Page} {allowed : Session World Driver Probe Page → Op World Driver Probe → Prop}
    (reach : Session.Reach host allowed world past s) {op : Op World Driver Probe} {d : Cache Driver Probe Page}
    (next : (s.step host op).2.cache = some d) : d.store.entries.length = 0 ∨
      ∃ cache, s.cache = some cache ∧ (d.store.entries.length ≤ cache.store.entries.length ∨
        ∃ gfn holder, op.acquires? = some (gfn, holder) ∧
          (s.machine cache).Grows gfn ((s.machine cache).acquire host gfn holder).2.cache ∧
          ((s.machine cache).acquire host gfn holder).2.cache.Unguards d) := by
  have effect := s.step_effect host op
  rw [next] at effect
  exact effect.length_le (fun _ => reach.indexed) fun _ => reach.minLimit_le

/-- One page more is either within the limit under which it was mapped, or one of the held ones. -/
theorem Explained.of_grows {s : Session World Driver Probe Page} {moments : List (Moment World Driver Probe Page)}
    {op : Op World Driver Probe} {c d : Cache Driver Probe Page} {gfn : Gfn} {holder : Holder}
    (before : s.cache = some c) (next : (s.step host op).2.cache = some d) (asks : op.acquires? = some (gfn, holder))
    (grows : (s.machine c).Grows gfn ((s.machine c).acquire host gfn holder).2.cache)
    (unguards : ((s.machine c).acquire host gfn holder).2.cache.Unguards d) :
    Explained host (⟨s, op⟩ :: moments) d.store.entries.length := by
  have length := grows.length
  rw [← unguards.recounts.length_eq] at length
  rcases grows.needed with below | ⟨_, full⟩
  · have missed : Moment.missed? ⟨s, op⟩ = some c.limit := by
      have absent : c.contains gfn = false := by
        rw [Cache.contains, show c.store.find? gfn = none from grows.missing]
        rfl
      simp only [Moment.missed?, before, asks, absent, Bool.false_eq_true, if_false]
    obtain ⟨e, found⟩ := grows.found
    obtain ⟨guards, stored⟩ := unguards.find?_of_found found
    have maps : Moment.maps host gfn ⟨s, op⟩ = true := by
      have none : s.cached? gfn = none := by
        rw [Session.cached?, before]
        exact grows.missing
      have some : (s.step host op).2.cached? gfn = some { e with guards } :=
        Session.cached?_eq_some.mpr ⟨d, next, stored⟩
      rw [Moment.maps, Moment.after, none, some]
      rfl
    exact .allowed List.mem_cons_self missed maps (Nat.le_trans length below)
  · have held : Moment.heldAfter host ⟨s, op⟩ = d.store.entries.length := by
      simp only [Moment.heldAfter, before, asks]
      rw [full, unguards.recounts.length_eq]
    refine .held List.mem_cons_self ?_
    rw [← held]
    exact Nat.le_max_right _ _

/-- Every number of pages has its reason in the history: a limit, or pages that were held. -/
theorem Session.Course.explained {world : World} {past : List (Op World Driver Probe × Reply)}
    {first s : Session World Driver Probe Page} {moments : List (Moment World Driver Probe Page)}
    (reach : Session.Reach host (fun _ _ => True) world past first) (fresh : first.Fresh)
    (course : Session.Course host (fun _ _ => True) first moments s) {cache : Cache Driver Probe Page}
    (present : s.cache = some cache) : Explained host moments cache.store.entries.length := by
  induction course generalizing cache with
  | start =>
    have nothing : cache.store.entries = [] := by
      refine List.eq_nil_iff_forall_not_mem.mpr fun e member => ?_
      obtain ⟨gfn, found⟩ := Store.mem_entries.mp member
      cases (fresh gfn).symm.trans (cached?_eq_some.mpr ⟨cache, present, found⟩)
    rw [nothing]
    exact .empty
  | reorder _ before same ih =>
    cases present
    exact (ih before).mono (Nat.le_of_eq same.entries_perm.length_eq.symm)
  | @step moments s op course _ ih =>
    have reached := reach.followed course
    rcases reached.length_le present with empty | ⟨c, before, fewer | ⟨gfn, holder, asks, grows, unguards⟩⟩
    · rw [empty]
      exact .empty
    · exact ((ih before).mono fewer).cons ⟨s, op⟩
    · exact .of_grows before present asks grows unguards

/-- How the pages of a cache are bounded by what happened since the first of the moments. -/
structure Session.Bounded (host : Host World Driver Probe Page) (moments : List (Moment World Driver Probe Page))
    (s : Session World Driver Probe Page) : Prop where
  bounded : ∀ cache, s.cache = some cache →
    ∃ n, cache.store.size? = .ok n ∧ n ≤ max (largestLimit moments) (mostHeld host moments s)
  /-- More pages than were allowed whenever one was mapped were held at the same time. -/
  exceeded : ∀ cache n, s.cache = some cache → cache.store.size? = .ok n →
    (∀ t ∈ moments, ∀ gfn limit, t.missed? = some limit → t.maps host gfn = true → limit < n) →
    n = 0 ∨ ∃ t ∈ moments, n ≤ t.held host
  /-- At the limit, an acquisition of a page that is not cached leaves no more pages than before, if there
  is one that nobody holds. -/
  full : ∀ op gfn holder cache n other e, op.acquires? = some (gfn, holder) → s.cache = some cache →
    s.cached? gfn = none → cache.store.size? = .ok n → cache.limit ≤ n → s.cached? other = some e →
    e.held = false → ∃ after k, (s.step host op).2.cache = some after ∧ after.store.size? = .ok k ∧ k ≤ n

/-- Past the limit a cache does not grow while there is a page that could go. -/
theorem Session.Reach.length_of_full {world : World} {past : List (Op World Driver Probe × Reply)}
    {s : Session World Driver Probe Page} {allowed : Session World Driver Probe Page → Op World Driver Probe → Prop}
    (reach : Session.Reach host allowed world past s) {op : Op World Driver Probe} {gfn other : Gfn} {holder : Holder}
    {cache : Cache Driver Probe Page} {e : Entry Page} (asks : op.acquires? = some (gfn, holder))
    (present : s.cache = some cache) (reaches : cache.limit ≤ cache.store.entries.length)
    (found : s.cached? other = some e) (free : e.held = false) :
    ∃ after, (s.step host op).2.cache = some after ∧ after.store.entries.length ≤ cache.store.entries.length := by
  obtain ⟨after, next⟩ := step_cache_of_acquires host present asks
  refine ⟨after, next, ?_⟩
  rcases reach.length_le next with empty | ⟨c, before, fewer | ⟨_, _, _, grows, _⟩⟩
  · omega
  · cases before.symm.trans present
    exact fewer
  · cases before.symm.trans present
    rcases grows.needed with below | ⟨full, _⟩
    · exact absurd reaches (Nat.not_le.mpr below)
    · rw [cached?, present] at found
      have held := full e (Store.mem_entries.mpr ⟨other, found⟩)
      cases held.symm.trans free

/-- In every session of every run, whatever its driver does and however its limits change, the pages are
bounded since the last time when there was none. -/
theorem Session.Course.page_bound {world : World} {past : List (Op World Driver Probe × Reply)}
    {first s : Session World Driver Probe Page} {moments : List (Moment World Driver Probe Page)}
    (reach : Session.Reach host (fun _ _ => True) world past first) (fresh : first.Fresh)
    (course : Session.Course host (fun _ _ => True) first moments s) :
    s.Bounded host moments := by
  have reached := reach.followed course
  refine ⟨?_, ?_, ?_⟩
  · intro cache present
    have explained := course.explained reach fresh present
    exact ⟨cache.store.entries.length, (reached.indexed present).size?_eq, explained.le_max s⟩
  · intro cache n present size more
    have same := Except.ok.inj ((reached.indexed present).size?_eq.symm.trans size)
    have explained := course.explained reach fresh present
    rw [same] at explained
    cases explained with
    | empty => exact .inl rfl
    | allowed member missed maps fits => exact absurd fits (Nat.not_le.mpr (more _ member _ _ missed maps))
    | held member some => exact .inr ⟨_, member, some⟩
  · intro op gfn holder cache n other e asks present missing size reaches found free
    cases (reached.indexed present).size?_eq.symm.trans size
    obtain ⟨after, next, fewer⟩ := reached.length_of_full asks present reaches found free
    have further := reached.step op trivial
    exact ⟨after, after.store.entries.length, next, (further.indexed next).size?_eq, fewer⟩

/-- A run that fills a cache, lowers its limit, and acquires more pages while all are held. The last of
them takes the name of a guard that is dropped only afterwards. -/
def outgrown : List (Op Nat Unit Unit) :=
  .setLimit 51 :: (List.range 51).map (fun n => .acquire ⟨UInt64.ofNat n⟩) ++
    [.setLimit 50, .get ⟨51⟩ "guard", .release (shelf.address 0), .acquire ⟨52⟩, .get ⟨53⟩ "guard"]

/-- A session with a cache whose driver has just been attached. -/
def shelved : Session Nat Unit Unit Nat :=
  (((Session.start 0).run shelf [.create none]).step shelf (.bind ())).2

/-- The pages that are held exceed the largest limit, and the cache has as many. -/
theorem page_bound_outgrown :
    largestLimit (shelved.moments shelf outgrown) = 51 ∧
    mostHeld shelf (shelved.moments shelf outgrown) (shelved.run shelf outgrown) = 53 ∧
    (shelved.run shelf outgrown).cache.map (·.store.size?.toOption) = some (some 53) ∧
    (shelved.run shelf outgrown).Bounded shelf (shelved.moments shelf outgrown) := by
  have begun : Session.Reach shelf (fun _ _ => True) 0 [] (.start 0) := .start
  have free : (Session.start 0).Permits shelf (fun _ _ => True) [.create none, .bind ()] := ⟨trivial, trivial, trivial⟩
  obtain ⟨_, reach⟩ := begun.run free
  have fresh : shelved.Fresh := Session.fresh_of_bind (by decide +kernel)
  have permitted : shelved.Permits shelf (fun _ _ => True) outgrown := by decide +kernel
  refine ⟨by decide +kernel, by decide +kernel, by decide +kernel, ?_⟩
  exact Session.Course.page_bound reach fresh permitted.course

end ForeignPages
