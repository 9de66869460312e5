import ForeignPages.Proofs.Evictions
import ForeignPages.Proofs.GuardMemory
import ForeignPages.Proofs.MomentActs
import ForeignPages.Proofs.PageBound

namespace ForeignPages

variable {World Driver Probe Page : Type} {host : Host World Driver Probe Page}

/-- The operation reaches only the memory of pages, or what lies outside of the cache. -/
def Op.looks : Op World Driver Probe → Bool
  | .read .. | .write .. | .readWord .. | .writeWord .. | .readHeader .. | .writeHeader .. | .outside _ => true
  | _ => false

/-- A page that was not cached is acquired, through its handle or by a guard, and given back. Meanwhile and
afterwards its memory may be accessed, and anything may happen outside. -/
inductive Session.Visits (host : Host World Driver Probe Page) (s u : Session World Driver Probe Page) : Prop
  | handle {gfn : Gfn} {h : Handle} {t : Session World Driver Probe Page}
      {moments later : List (Moment World Driver Probe Page)} : s.cached? gfn = none →
      (s.step host (.acquire gfn)).1 = .handle h →
      Session.Course host (fun _ op => op.looks = true) (s.step host (.acquire gfn)).2 moments t →
      Session.Course host (fun _ op => op.looks = true) (t.step host (.release h)).2 later u → Visits host s u
  | guard {gfn : Gfn} {name : String} {lease : Lease} {t : Session World Driver Probe Page}
      {moments later : List (Moment World Driver Probe Page)} : s.cached? gfn = none →
      (s.step host (.get gfn name)).1 = .lease lease →
      Session.Course host (fun _ op => op.looks = true) (s.step host (.get gfn name)).2 moments t →
      Session.Course host (fun _ op => op.looks = true) (t.step host (.dropGuard name)).2 later u → Visits host s u

/-- The number of pages after one more visit, by the limit and the number before. -/
def sawtooth (limit len : Nat) : Nat := if len < limit then len + 1 else len - limit / 2 + 1

/-- Two sessions that show the same pages. -/
structure Session.SamePages (s t : Session World Driver Probe Page) : Prop where
  cache : ∀ c, s.cache = some c → ∃ store, t.cache = some { c with store } ∧ c.store.Reordered store
  guards : t.guards = s.guards
  journal : t.journal = s.journal

/-- A page that was just mapped is in the cache with its first holder, after room was made for it. -/
structure Machine.Brings (host : Host World Driver Probe Page) (m : Machine World Driver Probe Page) (gfn : Gfn)
    (holder : Holder) (h : Handle) (after : Cache Driver Probe Page) : Prop where
  limit : after.limit = m.cache.limit
  known : after.store.gfnOf? h = some gfn
  found : ∃ page token, after.store.find? gfn = some (firstEntry host gfn page token holder)
  others : ∀ other e, other ≠ gfn → after.store.find? other = some e → m.cache.store.find? other = some e
  length : after.store.entries.length +
    (if m.cache.limit ≤ m.cache.store.entries.length then min (m.cache.limit / 2) m.cache.free else 0) =
      m.cache.store.entries.length + 1

/-- What a visit leaves behind: no held page, and the next number of pages. A cleanup is told of if the limit
was reached. -/
structure Session.Visited (s u : Session World Driver Probe Page) (cache : Cache Driver Probe Page) : Prop where
  left : ∃ after, u.cache = some after ∧ after.limit = cache.limit ∧ after.held = 0 ∧
    after.store.entries.length = sawtooth cache.limit cache.store.entries.length
  told : ∃ acts, u.journal = acts ++ s.journal ∧ (tellings acts).filter Event.evicts =
    if cache.limit ≤ cache.store.entries.length then
      [.cleanedUp cache.store.entries.length cache.store.entries.length (cache.limit / 2)] else []

namespace Cache

theorem held_eq_zero {c : Cache Driver Probe Page} :
    c.held = 0 ↔ ∀ gfn e, c.store.find? gfn = some e → e.held = false := by
  rw [held, List.countP_eq_zero]
  constructor
  · exact fun idle gfn e found => Bool.eq_false_iff.mpr (idle e (Store.mem_entries.mpr ⟨gfn, found⟩))
  · intro idle e cached
    obtain ⟨gfn, found⟩ := Store.mem_entries.mp cached
    rw [idle gfn e found]
    exact Bool.false_ne_true

theorem free_of_idle {c : Cache Driver Probe Page} (idle : c.held = 0) : c.free = c.store.entries.length := by
  refine List.countP_eq_length.mpr fun e cached => ?_
  have held := List.countP_eq_zero.mp idle e cached
  rw [Bool.eq_false_iff.mpr held]
  rfl

/-- With nothing held the cleanup of a full cache finds every page unused and deletes half the limit. -/
theorem cleanup_of_idle {c : Cache Driver Probe Page} (idle : c.held = 0) (full : c.limit ≤ c.store.entries.length) :
    c.cleanup = .cleanedUp c.store.entries.length c.store.entries.length (c.limit / 2) := by
  rw [cleanup, free_of_idle idle, Nat.min_eq_left (by omega)]

end Cache

namespace Machine

/-- A missing page that is acquired is the only one that comes in, and the cleanup of a full cache decides how many
go. -/
theorem Acquired.brings {m : Machine World Driver Probe Page} {gfn : Gfn} {holder : Holder} {lease : Lease}
    {after : Cache Driver Probe Page} (acquired : m.Acquired host gfn holder (.done lease) after)
    (indexed : m.cache.store.Indexed) (clocked : m.cache.Clocked) (missing : m.cache.store.find? gfn = none) :
    m.Brings host gfn holder lease.handle after := by
  cases acquired with
  | failed fails => cases fails
  | pinned found => cases missing.symm.trans found
  | @placed room page token _ _ answers given unknown =>
    obtain ⟨_, next, _, rfl⟩ := Cache.tick?_eq_some given
    have new : room.cache.store.gfnOf? (firstEntry host gfn page token holder).handle = none := unknown
    have absent : room.cache.store.find? (firstEntry host gfn page token holder).gfn = none := answers.missing indexed
    have shrinks := answers.shrinks indexed
    have stored := Store.find?_insert_of_new new
    obtain ⟨_, _, _, _, made, _⟩ := answers
    obtain ⟨evicted, gives⟩ := clocked.givesUp indexed
    have without := (makeRoom_without indexed gives made).1
    refine ⟨without.limit_eq, ?_, ⟨page, token, ?_⟩, fun other e different found => ?_, ?_⟩
    · exact (Store.gfnOf?_insert _ _ _).trans (if_pos rfl)
    · exact (stored gfn).trans (if_pos rfl)
    · exact shrinks.found_before ((if_neg different).symm.trans ((stored other).symm.trans found))
    · rw [Store.entries_insert_of_fresh new absent, List.length_cons, ← gives.length_eq, ← without.length_eq]
      omega

/-- With its only reference given back, the new page is as free as the others. -/
theorem Brings.settled {m : Machine World Driver Probe Page} {gfn : Gfn} {holder : Holder} {h : Handle}
    {after : Cache Driver Probe Page} {f : Entry Page → Entry Page} {store store' : Store Page}
    (brings : m.Brings host gfn holder h after) (idle : m.cache.held = 0) (fits : 2 ≤ m.cache.limit)
    (same : after.store.Reordered store)
    (freed : ∀ page token, (f (firstEntry host gfn page token holder)).held = false)
    (same' : (store.change gfn f).Reordered store') :
    Cache.held { after with store := store' } = 0 ∧
      store'.entries.length = sawtooth m.cache.limit m.cache.store.entries.length := by
  constructor
  · refine Cache.held_eq_zero.mpr fun other e found => ?_
    rw [show Store.find? _ other = store'.find? other from rfl, same'.find?_eq, Store.find?_change, same.find?_eq]
      at found
    split at found
    · next here =>
      obtain ⟨page, token, new⟩ := brings.found
      rw [here, new] at found
      cases found
      exact freed page token
    · next elsewhere => exact Cache.held_eq_zero.mp idle other e (brings.others other e elsewhere found)
  · have length := brings.length
    rw [Cache.free_of_idle idle] at length
    rw [← same'.entries_perm.length_eq, Store.length_change, ← same.entries_perm.length_eq, sawtooth]
    split at length <;> split <;> omega

/-- A page that comes from outside is told of with the cleanup before it. -/
theorem acquire_cleanup {m : Machine World Driver Probe Page} {gfn : Gfn} {holder : Holder} {lease : Lease}
    (indexed : m.cache.store.Indexed) (missing : m.cache.store.find? gfn = none) (idle : m.cache.held = 0)
    (done : (m.acquire host gfn holder).1 = .done lease) :
    ∃ acts, (m.acquire host gfn holder).2.journal = acts ++ m.journal ∧ (tellings acts).filter Event.evicts =
      if m.cache.limit ≤ m.cache.store.entries.length then
        [.cleanedUp m.cache.store.entries.length m.cache.store.entries.length (m.cache.limit / 2)] else [] := by
  obtain ⟨acts, dealt, journal⟩ := acquire_dealt host indexed gfn holder
  refine ⟨acts, journal, ?_⟩
  have bound : m.cache.driver.isSome = true := by
    cases driver : m.cache.driver with
    | some _ => rfl
    | none => simp only [acquire, driver, reduceCtorEq] at done
  rw [(dealt.reported indexed fun fault broke => by cases done.symm.trans broke).evicts, Cache.cleanup?]
  split
  · next full => rw [if_pos full.2.2, Cache.cleanup_of_idle idle full.2.2, Option.toList_some]
  · next spare => rw [if_neg fun full => spare ⟨bound, missing, full⟩, Option.toList_none]

end Machine

namespace Store.Reordered

theorem refl (s : Store Page) : s.Reordered s := ⟨List.Perm.refl _, List.Perm.refl _⟩

theorem trans {s t u : Store Page} (first : s.Reordered t) (second : t.Reordered u) : s.Reordered u :=
  ⟨List.Perm.trans first.byGfn second.byGfn, List.Perm.trans first.byHandle second.byHandle⟩

end Store.Reordered

namespace Session

theorem SamePages.of_same {s t : Session World Driver Probe Page} (cache : t.cache = s.cache)
    (guards : t.guards = s.guards) (journal : t.journal = s.journal) :
    s.SamePages t := ⟨fun c present => ⟨c.store, cache.trans present, .refl _⟩, guards, journal⟩

theorem SamePages.trans {s t u : Session World Driver Probe Page} (first : s.SamePages t) (second : t.SamePages u) :
    s.SamePages u where
  cache c present := by
    obtain ⟨store, there, same⟩ := first.cache c present
    obtain ⟨store', there', same'⟩ := second.cache _ there
    exact ⟨store', there', same.trans same'⟩
  guards := second.guards.trans first.guards
  journal := second.journal.trans first.journal

theorem onGuard_samePages {s : Session World Driver Probe Page} {name : String}
    {work : Guard → Machine World Driver Probe Page → Reply × Machine World Driver Probe Page}
    (quiet : ∀ g m, (work g m).2.cache = m.cache ∧ (work g m).2.journal = m.journal) :
    s.SamePages (s.onGuard name work).2 := by
  refine .of_same ?_ (s.onGuard_guards name work) (onGuard_journal fun g m => (quiet g m).2)
  unfold onGuard
  split
  · rfl
  · next g _ =>
    unfold onCache
    cases present : s.cache with
    | none => exact present
    | some cache => exact congrArg some (quiet g (s.machine cache)).1

/-- An operation that only looks changes no page and no guard and tells nothing. -/
theorem step_looks {op : Op World Driver Probe} (host : Host World Driver Probe Page)
    (s : Session World Driver Probe Page) (looks : op.looks = true) : s.SamePages (s.step host op).2 := by
  have writes : ∀ (g : Guard) (m : Machine World Driver Probe Page) offset bytes,
      (m.write host g offset bytes).2.cache = m.cache ∧ (m.write host g offset bytes).2.journal = m.journal :=
    fun g m offset bytes => ⟨write_cache m g offset bytes, (m.write_retuned g offset bytes).journal⟩
  cases op with
  | read | readWord | readHeader => exact onGuard_samePages fun _ _ => ⟨rfl, rfl⟩
  | write | writeWord | writeHeader => exact onGuard_samePages fun g m => writes g m _ _
  | outside => exact .of_same rfl rfl rfl
  | _ => cases looks

theorem Course.samePages {s t : Session World Driver Probe Page} {moments : List (Moment World Driver Probe Page)}
    (course : Course host (fun _ op => op.looks = true) s moments t) : s.SamePages t := by
  induction course with
  | start => exact .of_same rfl rfl rfl
  | reorder _ present same ih =>
    refine ih.trans ⟨fun c there => ?_, rfl, rfl⟩
    cases there.symm.trans present
    exact ⟨_, rfl, same⟩
  | step op _ looks ih => exact ih.trans (step_looks host _ looks)

theorem nobody_of_idle {cache : Cache Driver Probe Page} {live : List Guard} (guarded : cache.store.Guarded live)
    (idle : cache.held = 0) :
    live = [] := by
  refine List.eq_nil_iff_forall_not_mem.mpr fun g member => ?_
  obtain ⟨e, found, _⟩ := guarded.cached g member
  have free := Cache.held_eq_zero.mp idle g.gfn e found
  exact guarded.references?_ne_zero member found (Entry.free_of_not_held free)

theorem unnamed_of_idle {s : Session World Driver Probe Page} {cache : Cache Driver Probe Page}
    (guarded : cache.store.Guarded s.guards.values) (idle : cache.held = 0) (name : String) :
    s.guards.find? name = none := by
  refine Option.eq_none_iff_forall_ne_some.mpr fun g taken => ?_
  have member := Index.mem_values.mpr ⟨name, taken⟩
  rw [nobody_of_idle guarded idle] at member
  cases member

theorem acquire_of_handle {s : Session World Driver Probe Page} {cache : Cache Driver Probe Page} {gfn : Gfn}
    {h : Handle} (present : s.cache = some cache) (done : (s.step host (.acquire gfn)).1 = .handle h) :
    ∃ lease, lease.handle = h ∧ ((s.machine cache).acquire host gfn .handle).1 = .done lease ∧
      (s.step host (.acquire gfn)).2 = s.resume ((s.machine cache).acquire host gfn .handle).2 := by
  simp only [step, onCache, present] at done ⊢
  cases outcome : ((s.machine cache).acquire host gfn .handle).1 with
  | done lease =>
    rw [outcome] at done
    cases done
    exact ⟨lease, rfl, rfl, trivial⟩
  | refused | broken =>
    rw [outcome] at done
    cases done

/-- A guard under a new name is one more than before. -/
theorem acquire_of_lease {s : Session World Driver Probe Page} {cache : Cache Driver Probe Page} {gfn : Gfn}
    {name : String} {lease : Lease} (present : s.cache = some cache) (new : s.guards.find? name = none)
    (done : (s.step host (.get gfn name)).1 = .lease lease) :
    ((s.machine cache).acquire host gfn .guard).1 = .done lease ∧ (s.step host (.get gfn name)).2 =
      { s.resume ((s.machine cache).acquire host gfn .guard).2 with
        guards := s.guards.insert name ⟨gfn, lease.handle, lease.size⟩ } := by
  simp only [step, get, present] at done ⊢
  cases run : (s.machine cache).acquire host gfn .guard with
  | mk outcome m =>
    rw [run] at done
    cases outcome with
    | done lease' =>
      cases done
      simp only [new]
      exact ⟨trivial, trivial⟩
    | refused | broken => cases done

/-- Releasing a held page lowers its count and tells nothing. -/
theorem release_of_held {s : Session World Driver Probe Page} {cache : Cache Driver Probe Page} {gfn : Gfn}
    {h : Handle} {e : Entry Page} (host : Host World Driver Probe Page) (present : s.cache = some cache)
    (known : cache.store.gfnOf? h = some gfn) (found : cache.store.find? gfn = some e) (held : e.refs ≠ 0) :
    (s.step host (.release h)).2.cache =
        some { cache with store := cache.store.change gfn fun e => { e with refs := e.refs - 1 } } ∧
      (s.step host (.release h)).2.journal = s.journal := by
  simp only [step, onCache, present, Machine.release, machine, known, found, if_neg held]
  exact ⟨rfl, rfl⟩

/-- Dropping a guard on a cached page lowers its count and tells nothing. -/
theorem dropGuard_of_held {s : Session World Driver Probe Page} {cache : Cache Driver Probe Page} {name : String}
    {g : Guard} {e : Entry Page} (host : Host World Driver Probe Page) (present : s.cache = some cache)
    (taken : s.guards.find? name = some g) (found : cache.store.find? g.gfn = some e) (held : e.guards ≠ 0) :
    (s.step host (.dropGuard name)).2.cache =
        some { cache with store := cache.store.change g.gfn fun e => { e with guards := e.guards - 1 } } ∧
      (s.step host (.dropGuard name)).2.journal = s.journal := by
  simp only [step, dropGuard, taken, onCache, present, Machine.releaseGuard, machine, found, if_neg held]
  exact ⟨rfl, rfl⟩

theorem Visits.reach {s u : Session World Driver Probe Page} {world : World}
    {past : List (Op World Driver Probe × Reply)} (visits : s.Visits host u)
    (reach : Reach host (fun _ _ => True) world past s) :
    ∃ past, Reach host (fun _ _ => True) world past u := by
  cases visits with
  | handle _ _ stay later =>
    have held := (reach.step _ trivial).followed (stay.imp fun _ _ _ => trivial)
    exact ⟨_, (held.step _ trivial).followed (later.imp fun _ _ _ => trivial)⟩
  | guard _ _ stay later =>
    have held := (reach.step _ trivial).followed (stay.imp fun _ _ _ => trivial)
    exact ⟨_, (held.step _ trivial).followed (later.imp fun _ _ _ => trivial)⟩

/-- A page was brought into a cache without held pages, its only reference was given back, and nobody else came. -/
theorem Visited.of_returned {s t u : Session World Driver Probe Page} {cache : Cache Driver Probe Page} {gfn : Gfn}
    {f : Entry Page → Entry Page} {holder : Holder} {lease : Lease} {store : Store Page}
    (indexed : cache.store.Indexed) (missing : cache.store.find? gfn = none) (idle : cache.held = 0)
    (fits : 2 ≤ cache.limit) (done : ((s.machine cache).acquire host gfn holder).1 = .done lease)
    (brings : (s.machine cache).Brings host gfn holder lease.handle ((s.machine cache).acquire host gfn holder).2.cache)
    (same : ((s.machine cache).acquire host gfn holder).2.cache.store.Reordered store)
    (freed : ∀ page token, (f (Machine.firstEntry host gfn page token holder)).held = false)
    (returned : t.cache = some { ((s.machine cache).acquire host gfn holder).2.cache with store := store.change gfn f })
    (journal : t.journal = ((s.machine cache).acquire host gfn holder).2.journal) (later : t.SamePages u) :
    s.Visited u cache := by
  obtain ⟨acts, written, told⟩ := Machine.acquire_cleanup (m := s.machine cache) indexed missing idle done
  obtain ⟨store', left, same'⟩ := later.cache _ returned
  obtain ⟨none, length⟩ := brings.settled idle fits same freed same'
  exact ⟨⟨_, left, brings.limit, none, length⟩, acts, later.journal.trans (journal.trans written), told⟩

/-- A visit from an idle cache leaves it idle again, with the size the sawtooth gives. -/
theorem Visits.visited {s u : Session World Driver Probe Page} {cache : Cache Driver Probe Page} {world : World}
    {past : List (Op World Driver Probe × Reply)} (visits : s.Visits host u)
    (reach : Reach host (fun _ _ => True) world past s) (present : s.cache = some cache) (idle : cache.held = 0) :
    s.Visited u cache := by
  have indexed := reach.indexed present
  have clocked := reach.clocked present
  have fits : 2 ≤ cache.limit := Nat.le_trans (by decide) (reach.minLimit_le present)
  have brings : ∀ {gfn holder lease}, cache.store.find? gfn = none →
      ((s.machine cache).acquire host gfn holder).1 = .done lease →
      (s.machine cache).Brings host gfn holder lease.handle ((s.machine cache).acquire host gfn holder).2.cache := by
    intro gfn holder lease missing done
    have acquired := Machine.acquire_acquired host (m := s.machine cache) indexed gfn holder
    rw [done] at acquired
    exact acquired.brings indexed clocked missing
  cases visits with
  | @handle gfn h t _ _ missing done stay later =>
    rw [cached?, present] at missing
    obtain ⟨lease, rfl, acquires, next⟩ := acquire_of_handle present done
    have brought := brings missing acquires
    have stays := stay.samePages
    have freed : ∀ page token, { Machine.firstEntry host gfn page token .handle with
        refs := (Machine.firstEntry host gfn page token .handle).refs - 1 }.held = false := by
      simp [Entry.held, Machine.firstEntry]
    rw [next] at stays
    obtain ⟨store, there, same⟩ := stays.cache _ rfl
    obtain ⟨page, token, found⟩ := brought.found
    obtain ⟨returned, journal⟩ := release_of_held host there ((same.gfnOf?_eq _).trans brought.known)
      ((same.find?_eq _).trans found) (show (1 : UInt32) ≠ 0 by decide)
    exact .of_returned indexed missing idle fits acquires brought same freed returned
      (journal.trans stays.journal) later.samePages
  | @guard gfn name lease t _ _ missing done stay later =>
    rw [cached?, present] at missing
    have new := unnamed_of_idle (sustains_of_cache reach.guarded present).2 idle name
    obtain ⟨acquires, next⟩ := acquire_of_lease present new done
    have brought := brings missing acquires
    have stays := stay.samePages
    have freed : ∀ page token, { Machine.firstEntry host gfn page token .guard with
        guards := (Machine.firstEntry host gfn page token .guard).guards - 1 }.held = false := by
      simp [Entry.held, Machine.firstEntry]
    rw [next] at stays
    obtain ⟨store, there, same⟩ := stays.cache _ rfl
    obtain ⟨page, token, found⟩ := brought.found
    have taken : t.guards.find? name = some ⟨gfn, lease.handle, lease.size⟩ := by
      rw [stays.guards]
      exact (s.guards.find?_insert _ _ _).trans (if_pos rfl)
    obtain ⟨returned, journal⟩ := dropGuard_of_held host there taken ((same.find?_eq _).trans found)
      (show (1 : UInt32) ≠ 0 by decide)
    exact .of_returned indexed missing idle fits acquires brought same freed returned
      (journal.trans stays.journal) later.samePages

end Session

end ForeignPages
