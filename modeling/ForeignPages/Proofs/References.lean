import ForeignPages.Proofs.Effects
import ForeignPages.Proofs.Links

namespace ForeignPages

variable {World Driver Probe Page : Type} {host : Host World Driver Probe Page}

namespace Op

/-- A reference to a page was acquired through its handle. -/
def takes (gfn : Gfn) : Op World Driver Probe → Reply → Bool
  | .acquire other, .handle _ => decide (other = gfn)
  | _, _ => false

/-- The operation releases that handle. -/
def gives (h : Handle) : Op World Driver Probe → Bool
  | .release other => decide (other = h)
  | _ => false

theorem takes_of_idle {op : Op World Driver Probe} (idle : op.acquires? = none) (gfn : Gfn) (reply : Reply) :
    op.takes gfn reply = false := by
  cases op with
  | acquire => cases idle
  | _ => rfl

theorem gives_of_idle {op : Op World Driver Probe} (idle : op.releases? = none) (h : Handle) :
    op.gives h = false := by
  cases op with
  | release => cases idle
  | _ => rfl

theorem gives_of_acquires {op : Op World Driver Probe} {asked : Gfn × Holder} (asks : op.acquires? = some asked)
    (h : Handle) : op.gives h = false := by
  cases op with
  | release => cases asks
  | _ => rfl

end Op

/-- How many references of a kind an acquisition for a holder has taken. -/
def Outcome.taken (holder kind : Holder) : Outcome Lease → Nat
  | .done _ => if holder = kind then 1 else 0
  | _ => 0

theorem Outcome.Fails.taken_eq_zero {outcome : Outcome Lease} {gfn : Gfn} (fails : outcome.Fails gfn)
    (holder kind : Holder) : outcome.taken holder kind = 0 := by
  cases fails <;> rfl

/-- An acquisition takes a reference of its own kind. -/
theorem Op.takes_of_acquires {op : Op World Driver Probe} {gfn : Gfn} {holder : Holder}
    (asks : op.acquires? = some (gfn, holder)) (outcome : Outcome Lease) (other : Gfn) :
    (op.takes other (.ofAcquired outcome holder)).toNat = if other = gfn then outcome.taken holder .handle else 0 := by
  cases op with
  | acquire =>
    cases asks
    cases outcome with
    | done lease =>
      by_cases same : gfn = other <;> simp [takes, Reply.ofAcquired, Reply.ofOutcome, Outcome.taken, same, eq_comm]
    | refused | broken => simp [takes, Reply.ofAcquired, Reply.ofOutcome, Outcome.taken]
  | get =>
    cases asks
    cases outcome <;> simp [takes, Outcome.taken]
  | _ => cases asks

/-- The same page under the same handle, with more references. -/
structure Entry.Gains (e d : Entry Page) (refs guards : Nat) : Prop where
  handle : d.handle = e.handle
  page : d.page = e.page
  refs : d.refs.toNat = e.refs.toNat + refs
  guards : d.guards.toNat = e.guards.toNat + guards

theorem Entry.pin?_gains {e pinned : Entry Page} {token : UInt64} {holder : Holder} (lease : Lease)
    (room : ({ e with lastUse := token } : Entry Page).pin? holder = some pinned) :
    e.Gains pinned (Outcome.taken holder .handle (.done lease)) (Outcome.taken holder .guard (.done lease)) := by
  cases holder with
  | handle =>
    obtain ⟨refs, more, rfl⟩ := Entry.pin?_handle room
    exact ⟨rfl, rfl, more, rfl⟩
  | guard =>
    obtain ⟨guards, more, rfl⟩ := Entry.pin?_guard room
    exact ⟨rfl, rfl, rfl, more⟩

/-- The entry after its handle was released. -/
def Entry.giveBack (e : Entry Page) : Entry Page := { e with refs := if e.refs = 0 then 0 else e.refs - 1 }

/-- A release takes one reference, if there is one. -/
theorem Entry.giveBack_refs (e : Entry Page) : e.giveBack.refs.toNat + (decide (e.refs ≠ 0)).toNat = e.refs.toNat := by
  by_cases none : e.refs = 0
  · simp [giveBack, none]
  · have positive : 0 < e.refs.toNat := by
      rw [Nat.pos_iff_ne_zero]
      exact fun zero => none (UInt32.toNat_inj.mp zero)
    have less := toNat_sub_one positive
    simp only [giveBack, none, if_false, ne_eq, not_false_eq_true, decide_true, Bool.toNat_true, less]
    omega

theorem Entry.references?_ne_zero {e : Entry Page} (held : e.refs ≠ 0 ∨ e.guards ≠ 0) : e.references? ≠ some 0 := by
  intro free
  obtain ⟨refs, guards⟩ := Entry.references?_eq_zero.mp free
  rcases held with taken | guarded
  · exact taken refs
  · exact guarded guards

namespace Machine

/-- Every other page stays as it is, or was free and is gone. -/
theorem Acquired.find?_of_other {m : Machine World Driver Probe Page} {gfn other : Gfn} {holder : Holder}
    {outcome : Outcome Lease} {cache : Cache Driver Probe Page} {e : Entry Page}
    (acquired : m.Acquired host gfn holder outcome cache) (indexed : m.cache.store.Indexed) (different : other ≠ gfn)
    (found : m.cache.store.find? other = some e) :
    cache.store.find? other = none ∧ e.references? = some 0 ∨ cache.store.find? other = some e := by
  cases acquired with
  | failed _ roomy => exact roomy.find?_of_found found
  | touched | pinned =>
    refine .inr ?_
    rw [Store.find?_change, if_neg different, found]
  | @placed room page token _ _ answers _ unknown =>
    have stored : (room.cache.store.insert (firstEntry host gfn page token holder)).2.find? other =
        room.cache.store.find? other := by
      rw [Store.find?_insert_of_new unknown]
      exact if_neg different
    rw [stored]
    exact (answers.shrinks indexed).find?_of_found found
  | @aliased room page token _ _ answers _ known =>
    have stored : (room.cache.store.insert (firstEntry host gfn page token holder)).2.find? other =
        room.cache.store.find? other := Store.find?_insert_of_known known other
    rw [stored]
    exact (answers.shrinks indexed).find?_of_found found

/-- A cached page survives being acquired with one more reference, unless the acquisition gets nowhere. -/
theorem Acquired.find?_of_hit {m : Machine World Driver Probe Page} {gfn : Gfn} {holder : Holder}
    {outcome : Outcome Lease} {cache : Cache Driver Probe Page} {e : Entry Page}
    (acquired : m.Acquired host gfn holder outcome cache) (found : m.cache.store.find? gfn = some e) :
    cache.store.find? gfn = none ∧ e.references? = some 0 ∨ cache.store.find? gfn = some e ∧ outcome.Fails gfn ∨
      ∃ d, cache.store.find? gfn = some d ∧ e.Gains d (outcome.taken holder .handle) (outcome.taken holder .guard) := by
  have changed : ∀ d : Entry Page, (m.cache.store.change gfn fun _ => d).find? gfn = some d := by
    intro d
    rw [Store.find?_change, if_pos rfl, found]
    rfl
  cases acquired with
  | failed fails roomy =>
    rcases roomy.find?_of_found found with evicted | stayed
    · exact .inl evicted
    · exact .inr (.inl ⟨stayed, fails⟩)
  | touched hit _ _ =>
    cases hit.symm.trans found
    exact .inr (.inr ⟨_, changed _, rfl, rfl, rfl, rfl⟩)
  | pinned hit _ room =>
    cases hit.symm.trans found
    exact .inr (.inr ⟨_, changed _, Entry.pin?_gains _ room⟩)
  | placed answers _ _ | aliased answers _ _ => cases answers.uncached.symm.trans found

/-- A cached page gains a reference, or the acquisition has failed. -/
theorem Acquired.find?_of_found {m : Machine World Driver Probe Page} {gfn other : Gfn} {holder : Holder}
    {outcome : Outcome Lease} {cache : Cache Driver Probe Page} {e : Entry Page}
    (acquired : m.Acquired host gfn holder outcome cache) (indexed : m.cache.store.Indexed)
    (found : m.cache.store.find? other = some e) :
    cache.store.find? other = none ∧ e.references? = some 0 ∨
      cache.store.find? other = some e ∧ (other = gfn → outcome.Fails gfn) ∨
      other = gfn ∧ ∃ d, cache.store.find? other = some d ∧
        e.Gains d (outcome.taken holder .handle) (outcome.taken holder .guard) := by
  by_cases same : other = gfn
  · subst same
    rcases acquired.find?_of_hit found with evicted | ⟨stayed, fails⟩ | gained
    · exact .inl evicted
    · exact .inr (.inl ⟨stayed, fun _ => fails⟩)
    · exact .inr (.inr ⟨rfl, gained⟩)
  · rcases acquired.find?_of_other indexed same found with evicted | stayed
    · exact .inl evicted
    · exact .inr (.inl ⟨stayed, fun hit => absurd hit same⟩)

/-- A page that was not cached and is cached afterwards was acquired. It is the answer of the driver, and
has no other reference. -/
theorem Acquired.find?_of_missing {m : Machine World Driver Probe Page} {gfn other : Gfn} {holder : Holder}
    {outcome : Outcome Lease} {cache : Cache Driver Probe Page} {d : Entry Page}
    (acquired : m.Acquired host gfn holder outcome cache) (indexed : m.cache.store.Indexed)
    (missing : m.cache.store.find? other = none) (found : cache.store.find? other = some d) :
    other = gfn ∧ d.refs.toNat = outcome.taken holder .handle ∧ d.guards.toNat = outcome.taken holder .guard ∧
      ∃ room, m.Answers host gfn room d.page := by
  have changed : ∀ f, (m.cache.store.change gfn f).find? other = none := by
    intro f
    rw [Store.find?_change, missing]
    exact ite_self none
  cases acquired with
  | failed _ roomy => cases (roomy.find?_of_missing missing).symm.trans found
  | touched | pinned =>
    have gone := (changed _).symm.trans found
    cases gone
  | @placed room page token size ticked answers _ unknown =>
    have gone := (answers.shrinks indexed).find?_of_missing missing
    change (room.cache.store.insert (firstEntry host gfn page token holder)).2.find? other = some d at found
    rw [Store.find?_insert_of_new unknown, gone] at found
    split at found
    · next same =>
      cases found
      cases holder <;> exact ⟨same, rfl, rfl, room, answers⟩
    · cases found
  | @aliased room page token owner ticked answers _ known =>
    have gone := (answers.shrinks indexed).find?_of_missing missing
    have kept := Store.find?_insert_of_known (e := firstEntry host gfn page token holder) known other
    cases (kept.trans gone).symm.trans found

/-- A page that was handed out is cached and counts its holder. -/
theorem Acquired.find?_of_done {m : Machine World Driver Probe Page} {gfn : Gfn} {holder : Holder}
    {cache : Cache Driver Probe Page} {lease : Lease} (acquired : m.Acquired host gfn holder (.done lease) cache) :
    ∃ d, cache.store.find? gfn = some d ∧ d.handle = lease.handle ∧
      Outcome.taken holder .handle (.done lease) ≤ d.refs.toNat := by
  cases acquired with
  | failed fails _ => cases fails
  | @pinned e pinned token ticked hit _ room =>
    have gains := Entry.pin?_gains ⟨e.handle, host.size e.page m.world⟩ room
    refine ⟨pinned, ?_, gains.handle, ?_⟩
    · rw [Store.find?_change, if_pos rfl, hit]
      rfl
    · rw [gains.refs]
      exact Nat.le_add_left _ _
  | @placed room page token size ticked answers _ unknown =>
    refine ⟨firstEntry host gfn page token holder, ?_, rfl, ?_⟩
    · rw [Store.find?_insert_of_new unknown]
      exact if_pos rfl
    · cases holder <;> exact Nat.le_refl _

/-- A release changes the page that its handle leads to. -/
theorem release_find? (m : Machine World Driver Probe Page) (h : Handle) (gfn : Gfn) :
    (m.release h).2.cache.store.find? gfn =
      if m.cache.store.gfnOf? h = some gfn then (m.cache.store.find? gfn).map Entry.giveBack
      else m.cache.store.find? gfn := by
  unfold release
  split
  · next unknown => rw [unknown, if_neg nofun]
  · next owner known =>
    rw [known]
    split
    · next missing =>
      split
      · next same =>
        cases same
        rw [missing]
        rfl
      · rfl
    · next e found =>
      by_cases free : e.refs = 0
      · have back : e.giveBack = e := by simp [Entry.giveBack, ← free]
        have kept : m.cache.store.find? gfn =
            if some owner = some gfn then (m.cache.store.find? gfn).map Entry.giveBack
            else m.cache.store.find? gfn := by
          split
          · next same =>
            cases same
            rw [found, Option.map_some, back]
          · rfl
        rw [if_pos free]
        split <;> exact kept
      · have back : e.giveBack = { e with refs := e.refs - 1 } := by simp [Entry.giveBack, free]
        rw [if_neg free]
        change (m.cache.store.change owner _).find? gfn = _
        rw [Store.find?_change]
        by_cases same : gfn = owner
        · subst same
          rw [if_pos rfl, if_pos rfl, found, Option.map_some, Option.map_some, back]
        · rw [if_neg same, if_neg fun other => same (Option.some.inj other).symm]

theorem release_gfnOf? (m : Machine World Driver Probe Page) (h other : Handle) :
    (m.release h).2.cache.store.gfnOf? other = m.cache.store.gfnOf? other := by
  rcases m.release_recounts h with same | ⟨_, _, changed, _⟩
  · rw [same]
  · rw [changed]
    rfl

end Machine

theorem Cache.Recounts.page_before {c d : Cache Driver Probe Page} {gfn : Gfn} {after : Entry Page}
    (recounts : c.Recounts d) (found : d.store.find? gfn = some after) :
    ∃ before, c.store.find? gfn = some before ∧ before.page = after.page := by
  rcases recounts.find?_eq gfn with same | ⟨before, refs, guards, there, changed⟩
  · exact ⟨after, same.symm.trans found, rfl⟩
  · cases changed.symm.trans found
    exact ⟨before, there, rfl⟩

/-- Where a page comes from that is cached after an operation: it was cached before, or it is the answer of
the driver to an acquisition. -/
theorem Session.Effect.page_origin {s : Session World Driver Probe Page} {op : Op World Driver Probe} {reply : Reply}
    {after : Option (Cache Driver Probe Page)} {gfn : Gfn} {d : Entry Page} (effect : s.Effect host op reply after)
    (indexed : ∀ cache, s.cache = some cache → cache.store.Indexed)
    (found : (after.bind fun c => c.store.find? gfn) = some d) :
    (∃ e, s.cached? gfn = some e ∧ e.page = d.page) ∨
      ∃ cache holder room, s.cache = some cache ∧ s.cached? gfn = none ∧ op.acquires? = some (gfn, holder) ∧
        (s.machine cache).Answers host gfn room d.page := by
  have cached : ∀ {c e}, s.cache = some c → c.store.find? gfn = some e → s.cached? gfn = some e :=
    fun present there => cached?_eq_some.mpr ⟨_, present, there⟩
  cases effect with
  | gone => cases found
  | emptied _ empty _ =>
    rw [Option.bind_some, empty] at found
    cases found
  | settled present _ _ store _ =>
    rw [Option.bind_some, store] at found
    exact .inl ⟨d, cached present found, rfl⟩
  | unguarded present _ _ unguards =>
    obtain ⟨e, there, page⟩ := unguards.recounts.page_before found
    exact .inl ⟨e, cached present there, page⟩
  | @released c h present _ =>
    obtain ⟨e, there, page⟩ := ((s.machine c).release_recounts h).page_before found
    exact .inl ⟨e, cached present there, page⟩
  | @acquired c _ asked holder present asks unguards =>
    obtain ⟨d', there, page⟩ := unguards.recounts.page_before found
    have sound := indexed c present
    have acquired := Machine.acquire_acquired host (m := s.machine c) sound asked holder
    cases before : c.store.find? gfn with
    | none =>
      obtain ⟨rfl, _, _, room, answers⟩ := acquired.find?_of_missing sound before there
      exact .inr ⟨c, holder, room, present, by rw [cached?, present]; exact before, asks, page ▸ answers⟩
    | some e =>
      refine .inl ⟨e, cached present before, ?_⟩
      rcases acquired.find?_of_found sound before with ⟨gone, _⟩ | ⟨stayed, _⟩ | ⟨_, d'', stayed, gains⟩
      · cases gone.symm.trans there
      · cases stayed.symm.trans there
        exact page
      · cases stayed.symm.trans there
        exact gains.page.symm.trans page

/-- A page that was not cached before an operation is the answer of the driver to an acquisition. -/
theorem Session.step_maps {s : Session World Driver Probe Page} {op : Op World Driver Probe} {gfn : Gfn}
    {d : Entry Page} (indexed : ∀ cache, s.cache = some cache → cache.store.Indexed) (missing : s.cached? gfn = none)
    (found : (s.step host op).2.cached? gfn = some d) :
    ∃ cache holder room, s.cache = some cache ∧ op.acquires? = some (gfn, holder) ∧
      (s.machine cache).Answers host gfn room d.page := by
  rcases (s.step_effect host op).page_origin indexed found with ⟨e, cached, _⟩ | ⟨cache, holder, room, present, _, rest⟩
  · cases missing.symm.trans cached
  · exact ⟨cache, holder, room, present, rest⟩

theorem Session.step_page {s : Session World Driver Probe Page} {op : Op World Driver Probe} {gfn : Gfn}
    {e d : Entry Page} (indexed : ∀ cache, s.cache = some cache → cache.store.Indexed) (cached : s.cached? gfn = some e)
    (found : (s.step host op).2.cached? gfn = some d) : d.page = e.page := by
  rcases (s.step_effect host op).page_origin indexed found with ⟨e', there, page⟩ | ⟨_, _, _, _, missing, _⟩
  · cases cached.symm.trans there
    exact page.symm
  · cases missing.symm.trans cached

/-- A release gives back a reference to the page that the handle leads to, and to no other. -/
theorem Session.release_cached? (host : Host World Driver Probe Page) (s : Session World Driver Probe Page) (h : Handle)
    (any : Gfn) : (s.step host (.release h)).2.cached? any =
      if s.gfnOf? h = some any then (s.cached? any).map Entry.giveBack else s.cached? any := by
  cases present : s.cache with
  | none =>
    simp only [step, onCache, present, cached?, gfnOf?, Option.bind_none]
    exact (ite_self _).symm
  | some cache =>
    simp only [step, onCache, present, cached?, gfnOf?, Option.bind_some]
    exact (s.machine cache).release_find? h any

end ForeignPages
