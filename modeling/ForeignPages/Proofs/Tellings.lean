import Mathlib.Algebra.GroupWithZero.Nat
import ForeignPages.Proofs.Attempts
import ForeignPages.Proofs.PageGrowth
import ForeignPages.Proofs.RecencyOrder

namespace ForeignPages

variable {World Driver Probe Page : Type} {host : Host World Driver Probe Page}

def Act.told? : Act Driver Probe Page → Option Event
  | .told event => some event
  | _ => none

/-- What is told among acts, the newest first. -/
def tellings (acts : List (Act Driver Probe Page)) : List Event := acts.filterMap Act.told?

theorem tellings_append (newer older : List (Act Driver Probe Page)) :
    tellings (newer ++ older) = tellings newer ++ tellings older := List.filterMap_append

theorem tellings_told (event : Event) (acts : List (Act Driver Probe Page)) :
    tellings (.told event :: acts) = event :: tellings acts := rfl

theorem tellings_returns (entries : List (Entry Page)) :
    tellings (returns entries : List (Act Driver Probe Page)) = [] := by
  refine List.filterMap_eq_nil_iff.mpr fun act member => ?_
  obtain ⟨e, _, rfl⟩ := List.mem_map.mp (List.mem_reverse.mp member)
  rfl

namespace Event

/-- A page mapped is told exactly when the page was missing and is now handed out, with the handle of the answer. -/
def maps : Event → Bool
  | pageMapped .. => true
  | _ => false

def evicts : Event → Bool
  | cleanedUp .. => true
  | _ => false

def ends : Event → Bool
  | destroyed _ => true
  | _ => false

def errs (event : Event) : Bool := decide (event.level = .error)

def warns (event : Event) : Bool := decide (event.level = .warn)

/-- How a policy was chosen. -/
def ofPolicy : Event → Bool
  | policySelected _ | releaseUnreadable .. | releaseMalformed _ => true
  | _ => false

/-- The number of pages that were evicted according to an event. -/
def deleted : Event → Nat
  | cleanedUp _ _ deleted => deleted
  | _ => 0

theorem maps_eq (event : Event) : event.maps = decide (event.entry.message = "page mapped") := by
  cases event <;> simp [maps, entry, message]

theorem evicts_eq (event : Event) : event.evicts = decide (event.entry.message = "page cache cleanup") := by
  cases event <;> simp [evicts, entry, message]

theorem ends_eq (event : Event) : event.ends = decide (event.entry.message = "page cache destroyed") := by
  cases event <;> simp [ends, entry, message]

theorem errs_eq (event : Event) : event.errs = decide (event.entry.level = .error) := rfl

theorem warns_eq (event : Event) : event.warns = decide (event.entry.level = .warn) := rfl

end Event

/-- The handle of a page that was handed out. -/
@[simp] def Reply.handle? : Reply → Option Handle
  | .handle h => some h
  | .lease granted => some granted.handle
  | _ => none

theorem Entry.free_iff_not_held {e : Entry Page} : e.references? = some 0 ↔ e.held = false := by
  refine ⟨fun free => ?_, Entry.free_of_not_held⟩
  obtain ⟨refs, guards⟩ := Entry.references?_eq_zero.mp free
  simp [held, refs, guards]

namespace Store

theorem unused_length {s : Store Page} {unused : List (Entry Page)} (summed : s.unused? = some unused) :
    unused.length = s.entries.countP (!·.held) := by
  rw [unused?_eq_some summed, ← List.countP_eq_length_filter]
  refine List.countP_congr fun e _ => ?_
  rw [decide_eq_true_eq, Bool.not_eq_true', Entry.free_iff_not_held]

/-- The victims are all evicted, since they are cached under different numbers. -/
theorem Indexed.evicted_length {s : Store Page} {unused : List (Entry Page)} (indexed : s.Indexed)
    (summed : s.unused? = some unused) (limit : Nat) :
    (s.removeAll (victims limit unused)).1.length = min (limit / 2) unused.length := by
  have sorted : (unused.mergeSort Entry.evictedBefore).Perm unused := List.mergeSort_perm ..
  have cached : ∀ e ∈ unused, s.find? e.gfn = some e := by
    rw [unused?_eq_some summed]
    intro e member
    obtain ⟨gfn, found⟩ := mem_entries.mp (List.mem_filter.mp member).1
    rw [indexed.keyed gfn e found, found]
  have apart : (unused.map (·.gfn)).Nodup := by
    rw [unused?_eq_some summed]
    exact indexed.gfns_nodup.sublist (List.filter_sublist.map _)
  have chosen : (s.removeAll (victims limit unused)).1 = (unused.mergeSort Entry.evictedBefore).take (limit / 2) := by
    refine removeAll_fst (fun e member => cached e (sorted.mem_iff.mp (List.mem_of_mem_take member))) ?_
    exact (((sorted.map _).nodup_iff).mpr apart).sublist ((List.take_sublist ..).map _)
  rw [chosen, List.length_take, sorted.length_eq]

end Store

/-- The pages that are not cached any more are those that make up the difference. -/
theorem Cache.Shrinks.gone {c d : Cache Driver Probe Page} (shrinks : c.Shrinks d) (indexed : c.store.Indexed) :
    c.store.entries.countP (fun e => (d.store.find? e.gfn).isNone) + d.store.entries.length =
      c.store.entries.length := by
  obtain ⟨gfns, rfl, _⟩ := shrinks
  have parts := c.store.entries_perm_removeAll gfns
  have kept := indexed.removeAll gfns
  generalize (c.store.removeAll gfns).1 = removed at parts
  generalize (c.store.removeAll gfns).2 = store at parts kept
  have apart := ((parts.map (·.gfn)).nodup_iff).mp indexed.gfns_nodup
  rw [List.map_append, List.nodup_append] at apart
  rw [parts.countP_eq, parts.length_eq, List.countP_append, List.length_append]
  have gone : removed.countP (fun e => (store.find? e.gfn).isNone) = removed.length := by
    refine List.countP_eq_length.mpr fun e member => ?_
    cases found : store.find? e.gfn with
    | none => rfl
    | some f =>
      have stays : f ∈ store.entries := Store.mem_entries.mpr ⟨_, found⟩
      have same := kept.keyed _ f found
      exact absurd same.symm (apart.2.2 _ (List.mem_map_of_mem member) _ (List.mem_map_of_mem stays))
  have stay : store.entries.countP (fun e => (store.find? e.gfn).isNone) = 0 := by
    refine List.countP_eq_zero.mpr fun e member => ?_
    obtain ⟨gfn, found⟩ := Store.mem_entries.mp member
    rw [kept.keyed gfn e found, found]
    exact Bool.false_ne_true
  rw [gone, stay, Nat.add_zero]

namespace Cache

/-- The number of pages that nobody holds. -/
def free (c : Cache Driver Probe Page) : Nat := c.store.entries.countP (!·.held)

/-- What is told of the cleanup by which a full cache makes room. -/
def cleanup (c : Cache Driver Probe Page) : Event :=
  .cleanedUp c.store.entries.length c.free (min (c.limit / 2) c.free)

/-- A page is missing, and there is no room for it. -/
def Crowded (c : Cache Driver Probe Page) (gfn : Gfn) : Prop :=
  c.driver.isSome ∧ c.store.find? gfn = none ∧ c.limit ≤ c.store.entries.length

instance (c : Cache Driver Probe Page) (gfn : Gfn) : Decidable (c.Crowded gfn) :=
  decidable_of_iff (c.driver.isSome ∧ (c.store.find? gfn).isNone ∧ c.limit ≤ c.store.entries.length)
    (by rw [Crowded, Option.isNone_iff_eq_none])

/-- What is told of a cleanup before a page can be mapped that is not cached. -/
def cleanup? (c : Cache Driver Probe Page) (gfn : Gfn) : Option Event :=
  if c.Crowded gfn then some c.cleanup else none

/-- Making room tells one cleanup when the cache is full and nothing otherwise. -/
theorem Roomed.tellings_eq {c : Cache Driver Probe Page} {acts : List (Act Driver Probe Page)}
    (roomed : c.Roomed acts) (indexed : c.store.Indexed) :
    tellings acts = if c.limit ≤ c.store.entries.length then [c.cleanup] else [] := by
  cases roomed with
  | spare below =>
    rw [if_neg (Nat.not_le.mpr below)]
    rfl
  | cleaned reached summed =>
    rw [if_pos reached, tellings_told, tellings_returns, indexed.evicted_length summed, Store.unused_length summed]
    rfl

/-- What is told at last about an acquisition, after a cleanup if there was one, by the outcome. -/
inductive Concludes (c : Cache Driver Probe Page) (gfn : Gfn) : Outcome Lease → List Event → Prop
  | unbound : Concludes c gfn (.refused .noSession) []
  | found {e : Entry Page} (lease : Lease) : c.store.find? gfn = some e → Concludes c gfn (.done lease) []
  | failed (source : IoError) : Concludes c gfn (.refused (.mapFailed gfn source))
      (if c.logMapFailures then [.mapFailed gfn source] else [])
  | absent {answer : Except IoError Bool} : answer ≠ .ok true →
      Concludes c gfn (.refused (.pageNotPresent gfn)) [denial gfn answer]
  | mapped (lease : Lease) : c.store.find? gfn = none → Concludes c gfn (.done lease) [.pageMapped gfn lease.handle]

theorem tellings_complaint (c : Cache Driver Probe Page) (gfn : Gfn) (source : IoError) :
    tellings (c.complaint gfn source) = if c.logMapFailures then [.mapFailed gfn source] else [] := by
  unfold complaint
  split <;> rfl

theorem Concludes.unmapped {c : Cache Driver Probe Page} {gfn : Gfn} {last : List Event} {e : MapError}
    (concludes : c.Concludes gfn (.refused e) last) :
    last.countP Event.maps = 0 := by
  cases concludes with
  | unbound => rfl
  | failed => split <;> rfl
  | @absent answer => cases answer <;> rfl

theorem Concludes.deleted {c : Cache Driver Probe Page} {gfn : Gfn} {outcome : Outcome Lease} {last : List Event}
    (concludes : c.Concludes gfn outcome last) : (last.map Event.deleted).sum = 0 := by
  cases concludes with
  | unbound | found | mapped => rfl
  | failed => split <;> rfl
  | @absent answer => cases answer <;> rfl

end Cache

namespace Machine

/-- What an acquisition tells about itself and about the pages of the cache. -/
structure Reported (m : Machine World Driver Probe Page) (gfn : Gfn) (outcome : Outcome Lease)
    (acts : List (Act Driver Probe Page)) (after : Cache Driver Probe Page) : Prop where
  told : ∃ last, m.cache.Concludes gfn outcome last ∧ tellings acts = last ++ (m.cache.cleanup? gfn).toList
  gone : m.cache.store.entries.countP (fun e => (after.store.find? e.gfn).isNone) =
    ((tellings acts).map Event.deleted).sum
  length : after.store.entries.length + ((tellings acts).map Event.deleted).sum =
    m.cache.store.entries.length + (tellings acts).countP Event.maps

/-- The cleanup's count of deleted pages is the number of entries that went. -/
theorem makeRoom_deleted {m room : Machine World Driver Probe Page} {acts : List (Act Driver Probe Page)}
    (indexed : m.cache.store.Indexed) (made : m.makeRoom host = (.ok (), room)) (roomed : m.cache.Roomed acts) :
    room.cache.store.entries.length + ((tellings acts).map Event.deleted).sum = m.cache.store.entries.length := by
  rw [roomed.tellings_eq indexed]
  rw [makeRoom_eq indexed] at made
  split at made
  · next reached =>
    obtain ⟨unused, summed, rfl⟩ := cleanUp_ok indexed made
    have evicted := indexed.evicted_length summed m.cache.limit
    rw [Store.unused_length summed] at evicted
    have parts := m.cache.store.length_removeAll (Store.victims m.cache.limit unused)
    rw [evicted, Nat.add_comm] at parts
    rw [if_pos reached, tell_cache, unmapAll_cache]
    exact parts
  · next below =>
    cases made
    rw [if_neg below]
    rfl

/-- After room was made, the page that is acquired may come in, and nothing else changes. -/
theorem reported_of_room {m room : Machine World Driver Probe Page} {gfn : Gfn} {outcome : Outcome Lease}
    {acts tried : List (Act Driver Probe Page)} {after : Cache Driver Probe Page} {driver : Driver}
    {last : List Event} (indexed : m.cache.store.Indexed) (bound : m.cache.driver = some driver)
    (missing : m.cache.store.find? gfn = none) (made : m.makeRoom host = (.ok (), room))
    (roomed : m.cache.Roomed acts) (concludes : m.cache.Concludes gfn outcome last) (told : tellings tried = last)
    (stays : ∀ other, other ≠ gfn → after.store.find? other = room.cache.store.find? other)
    (length : after.store.entries.length = room.cache.store.entries.length + last.countP Event.maps) :
    m.Reported gfn outcome (tried ++ acts) after := by
  have cleaned : tellings acts = (m.cache.cleanup? gfn).toList := by
    rw [roomed.tellings_eq indexed]
    unfold Cache.cleanup?
    by_cases reached : m.cache.limit ≤ m.cache.store.entries.length
    · rw [if_pos reached, if_pos ⟨by rw [bound]; rfl, missing, reached⟩]
      rfl
    · rw [if_neg reached, if_neg fun full => reached full.2.2]
      rfl
  have deleted := makeRoom_deleted indexed made roomed
  have gone := (makeRoom_shrinks indexed made).gone indexed
  have same : m.cache.store.entries.countP (fun e => (after.store.find? e.gfn).isNone) =
      m.cache.store.entries.countP fun e => (room.cache.store.find? e.gfn).isNone := by
    refine List.countP_congr fun e cached => ?_
    obtain ⟨key, found⟩ := Store.mem_entries.mp cached
    have other : e.gfn ≠ gfn := by
      rintro rfl
      rw [← indexed.keyed key e found, missing] at found
      cases found
    rw [stays e.gfn other]
  have unmapped : (tellings acts).countP Event.maps = 0 := by
    rw [cleaned]
    unfold Cache.cleanup?
    split <;> rfl
  refine ⟨⟨last, concludes, ?_⟩, ?_, ?_⟩ <;> rw [tellings_append, told]
  · rw [cleaned]
  · rw [same, List.map_append, List.sum_append, concludes.deleted]
    omega
  · rw [List.map_append, List.sum_append, concludes.deleted, List.countP_append, unmapped]
    omega

/-- A cached page that does not break is handed out, and its entry alone is changed. -/
theorem acquireCached_done (host : Host World Driver Probe Page) (m : Machine World Driver Probe Page) (gfn : Gfn)
    (e : Entry Page) (holder : Holder) (unbroken : ∀ f, (m.acquireCached host gfn e holder).1 ≠ .broken f) :
    ∃ lease f, (m.acquireCached host gfn e holder).1 = .done lease ∧
      (m.acquireCached host gfn e holder).2.cache.store = m.cache.store.change gfn f := by
  unfold acquireCached at unbroken ⊢
  cases given : m.cache.tick? with
  | none =>
    rw [given] at unbroken
    exact absurd rfl (unbroken _)
  | some ticked =>
    have same := Cache.tick?_store given
    rw [given] at unbroken
    dsimp only at unbroken ⊢
    cases room : ({ e with lastUse := ticked.1 } : Entry Page).pin? holder with
    | none =>
      rw [room] at unbroken
      exact absurd rfl (unbroken _)
    | some pinned => exact ⟨_, fun _ => pinned, rfl, congrArg (Store.change · gfn _) same⟩

/-- Every acquisition that does not break off reports what it did. -/
theorem Dealt.reported {m : Machine World Driver Probe Page} {gfn : Gfn} {holder : Holder} {outcome : Outcome Lease}
    {acts : List (Act Driver Probe Page)} {after : Cache Driver Probe Page} {counters : Counters}
    (dealt : m.Dealt host gfn holder outcome acts after counters) (indexed : m.cache.store.Indexed)
    (unbroken : ∀ f, outcome ≠ .broken f) : m.Reported gfn outcome acts after := by
  have quiet : m.cache.store.entries.countP (fun e => (m.cache.store.find? e.gfn).isNone) = 0 := by
    have gone := (Cache.Shrinks.refl m.cache).gone indexed
    omega
  cases dealt with
  | unbound none =>
    have silent : m.cache.cleanup? gfn = .none := if_neg fun full => by simp [Cache.Crowded, none] at full
    exact ⟨⟨[], .unbound, by rw [silent]; rfl⟩, quiet, rfl⟩
  | @hit driver e bound found =>
    have silent : m.cache.cleanup? gfn = none := if_neg fun full => by simp [Cache.Crowded, found] at full
    obtain ⟨lease, f, done, store⟩ := acquireCached_done host m gfn e holder unbroken
    rw [done]
    refine ⟨⟨[], .found lease found, by rw [silent]; rfl⟩, ?_, ?_⟩
    · refine Eq.trans (List.countP_congr fun e _ => ?_) quiet
      rw [store, Store.find?_change]
      split <;> simp
    · rw [store]
      exact m.cache.store.length_change gfn f
  | stuck | full => exact absurd rfl (unbroken _)
  | @tried driver room _ _ _ _ _ bound missing made roomed _ _ tries =>
    obtain ⟨_, same⟩ := makeRoom_keeps indexed made
    have logs : room.cache.logMapFailures = m.cache.logMapFailures := by rw [same]
    have absent := (makeRoom_shrinks indexed made).find?_of_missing missing
    have refused : ∀ {e last tried}, m.cache.Concludes gfn (.refused e) last → tellings tried = last →
        m.Reported gfn (.refused e) (tried ++ _) room.cache :=
      fun concludes told => reported_of_room indexed bound missing made roomed concludes told (fun _ _ => rfl)
        (by rw [concludes.unmapped, Nat.add_zero])
    cases tries with
    | @failed source | @misfit _ source =>
      refine refused (.failed source) ?_
      rw [tellings_append, Cache.tellings_complaint, logs]
      exact List.append_nil _
    | denied _ judges =>
      cases judges with
      | denied _ _ different => exact refused (.absent different) rfl
    | @housed page judged _ _ _ _ judges housed =>
      cases housed with
      | spent | aliased => exact absurd rfl (unbroken _)
      | @placed token ticked given unknown =>
        have new : room.cache.store.gfnOf? (firstEntry host gfn page token holder).handle = none := unknown
        have fresh : room.cache.store.find? (firstEntry host gfn page token holder).gfn = none := absent
        refine reported_of_room indexed bound missing made roomed (.mapped _ missing) ?_ ?_ ?_
        · cases judges <;> rfl
        · exact fun other different => (Store.find?_insert_of_new new other).trans (if_neg different)
        · exact congrArg List.length (Store.entries_insert_of_fresh new fresh)

/-- A page that is not present was probed, and the answer is told. -/
theorem Dealt.denies {m : Machine World Driver Probe Page} {gfn : Gfn} {holder : Holder} {outcome : Outcome Lease}
    {acts : List (Act Driver Probe Page)} {after : Cache Driver Probe Page} {counters : Counters} {other : Gfn}
    (dealt : m.Dealt host gfn holder outcome acts after counters)
    (refused : outcome = .refused (.pageNotPresent other)) : ∃ probe start size answer,
    .probed probe start size answer ∈ acts ∧ denial gfn answer ∈ tellings acts := by
  cases dealt with
  | hit => exact absurd refused (acquireCached_ne_refused host m gfn _ holder _)
  | unbound | stuck | full => cases refused
  | tried _ _ _ _ _ _ tries =>
    cases tries with
    | failed | misfit => cases refused
    | denied _ judges =>
      cases judges with
      | denied => exact ⟨_, _, _, _, .tail _ (.tail _ (.head _)), List.mem_cons_self⟩
    | housed _ _ housed => cases housed <;> cases refused

namespace Reported

theorem filter_eq {m : Machine World Driver Probe Page} {gfn : Gfn} {outcome : Outcome Lease}
    {acts : List (Act Driver Probe Page)} {after : Cache Driver Probe Page}
    (reported : m.Reported gfn outcome acts after) (p : Event → Bool) : ∃ last, m.cache.Concludes gfn outcome last ∧
    (tellings acts).filter p = last.filter p ++ if p m.cache.cleanup then (m.cache.cleanup? gfn).toList else [] := by
  obtain ⟨last, concludes, told⟩ := reported.told
  refine ⟨last, concludes, ?_⟩
  rw [told, List.filter_append]
  unfold Cache.cleanup?
  split
  · exact congrArg _ List.filter_cons
  · exact congrArg _ (ite_self _).symm

theorem evicts {m : Machine World Driver Probe Page} {gfn : Gfn} {outcome : Outcome Lease}
    {acts : List (Act Driver Probe Page)} {after : Cache Driver Probe Page}
    (reported : m.Reported gfn outcome acts after) :
    (tellings acts).filter Event.evicts = (m.cache.cleanup? gfn).toList := by
  obtain ⟨last, concludes, told⟩ := reported.filter_eq Event.evicts
  have plain : last.filter Event.evicts = [] := by
    cases concludes with
    | unbound | found | mapped => rfl
    | failed => split <;> rfl
    | @absent answer => cases answer <;> rfl
  rw [told, plain]
  rfl

/-- No pages are evicted but those of the cleanup that is told of. -/
theorem deleted_eq {m : Machine World Driver Probe Page} {gfn : Gfn} {outcome : Outcome Lease}
    {acts : List (Act Driver Probe Page)} {after : Cache Driver Probe Page}
    (reported : m.Reported gfn outcome acts after) {event : Event} (told : event ∈ tellings acts)
    (evicts : event.evicts = true) :
    ((tellings acts).map Event.deleted).sum = event.deleted := by
  have only := List.mem_filter.mpr ⟨told, evicts⟩
  rw [reported.evicts] at only
  obtain ⟨last, concludes, whole⟩ := reported.told
  rw [whole, List.map_append, List.sum_append, concludes.deleted, Option.mem_toList.mp only, Nat.zero_add]
  exact List.sum_singleton

theorem maps {m : Machine World Driver Probe Page} {gfn : Gfn} {outcome : Outcome Lease}
    {acts : List (Act Driver Probe Page)} {after : Cache Driver Probe Page}
    (reported : m.Reported gfn outcome acts after) (holder : Holder) : (tellings acts).filter Event.maps =
    if (m.cache.store.find? gfn).isNone then
      ((Reply.ofAcquired outcome holder).handle?.map (Event.pageMapped gfn)).toList else [] := by
  obtain ⟨last, concludes, told⟩ := reported.filter_eq Event.maps
  rw [told]
  cases concludes with
  | unbound => simp [Event.maps, Cache.cleanup]
  | found lease found => simp [Event.maps, Cache.cleanup, found]
  | failed => split <;> simp [Event.maps, Cache.cleanup]
  | @absent answer => cases answer <;> simp [Event.maps, Cache.cleanup, denial]
  | mapped lease missing =>
    cases holder <;> simp [Event.maps, Cache.cleanup, missing, Reply.ofAcquired, Reply.ofOutcome]

theorem ends {m : Machine World Driver Probe Page} {gfn : Gfn} {outcome : Outcome Lease}
    {acts : List (Act Driver Probe Page)} {after : Cache Driver Probe Page}
    (reported : m.Reported gfn outcome acts after) : (tellings acts).filter Event.ends = [] := by
  obtain ⟨last, concludes, told⟩ := reported.filter_eq Event.ends
  rw [told]
  cases concludes with
  | unbound | found | mapped => rfl
  | failed => split <;> rfl
  | @absent answer => cases answer <;> rfl

theorem warns {m : Machine World Driver Probe Page} {gfn : Gfn} {outcome : Outcome Lease}
    {acts : List (Act Driver Probe Page)} {after : Cache Driver Probe Page}
    (reported : m.Reported gfn outcome acts after) : (tellings acts).filter Event.warns = [] := by
  obtain ⟨last, concludes, told⟩ := reported.filter_eq Event.warns
  rw [told]
  cases concludes with
  | unbound | found | mapped => rfl
  | failed => split <;> rfl
  | @absent answer => cases answer <;> rfl

/-- A page that is not present is told of once. -/
theorem errs_of_absent {m : Machine World Driver Probe Page} {gfn : Gfn} {outcome : Outcome Lease}
    {acts : List (Act Driver Probe Page)} {after : Cache Driver Probe Page}
    (reported : m.Reported gfn outcome acts after) {other : Gfn} (absent : outcome = .refused (.pageNotPresent other)) :
    other = gfn ∧
    ∃ answer, (tellings acts).filter Event.errs = [denial gfn answer] := by
  obtain ⟨last, concludes, told⟩ := reported.filter_eq Event.errs
  cases concludes with
  | @absent answer =>
    cases absent
    refine ⟨rfl, answer, ?_⟩
    rw [told]
    cases answer <;> rfl
  | _ => cases absent

/-- The driver's failure is told as an error unless the options switch that off. -/
theorem errs_of_failed {m : Machine World Driver Probe Page} {gfn : Gfn} {outcome : Outcome Lease}
    {acts : List (Act Driver Probe Page)} {after : Cache Driver Probe Page}
    (reported : m.Reported gfn outcome acts after) {other : Gfn} {source : IoError}
    (failed : outcome = .refused (.mapFailed other source)) :
    other = gfn ∧
      (tellings acts).filter Event.errs = if m.cache.logMapFailures then [.mapFailed gfn source] else [] := by
  obtain ⟨last, concludes, told⟩ := reported.filter_eq Event.errs
  cases concludes with
  | failed =>
    cases failed
    refine ⟨rfl, ?_⟩
    rw [told]
    split <;> rfl
  | _ => cases failed

theorem errs_of_other {m : Machine World Driver Probe Page} {gfn : Gfn} {holder : Holder} {outcome : Outcome Lease}
    {acts : List (Act Driver Probe Page)} {after : Cache Driver Probe Page}
    (reported : m.Reported gfn outcome acts after) (present : (Reply.ofAcquired outcome holder).absent = false)
    (mapped : (Reply.ofAcquired outcome holder).unmapped = false) : (tellings acts).filter Event.errs = [] := by
  obtain ⟨last, concludes, told⟩ := reported.filter_eq Event.errs
  rw [told]
  cases concludes with
  | unbound | found | mapped => rfl
  | failed => simp at mapped
  | absent => simp at present

end Reported

end Machine

end ForeignPages
