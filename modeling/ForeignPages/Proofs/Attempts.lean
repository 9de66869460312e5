import ForeignPages.Proofs.Accounting
import ForeignPages.Proofs.Settings

namespace ForeignPages

variable {World Driver Probe Page : Type} {host : Host World Driver Probe Page}

/-- What a driver is asked for. -/
def Act.attempt? : Act Driver Probe Page → Option (Driver × Gfn × Protection)
  | .mapped driver gfn protection _ => some (driver, gfn, protection)
  | _ => none

/-- The attempts to map pages that a row of acts consists of, the newest first. -/
def attempts (acts : List (Act Driver Probe Page)) : List (Driver × Gfn × Protection) := acts.filterMap Act.attempt?

theorem attempts_append (newer older : List (Act Driver Probe Page)) :
    attempts (newer ++ older) = attempts newer ++ attempts older := List.filterMap_append

theorem attempts_of_unanswered {acts : List (Act Driver Probe Page)} (unanswered : ∀ act ∈ acts, act.Unanswered) :
    attempts acts = [] := by
  refine List.filterMap_eq_nil_iff.mpr fun act member => ?_
  cases unanswered act member <;> rfl

namespace Counters

/-- One counter stands at a number, and nothing else was ever counted. -/
def Holds (t : Counters) (name : String) (n : Nat) : Prop :=
  n < 2 ^ 64 ∧ t.cells.cells = if n = 0 then [] else [(name, UInt64.ofNat n)]

theorem Holds.empty (name : String) : Counters.empty.Holds name 0 := ⟨by decide, rfl⟩

/-- A table that counts nothing else answers zero to every other name. -/
theorem Holds.get_eq {t : Counters} {name : String} {n : Nat} (holds : t.Holds name n) (other : String) :
    (t.get other).toNat = if other = name then n else 0 := by
  unfold get Index.find?
  rw [holds.2]
  by_cases zero : n = 0
  · rw [if_pos zero, zero, ite_self]
    rfl
  · rw [if_neg zero, Index.lookup_cons_ite]
    split
    · exact UInt64.toNat_ofNat_of_lt' holds.1
    · rfl

/-- Every count moves a counter by one. -/
theorem Holds.increment {t u : Counters} {name : String} {n : Nat} (holds : t.Holds name n)
    (counted : t.increment? name = some u) : u.Holds name (n + 1) := by
  obtain ⟨next, sum, rfl⟩ := Option.map_eq_some_iff.mp counted
  have value : next.toNat = n + 1 := by
    rw [add64?_eq_some.mp sum, holds.get_eq, if_pos rfl]
    rfl
  have fits : n + 1 < 2 ^ 64 := value ▸ next.toNat_lt
  have others : (t.cells.erase name).cells = [] := by
    rw [Index.cells_erase, holds.2]
    split
    · rfl
    · simp
  have cells : (t.cells.insert name next).cells = (name, next) :: (t.cells.erase name).cells := rfl
  refine ⟨fits, ?_⟩
  rw [if_neg (Nat.succ_ne_zero n), ← value, UInt64.ofNat_toNat, cells, others]

theorem Holds.snapshot_eq {t : Counters} {name : String} {n : Nat} (holds : t.Holds name n) :
    t.snapshot = if n = 0 then [] else [(name, UInt64.ofNat n)] := by
  rw [snapshot, holds.2]
  split
  · exact List.mergeSort_nil
  · exact List.mergeSort_singleton _

end Counters

namespace Cache

theorem Judged.attempts_eq {c : Cache Driver Probe Page} {world : World} {gfn : Gfn} {page : Page} {size : Nat}
    {acts : List (Act Driver Probe Page)} {verdict : Bool} (judged : c.Judged host world gfn page size verdict acts) :
    attempts acts = [] := by
  cases judged <;> rfl

/-- The first thing that happens in an attempt is that the driver is asked, and it is not asked again. -/
theorem Tried.asks {c after : Cache Driver Probe Page} {world : World} {driver : Driver} {gfn : Gfn}
    {acts : List (Act Driver Probe Page)} {holder : Holder} {outcome : Outcome Lease}
    (tried : c.Tried host world driver gfn holder outcome acts after) :
    ∃ newer answer, acts = newer ++ [.mapped driver gfn .rw answer] ∧ attempts newer = [] := by
  cases tried with
  | failed => exact ⟨_, _, rfl, attempts_of_unanswered (c.unanswered_complaint gfn _)⟩
  | @misfit page source =>
    refine ⟨c.complaint gfn source ++ [.unmapped page], .ok page, by rw [List.append_assoc]; rfl, ?_⟩
    rw [attempts_append, attempts_of_unanswered (c.unanswered_complaint gfn _)]
    rfl
  | @denied page judged _ judges =>
    refine ⟨.unmapped page :: judged, _, rfl, ?_⟩
    have plain := judges.attempts_eq
    exact plain
  | housed _ judges housed =>
    refine ⟨_, _, rfl, ?_⟩
    rw [attempts_append, attempts_of_unanswered housed.unanswered, judges.attempts_eq]
    rfl

theorem Tried.once {c after : Cache Driver Probe Page} {world : World} {driver : Driver} {gfn : Gfn}
    {acts : List (Act Driver Probe Page)} {holder : Holder} {outcome : Outcome Lease}
    (tried : c.Tried host world driver gfn holder outcome acts after) :
    attempts acts = [(driver, gfn, .rw)] := by
  obtain ⟨newer, answer, rfl, plain⟩ := tried.asks
  rw [attempts_append, plain]
  rfl

end Cache

namespace Reply

/-- A page was acquired. -/
@[simp] def leases : Reply → Bool
  | .handle _ | .lease _ => true
  | _ => false

/-- No page could be mapped. -/
@[simp] def unmapped : Reply → Bool
  | .refused (.mapFailed ..) => true
  | _ => false

/-- A page was mapped that is not present. -/
@[simp] def absent : Reply → Bool
  | .refused (.pageNotPresent _) => true
  | _ => false

@[simp] def breaks : Reply → Bool
  | .broken _ => true
  | _ => false

end Reply

namespace Moment

/-- A page is acquired that was not cached. -/
def mapsAnew (host : Host World Driver Probe Page) (t : Moment World Driver Probe Page) : Bool :=
  match t.op.acquires? with
  | some (gfn, _) => (t.session.cached? gfn).isNone && (t.reply host).leases
  | none => false

/-- An acquisition is refused because no page could be mapped. -/
def failsToMap (host : Host World Driver Probe Page) (t : Moment World Driver Probe Page) : Bool :=
  t.op.acquires?.isSome && (t.reply host).unmapped

/-- An acquisition is refused because the page is not present. -/
def missesPage (host : Host World Driver Probe Page) (t : Moment World Driver Probe Page) : Bool :=
  t.op.acquires?.isSome && (t.reply host).absent

end Moment

namespace Machine

/-- The driver that an acquisition has to ask for a page: the page is not cached, and there is room for it. -/
def due? (host : Host World Driver Probe Page) (m : Machine World Driver Probe Page) (gfn : Gfn) : Option Driver :=
  match m.cache.store.find? gfn, (m.makeRoom host).1 with
  | none, .ok () => m.cache.driver
  | _, _ => none

theorem countMapping?_eq_none {m : Machine World Driver Probe Page} (full : m.countMapping? = none) :
    m.cache.counting = true ∧ m.counters.increment? mapCounter = none := by
  unfold countMapping? at full
  split at full
  · next counting => exact ⟨counting, Option.map_eq_none_iff.mp full⟩
  · cases full

theorem countMapping?_of_counting {m counted : Machine World Driver Probe Page}
    (count : m.countMapping? = some counted) (counting : m.cache.counting = true) :
    m.counters.increment? mapCounter = some counted.counters := by
  unfold countMapping? at count
  rw [if_pos counting] at count
  obtain ⟨_, more, rfl⟩ := Option.map_eq_some_iff.mp count
  exact more

theorem due?_eq_some {m : Machine World Driver Probe Page} {gfn : Gfn} {driver : Driver}
    (due : m.due? host gfn = some driver) :
    m.cache.driver = some driver ∧ m.cache.store.find? gfn = none := by
  unfold due? at due
  split at due
  · next missing _ => exact ⟨due, missing⟩
  · cases due

/-- In what an acquisition passes, at most one driver is asked, for the page that is acquired. -/
theorem Dealt.asks {m : Machine World Driver Probe Page} {gfn : Gfn} {holder : Holder} {outcome : Outcome Lease}
    {acts : List (Act Driver Probe Page)} {after : Cache Driver Probe Page} {counters : Counters}
    (dealt : m.Dealt host gfn holder outcome acts after counters) (indexed : m.cache.store.Indexed) :
    attempts acts = [] ∧ counters = m.counters ∧
        (m.due? host gfn = none ∨ m.cache.counting = true ∧ m.counters.increment? mapCounter = none) ∨
      ∃ driver newer answer older room, m.due? host gfn = some driver ∧ attempts acts = [(driver, gfn, .rw)] ∧
        (m.cache.counting = true → m.counters.increment? mapCounter = some counters) ∧
        acts = newer ++ .mapped driver gfn .rw answer :: older ∧
        m.makeRoom host = (.ok (), room) ∧ room.journal = older ++ m.journal := by
  cases dealt with
  | unbound none =>
    refine .inl ⟨rfl, rfl, .inl ?_⟩
    unfold due?
    split
    · exact none
    · rfl
  | hit bound found => exact .inl ⟨rfl, rfl, .inl (by simp only [due?, found])⟩
  | stuck bound missing made => exact .inl ⟨rfl, rfl, .inl (by simp only [due?, missing, made])⟩
  | @full _ _ acts bound missing made roomed _ full =>
    obtain ⟨store, same⟩ := makeRoom_keeps indexed made
    have counters := m.makeRoom_counters host
    rw [made] at counters
    obtain ⟨counting, spent⟩ := countMapping?_eq_none full
    rw [same] at counting
    rw [show _ = m.counters from counters] at spent
    exact .inl ⟨attempts_of_unanswered roomed.unanswered, rfl, .inr ⟨counting, spent⟩⟩
  | @tried driver room counted older tried _ _ bound missing made roomed journal count tries =>
    have once := tries.once
    obtain ⟨newer, answer, rfl, plain⟩ := tries.asks
    obtain ⟨store, same⟩ := makeRoom_keeps indexed made
    have counters := m.makeRoom_counters host
    rw [made] at counters
    refine .inr ⟨driver, newer, answer, older, room, ?_, ?_, fun counting => ?_, by rw [List.append_assoc]; rfl, made,
      journal⟩
    · simp only [due?, missing, made, bound]
    · rw [attempts_append, attempts_of_unanswered roomed.unanswered, List.append_nil, once]
    · rw [← show room.counters = m.counters from counters]
      exact countMapping?_of_counting count (by rw [same]; exact counting)

/-- An acquisition asks a driver exactly if it finds the page that was not cached, or fails after it has asked. -/
theorem Dealt.count {m : Machine World Driver Probe Page} {gfn : Gfn} {holder : Holder} {outcome : Outcome Lease}
    {acts : List (Act Driver Probe Page)} {after : Cache Driver Probe Page} {counters : Counters}
    (dealt : m.Dealt host gfn holder outcome acts after counters) :
    (attempts acts).length =
      ((m.cache.store.find? gfn).isNone && (Reply.ofAcquired outcome holder).leases).toNat +
        (Reply.ofAcquired outcome holder).unmapped.toNat + (Reply.ofAcquired outcome holder).absent.toNat +
        ((Reply.ofAcquired outcome holder).breaks && !(attempts acts).isEmpty).toNat := by
  cases dealt with
  | unbound | stuck => simp [attempts]
  | @hit _ e _ found =>
    have never := acquireCached_ne_refused host m gfn e holder
    generalize (m.acquireCached host gfn e holder).1 = outcome at never ⊢
    cases outcome with
    | done lease => cases holder <;> simp [found, attempts, Reply.ofAcquired, Reply.ofOutcome]
    | refused e => exact absurd rfl (never e)
    | broken f => simp [attempts]
  | full _ _ _ roomed => simp [attempts_of_unanswered roomed.unanswered]
  | tried _ missing _ roomed _ _ tries =>
    rw [attempts_append, attempts_of_unanswered roomed.unanswered, List.append_nil]
    have once := tries.once
    cases tries with
    | failed | misfit | denied =>
      rw [once]
      simp
    | housed _ _ housed =>
      rw [once]
      cases housed with
      | spent | aliased => simp
      | placed => cases holder <;> simp [missing, Reply.ofAcquired, Reply.ofOutcome]

/-- Without a session there is no driver. -/
theorem Dealt.driver_of_noSession {m : Machine World Driver Probe Page} {gfn : Gfn} {holder : Holder}
    {outcome : Outcome Lease} {acts : List (Act Driver Probe Page)} {after : Cache Driver Probe Page}
    {counters : Counters} (dealt : m.Dealt host gfn holder outcome acts after counters)
    (refused : outcome = .refused .noSession) : m.cache.driver = none := by
  cases dealt with
  | unbound none => exact none
  | hit => exact absurd refused (acquireCached_ne_refused host m gfn _ holder _)
  | stuck | full => cases refused
  | tried _ _ _ _ _ _ tries =>
    cases tries with
    | failed | misfit | denied => cases refused
    | housed _ _ housed => cases housed <;> cases refused

/-- An acquisition breaks off after it has asked a driver if the new page lies at the address of a cached one, or if
there is no recency token for it. -/
theorem Dealt.causes {m : Machine World Driver Probe Page} {gfn : Gfn} {holder : Holder} {outcome : Outcome Lease}
    {acts : List (Act Driver Probe Page)} {after : Cache Driver Probe Page} {counters : Counters} {f : Fault}
    (dealt : m.Dealt host gfn holder outcome acts after counters) (indexed : m.cache.store.Indexed)
    (broken : outcome = .broken f) (asked : attempts acts ≠ []) :
    ∃ driver page newer older, acts = newer ++ .mapped driver gfn .rw (.ok page) :: older ∧
      (f = .handleTaken ∧ (∃ other e, m.cache.store.find? other = some e ∧ e.handle = host.address page) ∨
        f = .additionOverflow ∧ m.cache.clock.toNat + 1 = 2 ^ 64) := by
  cases dealt with
  | unbound | hit | stuck => exact absurd rfl asked
  | full _ _ _ roomed => exact absurd (attempts_of_unanswered roomed.unanswered) asked
  | @tried driver room _ older _ _ _ _ _ made _ _ _ tries =>
    obtain ⟨gfns, same, _⟩ := makeRoom_shrinks indexed made
    cases tries with
    | failed | misfit | denied => cases broken
    | @housed page judged settled _ _ _ _ housed =>
      refine ⟨driver, page, settled ++ judged, older, by rw [List.append_assoc]; rfl, ?_⟩
      cases housed with
      | spent spent =>
        cases broken
        have past : 2 ^ 64 ≤ _ := add64?_eq_none.mp (Option.map_eq_none_iff.mp spent)
        have clock : room.cache.clock = m.cache.clock := by rw [same]
        have below := m.cache.clock.toNat_lt
        have one : (1 : UInt64).toNat = 1 := rfl
        rw [clock, one] at past
        exact .inr ⟨rfl, by omega⟩
      | aliased _ known =>
        cases broken
        rw [same] at known
        have there := Option.isSome_of_eq_some (Store.gfnOf?_of_removeAll known)
        exact .inl ⟨rfl, (indexed.known _).mp there⟩
      | placed => cases broken

end Machine

end ForeignPages
