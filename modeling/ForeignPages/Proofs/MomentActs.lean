import ForeignPages.Proofs.Dealings
import ForeignPages.Proofs.HeldPages
import ForeignPages.Proofs.PageContents

namespace ForeignPages

variable {World Driver Probe Page : Type} {host : Host World Driver Probe Page}

/-- What passes at a moment, the newest first. -/
def Moment.acts (host : Host World Driver Probe Page) (t : Moment World Driver Probe Page) :
    List (Act Driver Probe Page) :=
  (t.after host).journal.take ((t.after host).journal.length - t.session.journal.length)

theorem Moment.acts_eq {t : Moment World Driver Probe Page} {acts : List (Act Driver Probe Page)}
    (written : (t.after host).journal = acts ++ t.session.journal) : t.acts host = acts := by
  rw [Moment.acts, written, List.length_append, Nat.add_sub_cancel, List.take_left]

/-- The operation brings a new cache. -/
def Op.creates : Op World Driver Probe → Bool
  | .create _ => true
  | _ => false

/-- The moments since the last cache was created, with the one that created it. -/
def sinceCreated : List (Moment World Driver Probe Page) → List (Moment World Driver Probe Page)
  | [] => []
  | t :: older => if t.op.creates then [t] else t :: sinceCreated older

/-- What is told when a cache without a policy gets one from the release of the kernel. -/
def Cache.selection (host : Host World Driver Probe Page) (c : Cache Driver Probe Page) (world : World) :
    List (Act Driver Probe Page) :=
  match c.policy with
  | some _ => []
  | none => .told (.policySelected (KernelVersion.ofFile (host.release world)).1) ::
      ((KernelVersion.ofFile (host.release world)).2.map .told).reverse

/-- What passes when the cache of a session ends: all of its pages are given back, held or not. -/
def Session.farewell (s : Session World Driver Probe Page) : List (Act Driver Probe Page) :=
  match s.cache with
  | none => []
  | some cache => .told (.destroyed cache.store.entries.length) :: returns cache.store.entries

/-- The page that a handle leads to if only guards hold it, and the number of these guards. -/
def Session.unreferenced? (s : Session World Driver Probe Page) (h : Handle) : Option (Gfn × Nat) :=
  (s.gfnOf? h).bind fun gfn => (s.cached? gfn).bind fun e =>
    if e.refs = 0 ∧ e.guards ≠ 0 then some (gfn, e.guards.toNat) else none

/-- What passes when a handle is released: such a release is told of, and any other is silent. -/
def Session.reproach (s : Session World Driver Probe Page) (h : Handle) : List (Act Driver Probe Page) :=
  match s.unreferenced? h with
  | none => []
  | some (gfn, guards) => [.told (.releasedUnreferenced gfn guards)]

/-- What passes when a new cache gets its first driver. -/
def Cache.attachment (host : Host World Driver Probe Page) (world : World) (driver : Driver) :
    List (Act Driver Probe Page) :=
  .bound driver :: (Cache.unbound host).selection host world

/-- What passes between the cache of a session and its outside while an operation is performed, by the reply
to it. -/
inductive Session.Passes (host : Host World Driver Probe Page) (s : Session World Driver Probe Page) :
    Op World Driver Probe → Reply → List (Act Driver Probe Page) → Prop
  | idle {op : Op World Driver Probe} {reply : Reply} :
      op.acquires? = none ∧ op.releases? = none ∧ op.ends = false ∨ (∃ misuse, reply = .misused misuse) →
      Passes host s op reply []
  | released {h : Handle} {reply : Reply} : Passes host s (.release h) reply (s.reproach h)
  | acquired {op : Op World Driver Probe} {cache after : Cache Driver Probe Page} {gfn : Gfn} {holder : Holder}
      {outcome : Outcome Lease} {acts : List (Act Driver Probe Page)} {counters : Counters} :
      s.cache = some cache → op.acquires? = some (gfn, holder) →
      (s.machine cache).Dealt host gfn holder outcome acts after counters →
      Passes host s op (.ofAcquired outcome holder) acts
  | created (driver : Option Driver) : Passes host s (.create driver) .nothing
      (driver.elim [] (Cache.attachment host (s.close host).world) ++ s.farewell)
  | bound {cache : Cache Driver Probe Page} {driver : Driver} : s.cache = some cache →
      Passes host s (.bind driver) .nothing (.bound driver ::
        cache.selection host ((s.machine cache).clear host).world ++ returns cache.store.entries)
  | discarded : Passes host s .discard .nothing s.farewell
  | consumed {cache : Cache Driver Probe Page} {options : Options} {e : MapError} : s.cache = some cache →
      options.limit < minLimit → Passes host s (.setOptions options) (.refused e) s.farewell

namespace Machine

theorem clear_journal (host : Host World Driver Probe Page) (m : Machine World Driver Probe Page) :
    (m.clear host).journal = returns m.cache.store.entries ++ m.journal := unmapAll_journal _ _

theorem choosePolicy_journal (host : Host World Driver Probe Page) (m : Machine World Driver Probe Page) :
    (m.choosePolicy host).journal = m.cache.selection host m.world ++ m.journal := by
  unfold Cache.selection
  cases chosen : m.cache.policy with
  | some policy => rw [choosePolicy_of_some host chosen, List.nil_append]
  | none => rw [choosePolicy_of_none host chosen]

/-- Pages are given back before a policy is chosen, and the driver is attached last. -/
theorem bind_journal (host : Host World Driver Probe Page) (m : Machine World Driver Probe Page) (driver : Driver) :
    (m.bind host driver).journal =
      .bound driver :: m.cache.selection host (m.clear host).world ++ returns m.cache.store.entries ++ m.journal := by
  have chosen := (m.clear host).choosePolicy_journal host
  have same : (m.clear host).cache.selection host (m.clear host).world =
      m.cache.selection host (m.clear host).world := by
    rw [clear_cache]
    rfl
  rw [clear_journal, same, ← List.append_assoc] at chosen
  exact congrArg (List.cons (.bound driver)) chosen

theorem destroy_journal (host : Host World Driver Probe Page) (m : Machine World Driver Probe Page) :
    (m.destroy host).journal =
      .told (.destroyed m.cache.store.entries.length) :: returns m.cache.store.entries ++ m.journal :=
  congrArg (List.cons _) (m.clear_journal host)

end Machine

namespace Session

theorem sinceCreated_cons {s : Session World Driver Probe Page} {op : Op World Driver Probe}
    {moments : List (Moment World Driver Probe Page)} (lasts : op.creates = false) :
    sinceCreated (⟨s, op⟩ :: moments) = ⟨s, op⟩ :: sinceCreated moments := by
  rw [sinceCreated, lasts, if_neg Bool.false_ne_true]

theorem returns_of_pages {before after : List (Entry Page)} (same : after.map (·.page) = before.map (·.page)) :
    (returns after : List (Act Driver Probe Page)) = returns before := by
  have acts := congrArg (List.map (Act.unmapped : Page → Act Driver Probe Page)) same
  rw [List.map_map, List.map_map] at acts
  exact congrArg List.reverse acts

theorem releaseGuards_pages (live : List Guard) (m : Machine World Driver Probe Page) :
    (live.foldl (fun m g => (m.releaseGuard g.gfn).2) m).journal = m.journal ∧
      (live.foldl (fun m g => (m.releaseGuard g.gfn).2) m).cache.store.entries.map (·.page) =
        m.cache.store.entries.map (·.page) := by
  induction live generalizing m with
  | nil => exact ⟨rfl, rfl⟩
  | cons g rest ih =>
    obtain ⟨journal, pages⟩ := ih (m.releaseGuard g.gfn).2
    exact ⟨journal.trans (m.releaseGuard_journal g.gfn), pages.trans (m.releaseGuard_recounts g.gfn).pages_eq⟩

/-- Guards that are dropped change nothing about which pages there are to give back. -/
theorem close_journal (host : Host World Driver Probe Page) (s : Session World Driver Probe Page) :
    (s.close host).journal = s.farewell ++ s.journal := by
  unfold close dropGuards farewell
  cases present : s.cache with
  | none => rfl
  | some cache =>
    obtain ⟨journal, pages⟩ := releaseGuards_pages s.guards.values (s.machine cache)
    have length := congrArg List.length pages
    rw [List.length_map, List.length_map] at length
    have ended := Machine.destroy_journal host
      (s.guards.values.foldl (fun m g => (m.releaseGuard g.gfn).2) (s.machine cache))
    rw [returns_of_pages pages, journal, length] at ended
    exact ended

/-- A release writes to the journal only what it is reproached with. -/
theorem release_journal_eq {s : Session World Driver Probe Page} {cache : Cache Driver Probe Page}
    (present : s.cache = some cache) (indexed : cache.store.Indexed) (h : Handle) :
    ((s.machine cache).release h).2.journal = s.reproach h ++ s.journal := by
  unfold reproach unreferenced? gfnOf? cached? Machine.release
  rw [present]
  dsimp only [Option.bind_some, machine]
  cases cache.store.gfnOf? h with
  | none => rfl
  | some gfn =>
    dsimp only [Option.bind_some]
    cases found : cache.store.find? gfn with
    | none => rfl
    | some e =>
      dsimp only [Option.bind_some]
      by_cases none : e.refs = 0
      · by_cases unheld : e.guards = 0
        · rw [if_pos none, if_pos unheld, if_neg fun only => only.2 unheld]
          rfl
        · rw [if_pos none, if_neg unheld, if_pos ⟨none, unheld⟩, indexed.keyed gfn e found]
          rfl
      · rw [if_neg none, if_neg fun only => none only.1]
        rfl

theorem acts_of_same {s : Session World Driver Probe Page} {op : Op World Driver Probe}
    (same : (s.step host op).2 = s) : Moment.acts host ⟨s, op⟩ = [] :=
  Moment.acts_eq (congrArg Session.journal same)

theorem step_of_uncreated {s : Session World Driver Probe Page} {op : Op World Driver Probe} {asked : Gfn × Holder}
    (uncreated : s.cache = none) (asks : op.acquires? = some asked) :
    s.step host op = (.misused .noCache, s) := by
  cases op with
  | acquire | get => simp only [step, onCache, get, uncreated]
  | _ => cases asks

theorem acts_of_uncreated {s : Session World Driver Probe Page} {op : Op World Driver Probe} {asked : Gfn × Holder}
    (uncreated : s.cache = none) (asks : op.acquires? = some asked) :
    Moment.acts host ⟨s, op⟩ = [] := acts_of_same (congrArg Prod.snd (step_of_uncreated uncreated asks))

/-- An acquisition as it is seen from the session. Afterwards a guard may be dropped, which had the name of the
new one. -/
theorem step_dealt {s : Session World Driver Probe Page} {op : Op World Driver Probe} {gfn : Gfn}
    (host : Host World Driver Probe Page) {cache : Cache Driver Probe Page} {holder : Holder}
    (present : s.cache = some cache) (indexed : cache.store.Indexed) (asks : op.acquires? = some (gfn, holder)) :
    ∃ outcome after d, (s.machine cache).Dealt host gfn holder outcome (Moment.acts host ⟨s, op⟩) after
        (s.step host op).2.counters ∧
      (s.step host op).1 = .ofAcquired outcome holder ∧ (s.step host op).2.cache = some d ∧ after.Unguards d ∧
      (s.step host op).2.journal = Moment.acts host ⟨s, op⟩ ++ s.journal := by
  suffices ∃ outcome acts after d, (s.machine cache).Dealt host gfn holder outcome acts after
        (s.step host op).2.counters ∧
      (s.step host op).1 = .ofAcquired outcome holder ∧ (s.step host op).2.cache = some d ∧ after.Unguards d ∧
      (s.step host op).2.journal = acts ++ s.journal by
    obtain ⟨outcome, acts, after, d, dealt, reply, left, unguards, journal⟩ := this
    rw [Moment.acts_eq (t := ⟨s, op⟩) journal]
    exact ⟨outcome, after, d, dealt, reply, left, unguards, journal⟩
  obtain ⟨acts, dealt, journal⟩ := Machine.acquire_dealt host (m := s.machine cache) indexed gfn holder
  cases op with
  | acquire =>
    cases asks
    simp only [step, onCache, present]
    exact ⟨_, acts, _, _, dealt, rfl, rfl, .inl rfl, journal⟩
  | get gfn name =>
    cases asks
    simp only [step, get, present]
    cases run : (s.machine cache).acquire host gfn .guard with
    | mk outcome m =>
      rw [run] at dealt journal
      cases outcome with
      | done lease =>
        cases s.guards.find? name with
        | none => exact ⟨_, acts, _, _, dealt, rfl, rfl, .inl rfl, journal⟩
        | some old =>
          rw [← m.releaseGuard_counters old.gfn] at dealt
          exact ⟨.done lease, acts, m.cache, _, dealt, rfl, rfl, m.releaseGuard_unguards old.gfn,
            (m.releaseGuard_journal old.gfn).trans journal⟩
      | refused | broken => exact ⟨_, acts, _, _, dealt, rfl, rfl, .inl rfl, journal⟩
  | _ => cases asks

theorem onCache_journal {s : Session World Driver Probe Page}
    {work : Machine World Driver Probe Page → Reply × Machine World Driver Probe Page}
    (silent : ∀ m, (work m).2.journal = m.journal) : (s.onCache work).2.journal = s.journal := by
  unfold onCache
  split
  · rfl
  · exact silent _

theorem configure_journal {s : Session World Driver Probe Page}
    {work : Machine World Driver Probe Page → Reply × Machine World Driver Probe Page}
    (silent : ∀ m, (work m).2.journal = m.journal) : (s.configure work).2.journal = s.journal := by
  unfold configure
  split
  · exact onCache_journal silent
  · rfl

theorem onGuard_journal {s : Session World Driver Probe Page} {name : String}
    {work : Guard → Machine World Driver Probe Page → Reply × Machine World Driver Probe Page}
    (silent : ∀ g m, (work g m).2.journal = m.journal) : (s.onGuard name work).2.journal = s.journal := by
  unfold onGuard
  split
  · rfl
  · exact onCache_journal (silent _)

theorem dropGuard_journal (s : Session World Driver Probe Page) (name : String) :
    (s.dropGuard name).2.journal = s.journal := by
  unfold dropGuard
  split
  · rfl
  · exact onCache_journal fun m => m.releaseGuard_journal _

/-- A new cache with a driver first ends the previous one. -/
theorem create_journal (s : Session World Driver Probe Page) (driver : Driver) :
    (s.create host (some driver)).journal =
      Cache.attachment host (s.close host).world driver ++ s.farewell ++ s.journal := by
  have attached := Machine.bind_journal host ((s.close host).machine (.unbound host)) driver
  rw [show ((s.close host).machine (.unbound host)).journal = s.farewell ++ s.journal from s.close_journal host,
    List.append_assoc] at attached
  rw [List.append_assoc]
  exact attached

theorem create_passes (s : Session World Driver Probe Page) (driver : Option Driver) :
    ∃ acts, s.Passes host (.create driver) .nothing acts ∧ (s.create host driver).journal = acts ++ s.journal := by
  refine ⟨_, .created driver, ?_⟩
  cases driver with
  | none => exact s.close_journal host
  | some driver => exact s.create_journal driver

/-- What passes when a driver is attached, unless a guard is alive. -/
theorem bind_passes (s : Session World Driver Probe Page) (driver : Driver) :
    ∃ acts, s.Passes host (.bind driver) (s.step host (.bind driver)).1 acts ∧
      (s.step host (.bind driver)).2.journal = acts ++ s.journal := by
  rcases s.step_bind host driver with ⟨cache, present, bound⟩ | ⟨_, misused⟩
  · rw [bound]
    exact ⟨_, .bound present, Machine.bind_journal host (s.machine cache) driver⟩
  · rw [misused]
    exact ⟨[], .idle (.inr ⟨_, rfl⟩), rfl⟩

/-- What passes when options are applied: nothing, unless they are refused and the cache is consumed. -/
theorem setOptions_passes (s : Session World Driver Probe Page) (options : Options) :
    ∃ acts, s.Passes host (.setOptions options) (s.setOptions host options).1 acts ∧
      (s.setOptions host options).2.journal = acts ++ s.journal := by
  unfold setOptions
  split
  · cases present : s.cache with
    | none => exact ⟨[], .idle (.inr ⟨_, rfl⟩), rfl⟩
    | some cache =>
      unfold Machine.withOptions Cache.setLimit
      by_cases small : options.limit < minLimit
      · simp only [if_pos small]
        refine ⟨_, .consumed present small, ?_⟩
        rw [farewell, present]
        exact (s.machine cache).destroy_journal host
      · simp only [if_neg small]
        exact ⟨[], .idle (.inl ⟨rfl, rfl, decide_eq_false small⟩), rfl⟩
  · exact ⟨[], .idle (.inr ⟨_, rfl⟩), rfl⟩

/-- Every operation is one of these cases, so a journal can be told as the story of its moments. -/
theorem step_passes {s : Session World Driver Probe Page} (host : Host World Driver Probe Page)
    (op : Op World Driver Probe) (indexed : ∀ cache, s.cache = some cache → cache.store.Indexed) :
    ∃ acts, s.Passes host op (s.step host op).1 acts ∧ (s.step host op).2.journal = acts ++ s.journal := by
  have silent : op.acquires? = none ∧ op.releases? = none ∧ op.ends = false →
      (s.step host op).2.journal = s.journal →
      ∃ acts, s.Passes host op (s.step host op).1 acts ∧ (s.step host op).2.journal = acts ++ s.journal :=
    fun idle same => ⟨[], .idle (.inl idle), same⟩
  have acquires : ∀ {gfn holder}, op.acquires? = some (gfn, holder) →
      ∃ acts, s.Passes host op (s.step host op).1 acts ∧ (s.step host op).2.journal = acts ++ s.journal := by
    intro gfn holder asks
    cases present : s.cache with
    | none =>
      rw [step_of_uncreated present asks]
      exact ⟨[], .idle (.inr ⟨_, rfl⟩), rfl⟩
    | some cache =>
      obtain ⟨_, _, _, dealt, reply, _, _, journal⟩ := step_dealt host present (indexed cache present) asks
      exact ⟨_, reply ▸ .acquired present asks dealt, journal⟩
  cases op with
  | create driver => exact s.create_passes driver
  | discard => exact ⟨_, .discarded, s.close_journal host⟩
  | bind driver => exact s.bind_passes driver
  | setOptions options => exact s.setOptions_passes options
  | acquire | get => exact acquires rfl
  | release h =>
    refine ⟨_, .released, ?_⟩
    simp only [step, onCache]
    cases present : s.cache with
    | none => simp only [reproach, unreferenced?, gfnOf?, present]; rfl
    | some cache => exact release_journal_eq present (indexed cache present) h
  | setKernel | setPolicy | setProbe => exact silent ⟨rfl, rfl, rfl⟩ (configure_journal fun _ => rfl)
  | setCounting counting => exact silent ⟨rfl, rfl, rfl⟩ (configure_journal fun _ => by cases counting <;> rfl)
  | setLimit limit => exact silent ⟨rfl, rfl, rfl⟩ (onCache_journal fun _ => by split <;> rfl)
  | dropGuard name => exact silent ⟨rfl, rfl, rfl⟩ (s.dropGuard_journal name)
  | read | readWord | readHeader => exact silent ⟨rfl, rfl, rfl⟩ (onGuard_journal fun _ _ => rfl)
  | write | writeWord | writeHeader =>
    exact silent ⟨rfl, rfl, rfl⟩ (onGuard_journal fun g m => (m.write_retuned g _ _).journal)
  | outside change => exact silent ⟨rfl, rfl, rfl⟩ rfl

end Session

theorem Cache.unanswered_selection (host : Host World Driver Probe Page) (c : Cache Driver Probe Page) (world : World) :
    ∀ act ∈ c.selection host world, act.Unanswered := by
  unfold selection
  split
  · exact fun act none => absurd none List.not_mem_nil
  · refine List.forall_mem_cons.mpr ⟨.told _, fun act member => ?_⟩
    obtain ⟨event, _, rfl⟩ := List.mem_map.mp (List.mem_reverse.mp member)
    exact .told event

theorem Session.unanswered_farewell (s : Session World Driver Probe Page) :
    ∀ act ∈ s.farewell, act.Unanswered := by
  unfold farewell
  split
  · exact fun act none => absurd none List.not_mem_nil
  · exact List.forall_mem_cons.mpr ⟨.told _, unanswered_returns _⟩

/-- Drivers and probes are asked in acquisitions only. -/
theorem Session.Passes.unanswered {s : Session World Driver Probe Page} {op : Op World Driver Probe} {reply : Reply}
    {acts : List (Act Driver Probe Page)} (passes : s.Passes host op reply acts) (idle : op.acquires? = none) :
    ∀ act ∈ acts, act.Unanswered := by
  cases passes with
  | idle => exact fun act none => absurd none List.not_mem_nil
  | released =>
    unfold reproach
    split
    · exact fun act none => absurd none List.not_mem_nil
    · exact List.forall_mem_cons.mpr ⟨.told _, fun act none => absurd none List.not_mem_nil⟩
  | acquired _ asks => cases idle.symm.trans asks
  | created driver =>
    refine List.forall_mem_append.mpr ⟨?_, s.unanswered_farewell⟩
    cases driver with
    | none => exact fun act none => absurd none List.not_mem_nil
    | some driver => exact List.forall_mem_cons.mpr ⟨.bound driver, Cache.unanswered_selection host _ _⟩
  | bound =>
    refine List.forall_mem_append.mpr ⟨?_, unanswered_returns _⟩
    exact List.forall_mem_cons.mpr ⟨.bound _, Cache.unanswered_selection host _ _⟩
  | discarded | consumed => exact s.unanswered_farewell

theorem Moment.passes (host : Host World Driver Probe Page) (t : Moment World Driver Probe Page)
    (indexed : ∀ cache, t.session.cache = some cache → cache.store.Indexed) :
    t.session.Passes host t.op (t.reply host) (t.acts host) ∧
      (t.after host).journal = t.acts host ++ t.session.journal := by
  obtain ⟨acts, passes, written⟩ := t.session.step_passes host t.op indexed
  rw [Moment.acts_eq written]
  exact ⟨passes, written⟩

/-- Whatever was done, the two indices of a cache have not come apart. -/
theorem Session.Course.indexed {allowed : Session World Driver Probe Page → Op World Driver Probe → Prop}
    {world : World} {moments : List (Moment World Driver Probe Page)} {s : Session World Driver Probe Page}
    (course : Session.Course host allowed (.start world) moments s) :
    ∀ cache, s.cache = some cache → cache.store.Indexed := by
  obtain ⟨_, reach⟩ := course.reached
  exact fun _ => reach.indexed

end ForeignPages
