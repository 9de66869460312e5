import ForeignPages.Proofs.FailedAcquisition
import ForeignPages.Proofs.PolicyHistory

namespace ForeignPages

variable {World Driver Probe Page : Type} {host : Host World Driver Probe Page}

/-- What a probe is asked: whether memory from an address on is resident, over a number of bytes. -/
def Act.question? : Act Driver Probe Page → Option (Probe × Handle × Nat)
  | .probed probe h size _ => some (probe, h, size)
  | _ => none

/-- The questions that a row of acts put to a probe. -/
def questions (acts : List (Act Driver Probe Page)) : List (Probe × Handle × Nat) := acts.filterMap Act.question?

theorem questions_of_unanswered {acts : List (Act Driver Probe Page)} (unanswered : ∀ act ∈ acts, act.Unanswered) :
    questions acts = [] := by
  refine List.filterMap_eq_nil_iff.mpr fun act member => ?_
  cases unanswered act member <;> rfl

theorem questions_append (newer older : List (Act Driver Probe Page)) :
    questions (newer ++ older) = questions newer ++ questions older := List.filterMap_append

theorem placements_of_unanswered {acts : List (Act Driver Probe Page)} (unanswered : ∀ act ∈ acts, act.Unanswered) :
    placements acts = [] := by
  refine List.filterMap_eq_nil_iff.mpr fun act member => ?_
  cases unanswered act member <;> rfl

theorem placements_append (newer older : List (Act Driver Probe Page)) :
    placements (newer ++ older) = placements newer ++ placements older := List.filterMap_append

/-- A probe answers something else than that memory is resident. -/
def Act.denies : Act Driver Probe Page → Bool
  | .probed _ _ _ (.ok true) => false
  | .probed .. => true
  | _ => false

theorem any_denies_of_unanswered {acts : List (Act Driver Probe Page)} (unanswered : ∀ act ∈ acts, act.Unanswered) :
    acts.any Act.denies = false := by
  refine List.any_eq_false.mpr fun act member => ?_
  cases unanswered act member <;> exact Bool.false_ne_true

/-- The page that a driver maps, and the size that it claims, if the page has that size. -/
def Host.offer? (host : Host World Driver Probe Page) (driver : Driver) (gfn : Gfn) (world : World) :
    Option (Page × Nat) :=
  (host.map driver gfn .rw world).1.toOption.bind fun page =>
    if host.size page (host.map driver gfn .rw world).2 = host.pageSize driver world then
      some (page, host.pageSize driver world)
    else none

theorem Host.Delivers.offer? {driver : Driver} {gfn : Gfn} {world : World} {page : Page}
    (delivers : host.Delivers driver gfn world page) :
    host.offer? driver gfn world = some (page, host.pageSize driver world) := by
  rw [Host.offer?, delivers.1]
  exact if_pos delivers.2

namespace Cache

/-- A page is put to the probe if and only if the policy is to probe. -/
theorem Judged.questions_eq {c : Cache Driver Probe Page} {world : World} {gfn : Gfn} {page : Page} {size : Nat}
    {acts : List (Act Driver Probe Page)} {verdict : Bool} (judged : c.Judged host world gfn page size verdict acts) :
    questions acts = if c.residency = .probe then [(c.probe, host.address page, size)] else [] := by
  cases judged with
  | trusted trust =>
    rw [trust]
    rfl
  | resident probes | denied probes =>
    rw [if_pos probes]
    rfl

theorem Judged.placements_eq {c : Cache Driver Probe Page} {world : World} {gfn : Gfn} {page : Page} {size : Nat}
    {acts : List (Act Driver Probe Page)} {verdict : Bool} (judged : c.Judged host world gfn page size verdict acts) :
    placements acts = [] := by
  cases judged <;> rfl

/-- A verdict is what the probe has answered, if it was asked. -/
theorem Judged.any_denies {c : Cache Driver Probe Page} {world : World} {gfn : Gfn} {page : Page} {size : Nat}
    {acts : List (Act Driver Probe Page)} {verdict : Bool} (judged : c.Judged host world gfn page size verdict acts) :
    acts.any Act.denies = !verdict := by
  cases judged with
  | trusted | resident => rfl
  | @denied answer _ _ different =>
    cases answer with
    | error => rfl
    | ok resident => cases resident with
      | false => rfl
      | true => exact absurd rfl different

theorem Judged.probes_of_denied {c : Cache Driver Probe Page} {world : World} {gfn : Gfn} {page : Page} {size : Nat}
    {acts : List (Act Driver Probe Page)} (judged : c.Judged host world gfn page size false acts) :
    c.residency = .probe := by
  cases judged with
  | denied probes => exact probes

theorem Judged.confirms {c : Cache Driver Probe Page} {world : World} {gfn : Gfn} {page : Page} {size : Nat}
    {acts : List (Act Driver Probe Page)} (judged : c.Judged host world gfn page size true acts)
    (probes : c.residency = .probe) :
    acts = [.probed c.probe (host.address page) size (.ok true)] := by
  cases judged with
  | trusted trust => cases probes.symm.trans trust
  | resident => rfl

/-- An attempt puts the page that it was offered to the probe, under the probing policy. -/
theorem Tried.questions_eq {c after : Cache Driver Probe Page} {world : World} {gfn : Gfn}
    {acts : List (Act Driver Probe Page)} {holder : Holder} {outcome : Outcome Lease} {driver : Driver}
    (tried : c.Tried host world driver gfn holder outcome acts after) :
    questions acts = if c.residency = .probe then
      ((host.offer? driver gfn world).map fun offer => (c.probe, host.address offer.1, offer.2)).toList else [] := by
  cases tried with
  | failed fails =>
    rw [questions_append, questions_of_unanswered (c.unanswered_complaint gfn _), Host.offer?, fails]
    exact (ite_self _).symm
  | misfit answers different =>
    rw [questions_append, questions_of_unanswered (c.unanswered_complaint gfn _), Host.offer?, answers]
    simp only [Except.toOption, Option.bind_some, if_neg different]
    exact (ite_self _).symm
  | denied delivers judged =>
    rw [delivers.offer?]
    have asked := judged.questions_eq
    rw [List.cons_append, ← List.singleton_append, questions_append, questions_append, asked]
    exact List.append_nil _
  | housed delivers judged housed =>
    rw [delivers.offer?, questions_append, questions_append, questions_of_unanswered housed.unanswered,
      judged.questions_eq]
    exact List.append_nil _

/-- The page that an attempt is offered is the one that it maps. -/
theorem Tried.placements_eq {c after : Cache Driver Probe Page} {world : World} {gfn : Gfn} {page : Page} {size : Nat}
    {acts : List (Act Driver Probe Page)} {holder : Holder} {outcome : Outcome Lease} {driver : Driver}
    (tried : c.Tried host world driver gfn holder outcome acts after)
    (offered : host.offer? driver gfn world = some (page, size)) : placements acts = [(gfn, page)] := by
  cases tried with
  | failed fails =>
    rw [Host.offer?, fails] at offered
    cases offered
  | misfit answers different =>
    rw [Host.offer?, answers] at offered
    cases (if_neg different).symm.trans offered
  | denied delivers judged =>
    cases delivers.offer?.symm.trans offered
    have plain := judged.placements_eq
    rw [List.cons_append, ← List.singleton_append, placements_append, placements_append, plain]
    rfl
  | housed delivers judged housed =>
    cases delivers.offer?.symm.trans offered
    rw [placements_append, placements_append, judged.placements_eq, placements_of_unanswered housed.unanswered]
    rfl

/-- An attempt ends with an absent page if and only if the probe does not confirm the page. -/
theorem Tried.refuses_iff {c after : Cache Driver Probe Page} {world : World} {gfn : Gfn}
    {acts : List (Act Driver Probe Page)} {holder : Holder} {outcome : Outcome Lease} {driver : Driver}
    (tried : c.Tried host world driver gfn holder outcome acts after) (other : Gfn) :
    outcome = .refused (.pageNotPresent other) ↔ other = gfn ∧ c.residency = .probe ∧ acts.any Act.denies = true := by
  cases tried with
  | failed =>
    rw [List.any_append, any_denies_of_unanswered (c.unanswered_complaint gfn _)]
    simp [Act.denies]
  | misfit =>
    rw [List.any_append, any_denies_of_unanswered (c.unanswered_complaint gfn _)]
    simp [Act.denies]
  | denied _ judged =>
    rw [List.cons_append, List.any_cons, List.any_append, judged.any_denies]
    simp [judged.probes_of_denied, eq_comm]
  | housed _ judged housed =>
    rw [List.any_append, List.any_append, judged.any_denies, any_denies_of_unanswered housed.unanswered]
    cases housed <;> simp [Act.denies]

end Cache

namespace Machine

/-- The page that a driver maps for an acquisition, and the size that it claims, if the page has that size. -/
def offer? (host : Host World Driver Probe Page) (m : Machine World Driver Probe Page) (gfn : Gfn) :
    Option (Page × Nat) :=
  match m.cache.driver, m.cache.store.find? gfn, m.makeRoom host with
  | some driver, none, (.ok (), room) => room.countMapping?.bind fun counted => host.offer? driver gfn counted.world
  | _, _, _ => none

theorem offer?_of_counted {m : Machine World Driver Probe Page} {gfn : Gfn} {driver : Driver}
    {room counted : Machine World Driver Probe Page} (bound : m.cache.driver = some driver)
    (missing : m.cache.store.find? gfn = none) (made : m.makeRoom host = (.ok (), room))
    (count : room.countMapping? = some counted) :
    m.offer? host gfn = host.offer? driver gfn room.world := by
  simp only [offer?, bound, missing, made, count, Option.bind_some, countMapping?_world count]

/-- Under the probing policy, an acquisition puts the page that it is offered to the probe. -/
theorem Dealt.questions_eq {m : Machine World Driver Probe Page} {gfn : Gfn} {holder : Holder}
    {outcome : Outcome Lease} {acts : List (Act Driver Probe Page)} {after : Cache Driver Probe Page}
    {counters : Counters} (dealt : m.Dealt host gfn holder outcome acts after counters)
    (indexed : m.cache.store.Indexed) :
    questions acts = if m.cache.residency = .probe then
      ((m.offer? host gfn).map fun offer => (m.cache.probe, host.address offer.1, offer.2)).toList else [] := by
  cases dealt with
  | unbound none =>
    simp only [offer?, none]
    exact (ite_self _).symm
  | hit bound found =>
    simp only [offer?, bound, found]
    exact (ite_self _).symm
  | stuck bound missing made =>
    simp only [offer?, bound, missing, made]
    exact (ite_self _).symm
  | full bound missing made roomed _ full =>
    rw [questions_of_unanswered roomed.unanswered]
    simp only [offer?, bound, missing, made, full]
    exact (ite_self _).symm
  | tried bound missing made roomed _ count tried =>
    rw [questions_append, questions_of_unanswered roomed.unanswered, tried.questions_eq, List.append_nil,
      offer?_of_counted bound missing made count]
    obtain ⟨store, same⟩ := makeRoom_keeps indexed made
    rw [same]
    rfl

/-- What is offered to an acquisition is what it maps. -/
theorem Dealt.placements_eq {m : Machine World Driver Probe Page} {gfn : Gfn} {holder : Holder}
    {outcome : Outcome Lease} {acts : List (Act Driver Probe Page)} {after : Cache Driver Probe Page}
    {counters : Counters} {page : Page} {size : Nat} (dealt : m.Dealt host gfn holder outcome acts after counters)
    (offered : m.offer? host gfn = some (page, size)) : placements acts = [(gfn, page)] := by
  cases dealt with
  | unbound none => simp [offer?, none] at offered
  | hit bound found => simp [offer?, bound, found] at offered
  | stuck bound missing made => simp [offer?, bound, missing, made] at offered
  | full bound missing made _ _ full => simp [offer?, bound, missing, made, full] at offered
  | tried bound missing made roomed _ count tried =>
    rw [offer?_of_counted bound missing made count] at offered
    rw [placements_append, placements_of_unanswered roomed.unanswered, tried.placements_eq offered]
    rfl

/-- An acquisition ends with an absent page if and only if a probe was asked that did not confirm the page. -/
theorem Dealt.refuses_iff {m : Machine World Driver Probe Page} {gfn : Gfn} {holder : Holder}
    {outcome : Outcome Lease} {acts : List (Act Driver Probe Page)} {after : Cache Driver Probe Page}
    {counters : Counters} (dealt : m.Dealt host gfn holder outcome acts after counters)
    (indexed : m.cache.store.Indexed) (other : Gfn) :
    outcome = .refused (.pageNotPresent other) ↔
      other = gfn ∧ m.cache.residency = .probe ∧ acts.any Act.denies = true := by
  cases dealt with
  | unbound => simp
  | hit => simp [acquireCached_ne_refused]
  | stuck => simp
  | full _ _ _ roomed => simp [any_denies_of_unanswered roomed.unanswered]
  | tried _ _ made roomed _ _ tried =>
    obtain ⟨store, same⟩ := makeRoom_keeps indexed made
    rw [List.any_append, any_denies_of_unanswered roomed.unanswered, Bool.or_false, tried.refuses_iff, same]
    rfl

/-- A page that is not confirmed is given back, and the cache is left as it was when there was room. -/
theorem Dealt.turns_away {m : Machine World Driver Probe Page} {gfn : Gfn} {holder : Holder}
    {acts : List (Act Driver Probe Page)} {after : Cache Driver Probe Page} {counters : Counters}
    (dealt : m.Dealt host gfn holder (.refused (.pageNotPresent gfn)) acts after counters)
    (indexed : m.cache.store.Indexed) :
    m.cache.store.find? gfn = none ∧ m.cache.Shrinks after ∧ ∃ driver page size answer room,
      m.cache.driver = some driver ∧ m.offer? host gfn = some (page, size) ∧ m.cache.Roomed room ∧
      answer ≠ .ok true ∧ acts = .unmapped page :: .told (denial gfn answer) ::
        .probed m.cache.probe (host.address page) size answer :: .mapped driver gfn .rw (.ok page) :: room := by
  generalize ended : Outcome.refused (.pageNotPresent gfn) = outcome at dealt
  cases dealt with
  | unbound => cases ended
  | hit => exact absurd ended.symm (acquireCached_ne_refused _ _ _ _ _ _)
  | stuck => cases ended
  | full => cases ended
  | tried bound missing made roomed _ count tried =>
    obtain ⟨store, same⟩ := makeRoom_keeps indexed made
    have shrinks := makeRoom_shrinks indexed made
    cases tried with
    | failed => cases ended
    | misfit => cases ended
    | @denied page _ delivers judged =>
      have offers := (offer?_of_counted bound missing made count).trans delivers.offer?
      cases judged with
      | denied _ _ different =>
        refine ⟨missing, shrinks, _, page, _, _, _, bound, offers, roomed, different, ?_⟩
        rw [same]
        rfl
    | housed _ _ housed => cases housed <;> cases ended

/-- A page that was not cached and is cached afterwards was offered, and was confirmed if it had to be. -/
theorem Dealt.houses {m : Machine World Driver Probe Page} {gfn : Gfn} {holder : Holder} {outcome : Outcome Lease}
    {acts : List (Act Driver Probe Page)} {after : Cache Driver Probe Page} {counters : Counters} {d : Entry Page}
    (dealt : m.Dealt host gfn holder outcome acts after counters) (indexed : m.cache.store.Indexed)
    (missing : m.cache.store.find? gfn = none) (found : after.store.find? gfn = some d) :
    ∃ size, m.offer? host gfn = some (d.page, size) ∧ (m.cache.residency = .probe → ∃ driver room,
      acts = .told (.pageMapped gfn (host.address d.page)) ::
        .probed m.cache.probe (host.address d.page) size (.ok true) ::
        .mapped driver gfn .rw (.ok d.page) :: room) := by
  cases dealt with
  | unbound | stuck => cases missing.symm.trans found
  | hit _ there => cases missing.symm.trans there
  | full _ _ made => cases ((makeRoom_shrinks indexed made).find?_of_missing missing).symm.trans found
  | @tried driver _ _ earlier _ _ _ bound _ made _ _ count tried =>
    have absent := (makeRoom_shrinks indexed made).find?_of_missing missing
    cases tried with
    | failed | misfit | denied => cases absent.symm.trans found
    | @housed page judged _ _ _ delivers judges housed =>
      have offers := (offer?_of_counted bound missing made count).trans delivers.offer?
      cases housed with
      | spent => cases absent.symm.trans found
      | aliased _ known => cases ((Store.find?_insert_of_known known gfn).trans absent).symm.trans found
      | @placed token _ _ unknown =>
        have placed := Store.find?_insert_of_new (e := firstEntry host gfn page token holder) unknown gfn
        cases (placed.trans (if_pos rfl)).symm.trans found
        refine ⟨_, offers, fun probes => ⟨driver, earlier, ?_⟩⟩
        obtain ⟨store, same⟩ := makeRoom_keeps indexed made
        rw [same] at judges
        rw [judges.confirms probes]
        rfl

end Machine

namespace Moment

/-- The page that a driver maps for an acquisition, and the size that it claims, if the page has that size. -/
def offer? (host : Host World Driver Probe Page) (t : Moment World Driver Probe Page) : Option (Page × Nat) :=
  match t.session.cache, t.op.acquires? with
  | some cache, some (gfn, _) => (t.session.machine cache).offer? host gfn
  | _, _ => none

end Moment

namespace Session

/-- What an acquisition leaves behind whose page was not confirmed. -/
structure TurnsAway (host : Host World Driver Probe Page) (s : Session World Driver Probe Page)
    (op : Op World Driver Probe) (gfn : Gfn) : Prop where
  /-- The page that was mapped is given back as soon as the probe has answered. -/
  returned : ∃ cache driver page size answer room, s.cache = some cache ∧ cache.driver = some driver ∧
    Moment.offer? host ⟨s, op⟩ = some (page, size) ∧ cache.Roomed room ∧ answer ≠ .ok true ∧
    Moment.acts host ⟨s, op⟩ = .unmapped page :: .told (denial gfn answer) ::
      .probed cache.probe (host.address page) size answer :: .mapped driver gfn .rw (.ok page) :: room
  absent : s.cached? gfn = none ∧ (s.step host op).2.cached? gfn = none
  /-- No handle leads anywhere that did not lead there before. -/
  handles : ∀ h other, (s.step host op).2.gfnOf? h = some other → s.gfnOf? h = some other
  /-- No page was used, and none has another reference. -/
  pages : ∀ other e, (s.step host op).2.cached? other = some e → s.cached? other = some e
  clock : ((s.step host op).2.cache.map (·.clock)) = s.cache.map (·.clock)
  guards : (s.step host op).2.guards = s.guards

/-- What the residency policy means for a cache and the next operation on it. -/
structure Gated (host : Host World Driver Probe Page) (moments : List (Moment World Driver Probe Page))
    (s : Session World Driver Probe Page) : Prop where
  policy : ∀ cache, s.cache = some cache → cache.residency = policyOf host moments
  /-- Without a policy, the driver that is attached has one selected by the release file of the kernel. -/
  selected : ∀ cache driver, s.cache = some cache → cache.policy = none → (s.step host (.bind driver)).1 = .nothing →
    ∃ policy, host.Selects s.world driver (Moment.acts host ⟨s, .bind driver⟩) policy ∧
      (s.step host (.bind driver)).2.cache.bind (·.policy) = some policy
  /-- So has the driver that a new cache starts with, once the previous cache is gone. -/
  started : ∀ driver, ∃ acts policy, host.Selects (s.close host).world driver acts policy ∧
    Moment.acts host ⟨s, .create (some driver)⟩ = acts ++ s.farewell ∧
    (s.step host (.create (some driver))).2.cache.bind (·.policy) = some policy
  /-- The probe is asked once for each page of the right size that is mapped while the policy is to probe, and
  for nothing else. -/
  asked : ∀ op, questions (Moment.acts host ⟨s, op⟩) = if policyOf host moments = .probe then
    (s.cache.bind fun cache => (Moment.offer? host ⟨s, op⟩).map fun offer =>
      (cache.probe, host.address offer.1, offer.2)).toList else []
  /-- The page that is offered is the one that is mapped, and no other is. -/
  offered : ∀ op gfn holder page size, op.acquires? = some (gfn, holder) →
    Moment.offer? host ⟨s, op⟩ = some (page, size) → placements (Moment.acts host ⟨s, op⟩) = [(gfn, page)]
  /-- A cached page stems from a mapping which was confirmed if the policy was to probe, and has stayed cached
  since then. -/
  confirmed : ∀ gfn e, s.cached? gfn = some e → ∃ newer t older holder size, moments = newer ++ t :: older ∧
    (∀ u ∈ newer, (u.session.cached? gfn).map (·.page) = some e.page) ∧
    t.op.acquires? = some (gfn, holder) ∧ t.session.cached? gfn = none ∧ t.offer? host = some (e.page, size) ∧
    (policyOf host older = .probe → ∃ driver probe room, t.acts host = .told (.pageMapped gfn (host.address e.page)) ::
      .probed probe (host.address e.page) size (.ok true) :: .mapped driver gfn .rw (.ok e.page) :: room)
  /-- A page is reported absent if and only if the probe was asked and did not confirm it. -/
  refuses : ∀ op gfn holder, op.acquires? = some (gfn, holder) → ∀ other,
    ((s.step host op).1 = .refused (.pageNotPresent other) ↔ other = gfn ∧ policyOf host moments = .probe ∧
      (Moment.acts host ⟨s, op⟩).any Act.denies = true)
  turns_away : ∀ op gfn holder, op.acquires? = some (gfn, holder) →
    (s.step host op).1 = .refused (.pageNotPresent gfn) → s.TurnsAway host op gfn

/-- At every moment the probe is asked for the offered page under the policy in effect, and for nothing else. -/
theorem asked_of_policy {s : Session World Driver Probe Page} {policy : Residency}
    (indexed : ∀ cache, s.cache = some cache → cache.store.Indexed)
    (inEffect : ∀ cache, s.cache = some cache → cache.residency = policy) (op : Op World Driver Probe) :
    questions (Moment.acts host ⟨s, op⟩) = if policy = .probe then
      (s.cache.bind fun cache => (Moment.offer? host ⟨s, op⟩).map fun offer =>
        (cache.probe, host.address offer.1, offer.2)).toList else [] := by
  unfold Moment.offer?
  cases asks : op.acquires? with
  | none =>
    rw [questions_of_unanswered ((Moment.passes host ⟨s, op⟩ indexed).1.unanswered asks)]
    cases s.cache <;> exact (ite_self _).symm
  | some asked =>
    cases present : s.cache with
    | none =>
      rw [acts_of_uncreated present asks]
      exact (ite_self _).symm
    | some cache =>
      obtain ⟨_, _, _, dealt, _⟩ := step_dealt host present (indexed cache present) asks
      rw [dealt.questions_eq (indexed cache present), ← inEffect cache present]
      rfl

/-- At every moment the page that is offered is the one that is mapped. -/
theorem placements_of_offered {s : Session World Driver Probe Page} {op : Op World Driver Probe} {gfn : Gfn}
    {holder : Holder} {page : Page} {size : Nat} (indexed : ∀ cache, s.cache = some cache → cache.store.Indexed)
    (asks : op.acquires? = some (gfn, holder)) (offered : Moment.offer? host ⟨s, op⟩ = some (page, size)) :
    placements (Moment.acts host ⟨s, op⟩) = [(gfn, page)] := by
  unfold Moment.offer? at offered
  cases present : s.cache with
  | none => simp [present] at offered
  | some cache =>
    obtain ⟨_, _, _, dealt, _⟩ := step_dealt host present (indexed cache present) asks
    simp only [present, asks] at offered
    exact dealt.placements_eq offered

/-- A page is reported absent exactly if a probe was asked and did not confirm it. -/
theorem refuses_of_policy {s : Session World Driver Probe Page} {op : Op World Driver Probe} {gfn : Gfn}
    {holder : Holder} {policy : Residency} (indexed : ∀ cache, s.cache = some cache → cache.store.Indexed)
    (inEffect : ∀ cache, s.cache = some cache → cache.residency = policy) (asks : op.acquires? = some (gfn, holder))
    (other : Gfn) : (s.step host op).1 = .refused (.pageNotPresent other) ↔
      other = gfn ∧ policy = .probe ∧ (Moment.acts host ⟨s, op⟩).any Act.denies = true := by
  cases present : s.cache with
  | none =>
    rw [acts_of_uncreated present asks, step_of_uncreated present asks]
    simp
  | some cache =>
    obtain ⟨_, _, _, dealt, reply, _⟩ := step_dealt host present (indexed cache present) asks
    rw [reply, Reply.ofAcquired_refused, dealt.refuses_iff (indexed cache present), ← inEffect cache present]
    rfl

/-- A page that is turned away has left no trace in the cache. -/
theorem turnsAway_of_refused {s : Session World Driver Probe Page} {op : Op World Driver Probe} {gfn : Gfn}
    {holder : Holder} (indexed : ∀ cache, s.cache = some cache → cache.store.Indexed)
    (asks : op.acquires? = some (gfn, holder)) (refused : (s.step host op).1 = .refused (.pageNotPresent gfn)) :
    s.TurnsAway host op gfn := by
  have failed : (s.step host op).1.failed = true := by rw [refused]; rfl
  obtain ⟨cache, present⟩ := cache_of_failed asks failed
  obtain ⟨_, resumed⟩ := step_of_failed present asks failed
  obtain ⟨acts, dealt, journal⟩ := Machine.acquire_dealt host (m := s.machine cache) (indexed cache present) gfn holder
  have written : Moment.acts host ⟨s, op⟩ = acts := by
    refine Moment.acts_eq (t := ⟨s, op⟩) ?_
    rw [Moment.after, resumed]
    exact journal
  rw [resumed, Reply.ofAcquired_refused] at refused
  rw [refused] at dealt
  obtain ⟨missing, shrinks, driver, page, size, answer, room, bound, offers, roomed, different, told⟩ :=
    dealt.turns_away (indexed cache present)
  have left : (s.step host op).2.cache = some ((s.machine cache).acquire host gfn holder).2.cache := by
    rw [resumed]
    rfl
  refine ⟨⟨cache, driver, page, size, answer, room, present, bound, ?_, roomed, different, written.trans told⟩,
    ⟨?_, ?_⟩, ?_, ?_, ?_, ?_⟩
  · rw [Moment.offer?, present, asks]
    exact offers
  · rw [cached?, present]
    exact missing
  · rw [cached?, left]
    exact shrinks.find?_of_missing missing
  · intro h other leads
    rw [gfnOf?, left] at leads
    rw [gfnOf?, present]
    obtain ⟨gfns, same, _⟩ := shrinks
    rw [same] at leads
    exact Store.gfnOf?_of_removeAll leads
  · intro other e found
    rw [cached?, left] at found
    rw [cached?, present]
    exact shrinks.found_before found
  · rw [left, present]
    obtain ⟨gfns, same, _⟩ := shrinks
    rw [same]
    rfl
  · rw [resumed]
    rfl

/-- A cached page stems from a mapping that was judged by the policy of its time. -/
theorem Course.confirmed {s : Session World Driver Probe Page} {gfn : Gfn}
    {moments : List (Moment World Driver Probe Page)}
    {allowed : Session World Driver Probe Page → Op World Driver Probe → Prop} {world : World} {e : Entry Page}
    (course : Course host allowed (.start world) moments s) (found : s.cached? gfn = some e) :
    ∃ newer t older holder size, moments = newer ++ t :: older ∧
      (∀ u ∈ newer, (u.session.cached? gfn).map (·.page) = some e.page) ∧
      t.op.acquires? = some (gfn, holder) ∧ t.session.cached? gfn = none ∧ t.offer? host = some (e.page, size) ∧
      (policyOf host older = .probe → ∃ driver probe room,
        t.acts host = .told (.pageMapped gfn (host.address e.page)) ::
          .probed probe (host.address e.page) size (.ok true) :: .mapped driver gfn .rw (.ok e.page) :: room) := by
  induction course generalizing e with
  | start => cases found
  | reorder _ present same ih =>
    refine ih ?_
    rw [cached?, present]
    exact (same.find?_eq gfn).symm.trans found
  | @step moments s op course _ ih =>
    -- The moment that is looked for is this one if the page was missing before it, and an older one if not.
    cases before : s.cached? gfn with
    | some old =>
      have page := step_page course.indexed before found
      obtain ⟨newer, t, older, holder, size, split, kept, rest⟩ := ih before
      rw [← page] at kept rest
      refine ⟨⟨s, op⟩ :: newer, t, older, holder, size, congrArg _ split, ?_, rest⟩
      refine List.forall_mem_cons.mpr ⟨?_, kept⟩
      rw [before, page]
      rfl
    | none =>
      obtain ⟨cache, holder, _, present, asks, _⟩ := step_maps course.indexed before found
      have indexed := course.indexed cache present
      obtain ⟨_, after, d, dealt, _, left, unguards, _⟩ := step_dealt host present indexed asks
      rw [cached?, left] at found
      have missing : cache.store.find? gfn = none := by rwa [cached?, present] at before
      obtain ⟨e', there, page⟩ := unguards.recounts.page_before found
      obtain ⟨size, offers, confirms⟩ := dealt.houses indexed missing there
      rw [page] at offers confirms
      refine ⟨[], ⟨s, op⟩, moments, holder, size, rfl, fun u none => absurd none List.not_mem_nil, asks, before, ?_,
        fun probes => ?_⟩
      · rw [Moment.offer?, present, asks]
        exact offers
      · obtain ⟨driver, room, told⟩ := confirms ((course.residency_eq present).trans probes)
        exact ⟨driver, _, room, told⟩

end Session

/-- Whatever policies are set and whatever drivers are attached in which order, no page passes the gate
unconfirmed, and none is probed without need. -/
theorem Session.Course.gated {allowed : Session World Driver Probe Page → Op World Driver Probe → Prop}
    {world : World} {moments : List (Moment World Driver Probe Page)} {s : Session World Driver Probe Page}
    (course : Session.Course host allowed (.start world) moments s) :
    s.Gated host moments where
  policy _ := course.residency_eq
  selected _ _ := course.bind_selects
  started := create_selects host s
  asked := asked_of_policy course.indexed fun _ => course.residency_eq
  offered _ _ _ _ _ := placements_of_offered course.indexed
  confirmed _ _ := course.confirmed
  refuses _ _ _ := refuses_of_policy course.indexed fun _ => course.residency_eq
  turns_away _ _ _ := turnsAway_of_refused course.indexed

/-- An outside in which every other page is not resident. -/
def patchy : Host Nat Unit Unit Nat :=
  { shelf with probe := fun _ h _ mapped => (.ok (h.address % 8192 != 0), mapped) }

/-- A run that begins without a policy, then probes, and at last trusts its pages. The driver that is attached
in between leaves the policy alone. -/
def policiesInTurn : List (Op Nat Unit Unit) :=
  [.create none, .setKernel (some ⟨3, 10⟩), .bind (), .acquire ⟨1⟩, .acquire ⟨2⟩, .bind (), .get ⟨2⟩ "guard",
    .acquire ⟨2⟩, .setPolicy .trust, .dropGuard "guard", .setPolicy .trust, .acquire ⟨1⟩]

/-- The page of number 2 is mapped twice before it is confirmed, and the last page is not probed. -/
theorem gated_policiesInTurn :
    questions (Session.run patchy (.start 0) policiesInTurn).journal =
        [((), ⟨12288⟩, 4096), ((), ⟨8192⟩, 4096), ((), ⟨4096⟩, 4096)] ∧
      (Session.run patchy (.start 0) policiesInTurn).Gated patchy
        ((Session.start 0).moments patchy policiesInTurn) := by
  have permitted : (Session.start 0).Permits patchy (fun _ _ => True) policiesInTurn := by decide
  exact ⟨by decide +kernel, Session.Course.gated permitted.course⟩

end ForeignPages
