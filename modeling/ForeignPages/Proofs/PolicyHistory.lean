import ForeignPages.Proofs.Links
import ForeignPages.Proofs.Settings

namespace ForeignPages

variable {World Driver Probe Page : Type} {host : Host World Driver Probe Page}

namespace Moment

/-- The policy that is set explicitly at a moment. -/
def chosen? (host : Host World Driver Probe Page) (t : Moment World Driver Probe Page) : Option Residency :=
  match t.reply host with
  | .misused _ => none
  | _ => t.op.policy?

/-- The policy that the kernel calls for at a moment at which a driver is attached. -/
def selected? (host : Host World Driver Probe Page) (t : Moment World Driver Probe Page) : Option Residency :=
  match t.op, t.reply host with
  | .create driver, _ => driver.map fun _ => host.kernelPolicy (t.session.close host).world
  | .bind _, .nothing => some (host.kernelPolicy t.session.world)
  | _, _ => none

end Moment

/-- What passes when a driver is attached to a cache without a policy, and the policy that results: the release
file of the kernel decides, and whatever is learned from it is logged. -/
def Host.Selects (host : Host World Driver Probe Page) (world : World) (driver : Driver)
    (acts : List (Act Driver Probe Page)) (policy : Residency) : Prop :=
  ∃ version events, KernelVersion.Learned KernelVersion.releasePath (host.release world) version events ∧
    acts = .bound driver :: .told (.policySelected version) :: (events.map .told).reverse ∧
    policy = .forKernel version

/-- The policy that was set explicitly the last time. -/
def lastChosen? (host : Host World Driver Probe Page) (moments : List (Moment World Driver Probe Page)) :
    Option Residency := (sinceCreated moments).findSome? (Moment.chosen? host)

/-- The policy that the kernel called for when the first driver was attached. -/
def firstSelected? (host : Host World Driver Probe Page) (moments : List (Moment World Driver Probe Page)) :
    Option Residency := (sinceCreated moments).reverse.findSome? (Moment.selected? host)

/-- The policy in effect by the history of a cache. -/
def policyOf (host : Host World Driver Probe Page) (moments : List (Moment World Driver Probe Page)) : Residency :=
  ((lastChosen? host moments).or (firstSelected? host moments)).getD .trust

namespace Session

theorem lastChosen?_cons {s : Session World Driver Probe Page} {op : Op World Driver Probe}
    {moments : List (Moment World Driver Probe Page)} (lasts : op.creates = false) :
    lastChosen? host (⟨s, op⟩ :: moments) = (Moment.chosen? host ⟨s, op⟩).or (lastChosen? host moments) := by
  rw [lastChosen?, sinceCreated_cons lasts, List.findSome?_cons]
  cases Moment.chosen? host ⟨s, op⟩ <;> rfl

theorem firstSelected?_cons {s : Session World Driver Probe Page} {op : Op World Driver Probe}
    {moments : List (Moment World Driver Probe Page)} (lasts : op.creates = false) :
    firstSelected? host (⟨s, op⟩ :: moments) =
      (firstSelected? host moments).or (Moment.selected? host ⟨s, op⟩) := by
  rw [firstSelected?, sinceCreated_cons lasts, List.reverse_cons, List.findSome?_append]
  simp [firstSelected?]

/-- An operation that configures nothing neither chooses nor selects. -/
theorem policy_of_kept {s : Session World Driver Probe Page} {op : Op World Driver Probe} {reply : Reply}
    (replied : (s.step host op).1 = reply) (idle : op.configures = false ∨ ∃ misuse, reply = .misused misuse) :
    op.creates = false ∧ Moment.chosen? host ⟨s, op⟩ = none ∧ Moment.selected? host ⟨s, op⟩ = none := by
  unfold Moment.chosen? Moment.selected? Moment.reply
  rw [replied]
  rcases idle with plain | ⟨misuse, rfl⟩
  · cases op with
    | create | bind | setKernel | setPolicy | setCounting => cases plain
    | _ => exact ⟨rfl, by split <;> rfl, rfl⟩
  · cases op with
    | create => cases replied
    | _ => exact ⟨rfl, rfl, rfl⟩

/-- An operation that sets a policy chooses it, and selects none. -/
theorem policy_of_chosen {s : Session World Driver Probe Page} {op : Op World Driver Probe} {reply : Reply}
    {policy : Residency} (replied : (s.step host op).1 = reply) (asks : op.policy? = some policy)
    (accepted : ∀ misuse, reply ≠ .misused misuse) :
    op.creates = false ∧ Moment.chosen? host ⟨s, op⟩ = some policy ∧ Moment.selected? host ⟨s, op⟩ = none := by
  have chosen : Moment.chosen? host ⟨s, op⟩ = some policy := by
    rw [Moment.chosen?, Moment.reply, replied]
    cases reply with
    | misused misuse => exact absurd rfl (accepted misuse)
    | _ => exact asks
  cases op with
  | setKernel | setPolicy => exact ⟨rfl, chosen, rfl⟩
  | _ => cases asks

theorem choices_of_quiet {s : Session World Driver Probe Page} {op : Op World Driver Probe}
    {moments : List (Moment World Driver Probe Page)} (lasts : op.creates = false)
    (unchosen : Moment.chosen? host ⟨s, op⟩ = none) (unselected : Moment.selected? host ⟨s, op⟩ = none) :
    lastChosen? host (⟨s, op⟩ :: moments) = lastChosen? host moments ∧
      firstSelected? host (⟨s, op⟩ :: moments) = firstSelected? host moments := by
  rw [lastChosen?_cons lasts, firstSelected?_cons lasts, unchosen, unselected, Option.none_or, Option.or_none]
  exact ⟨rfl, rfl⟩

theorem entries_of_driverless {c : Cache Driver Probe Page} (empty : c.Driverless) (unbound : c.driver = none) :
    c.store.entries = [] := by
  refine List.eq_nil_iff_forall_not_mem.mpr fun e cached => ?_
  obtain ⟨gfn, found⟩ := Store.mem_entries.mp cached
  cases (empty unbound gfn).symm.trans found

theorem clear_of_driverless {m : Machine World Driver Probe Page} (host : Host World Driver Probe Page)
    (empty : m.cache.Driverless) (unbound : m.cache.driver = none) : (m.clear host).world = m.world := by
  rw [Machine.clear, entries_of_driverless empty unbound]
  rfl

theorem attachment_selects (host : Host World Driver Probe Page) (world : World) (driver : Driver) :
    host.Selects world driver (Cache.attachment host world driver) (host.kernelPolicy world) := by
  refine ⟨_, _, KernelVersion.learned_ofFile (host.release world), rfl, ?_⟩
  rw [Host.kernelPolicy, ← KernelVersion.ofFile_eq_named]

/-- The first driver of a new cache has a policy selected, after the last pages of the previous cache are gone. -/
theorem create_selects (host : Host World Driver Probe Page) (s : Session World Driver Probe Page) (driver : Driver) :
    ∃ acts policy, host.Selects (s.close host).world driver acts policy ∧
      Moment.acts host ⟨s, .create (some driver)⟩ = acts ++ s.farewell ∧
      (s.step host (.create (some driver))).2.cache.bind (·.policy) = some policy := by
  refine ⟨_, _, attachment_selects host _ driver, Moment.acts_eq (s.create_journal driver), ?_⟩
  exact (Machine.bind_settings host ((s.close host).machine (.unbound host)) driver).2.1

/-- The first driver of a cache without a policy has one selected. Nothing is given back before, for there is
no page without a driver. -/
theorem selects_of_bind {s : Session World Driver Probe Page} {driver : Driver} {cache : Cache Driver Probe Page}
    (present : s.cache = some cache) (empty : cache.Driverless) (unbound : cache.driver = none)
    (undecided : cache.policy = none) (replied : (s.step host (.bind driver)).1 = .nothing) : ∃ policy,
    host.Selects s.world driver (Moment.acts host ⟨s, .bind driver⟩) policy ∧
      (s.step host (.bind driver)).2.cache.bind (·.policy) = some policy := by
  have attached : (s.step host (.bind driver)).2 = s.resume ((s.machine cache).bind host driver) := by
    rcases s.step_bind host driver with ⟨_, there, bound⟩ | ⟨_, misused⟩
    · cases present.symm.trans there
      rw [bound]
    · rw [misused] at replied
      cases replied
  have idle : (s.machine cache).cache.store.entries = [] := entries_of_driverless empty unbound
  have same := clear_of_driverless (m := s.machine cache) host empty unbound
  have selection : (s.machine cache).cache.selection host s.world = (Cache.unbound host).selection host s.world := by
    rw [Cache.selection, Cache.selection, show (s.machine cache).cache.policy = none from undecided]
    rfl
  refine ⟨host.kernelPolicy s.world, ?_, ?_⟩
  · have written := Machine.bind_journal host (s.machine cache) driver
    rw [idle, same, show (s.machine cache).world = s.world from rfl, selection,
      show (returns [] : List (Act Driver Probe Page)) = [] from rfl, List.append_nil] at written
    have acts : Moment.acts host ⟨s, .bind driver⟩ = Cache.attachment host s.world driver := by
      refine Moment.acts_eq ?_
      rw [Moment.after, attached]
      exact written
    rw [acts]
    exact attachment_selects host s.world driver
  · obtain ⟨-, policy, -⟩ := Machine.bind_settings host (s.machine cache) driver
    rw [same, show (s.machine cache).cache.policy = none from undecided, Option.none_or] at policy
    rw [attached]
    exact policy

/-- The history of a cache tells its policy, and whether it has a driver. -/
theorem Course.policy_eq {s : Session World Driver Probe Page} {moments : List (Moment World Driver Probe Page)}
    {allowed : Session World Driver Probe Page → Op World Driver Probe → Prop} {world : World}
    {cache : Cache Driver Probe Page} (course : Course host allowed (.start world) moments s)
    (present : s.cache = some cache) :
    cache.policy = (lastChosen? host moments).or (firstSelected? host moments) ∧
      (cache.driver = none ↔ firstSelected? host moments = none) := by
  induction course generalizing cache with
  | start => cases present
  | reorder _ before _ ih =>
    cases present
    have told := ih before
    exact told
  | @step moments s op course _ ih =>
    have tunes := step_tunes host op course.indexed present
    generalize replied : (s.step host op).1 = reply at tunes
    cases tunes with
    | kept before likens idle =>
      obtain ⟨lasts, unchosen, unselected⟩ := policy_of_kept replied idle
      obtain ⟨last, first⟩ := choices_of_quiet lasts unchosen unselected
      rw [last, first, likens.policy, likens.driver]
      exact ih before
    | @created driver _ bound policy _ =>
      have chosen : lastChosen? host (⟨s, .create driver⟩ :: moments) = none := rfl
      have selected : firstSelected? host (⟨s, .create driver⟩ :: moments) =
          driver.map fun _ => host.kernelPolicy (s.close host).world := by
        cases driver <;> rfl
      rw [chosen, selected, Option.none_or, bound, policy, Option.map_eq_none_iff]
      exact ⟨rfl, .rfl⟩
    | @bound driver c _ before attached policy _ =>
      have unchosen : Moment.chosen? host ⟨s, .bind driver⟩ = none := by
        rw [Moment.chosen?, Moment.reply, replied]
        rfl
      have selected : Moment.selected? host ⟨s, .bind driver⟩ = some (host.kernelPolicy s.world) := by
        rw [Moment.selected?, Moment.reply, replied]
      obtain ⟨told, unbound⟩ := ih before
      rw [lastChosen?_cons rfl, firstSelected?_cons rfl, unchosen, selected, Option.none_or, attached, policy, told]
      refine ⟨?_, by simp⟩
      cases earlier : firstSelected? host moments with
      | some first => simp
      | none =>
        -- Without a policy there was no driver, so nothing has happened outside since the session was left.
        obtain ⟨_, reach⟩ := course.reached
        have empty := sustains_of_cache ((Machine.driverless_lasting host).always reach) before
        rw [clear_of_driverless (m := s.machine c) host empty.2 (unbound.mpr earlier)]
        simp [machine]
    | @chosen _ _ c policy before asks accepted =>
      obtain ⟨lasts, chosen, unselected⟩ := policy_of_chosen replied asks accepted
      rw [lastChosen?_cons lasts, firstSelected?_cons lasts, chosen, unselected, Option.or_none]
      exact ⟨rfl, (ih before).2⟩
    | counting counting before =>
      have unchosen : Moment.chosen? host ⟨s, .setCounting counting⟩ = none := by
        rw [Moment.chosen?, Moment.reply, replied]
        rfl
      obtain ⟨last, first⟩ := choices_of_quiet rfl unchosen rfl
      rw [last, first]
      have told := ih before
      exact told

/-- A cache whose policy is undecided has not had a driver yet. -/
theorem Course.bind_selects {s : Session World Driver Probe Page} {moments : List (Moment World Driver Probe Page)}
    {allowed : Session World Driver Probe Page → Op World Driver Probe → Prop} {world : World}
    {cache : Cache Driver Probe Page} {driver : Driver} (course : Course host allowed (.start world) moments s)
    (present : s.cache = some cache) (undecided : cache.policy = none)
    (replied : (s.step host (.bind driver)).1 = .nothing) : ∃ policy,
    host.Selects s.world driver (Moment.acts host ⟨s, .bind driver⟩) policy ∧
      (s.step host (.bind driver)).2.cache.bind (·.policy) = some policy := by
  obtain ⟨told, bound⟩ := course.policy_eq present
  have unselected : firstSelected? host moments = none := (Option.or_eq_none_iff.mp (told.symm.trans undecided)).2
  obtain ⟨_, reach⟩ := course.reached
  have empty := sustains_of_cache ((Machine.driverless_lasting host).always reach) present
  exact selects_of_bind present empty.2 (bound.mpr unselected) undecided replied

/-- The policy in effect is told by the history. -/
theorem Course.residency_eq {s : Session World Driver Probe Page} {moments : List (Moment World Driver Probe Page)}
    {allowed : Session World Driver Probe Page → Op World Driver Probe → Prop} {world : World}
    {cache : Cache Driver Probe Page} (course : Course host allowed (.start world) moments s)
    (present : s.cache = some cache) : cache.residency = policyOf host moments := by
  rw [Cache.residency, (course.policy_eq present).1]
  rfl

end Session

end ForeignPages
