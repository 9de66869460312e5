import ForeignPages.Proofs.MomentActs
import ForeignPages.Proofs.ReleaseFile

namespace ForeignPages

variable {World Driver Probe Page : Type} {host : Host World Driver Probe Page}

/-- The policy that the release of the kernel calls for, by the version that its file names. -/
def Host.kernelPolicy (host : Host World Driver Probe Page) (world : World) : Residency :=
  .forKernel (KernelVersion.named? (host.release world))

/-- Operations that set a driver, a policy or a table of counters. -/
def Op.configures : Op World Driver Probe → Bool
  | .create _ | .bind _ | .setKernel _ | .setPolicy _ | .setCounting _ => true
  | _ => false

/-- The policy that an operation asks for. -/
def Op.policy? : Op World Driver Probe → Option Residency
  | .setKernel version => some (.forKernel version)
  | .setPolicy policy => some policy
  | _ => none

namespace Cache

/-- The driver, the policy and the counting are those of another cache. -/
structure Likens (c d : Cache Driver Probe Page) : Prop where
  driver : d.driver = c.driver
  policy : d.policy = c.policy
  counting : d.counting = c.counting

theorem Likens.refl (c : Cache Driver Probe Page) : c.Likens c := ⟨rfl, rfl, rfl⟩

theorem Likens.trans {c d e : Cache Driver Probe Page} (first : c.Likens d) (second : d.Likens e) : c.Likens e :=
  ⟨second.driver.trans first.driver, second.policy.trans first.policy, second.counting.trans first.counting⟩

theorem Recounts.likens {c d : Cache Driver Probe Page} (recounts : c.Recounts d) : c.Likens d := by
  rcases recounts with rfl | ⟨_, _, rfl, _⟩ <;> exact ⟨rfl, rfl, rfl⟩

end Cache

/-- What an operation does to the settings of a cache, by the reply to it. -/
inductive Session.Tunes (host : Host World Driver Probe Page) (s : Session World Driver Probe Page) :
    Op World Driver Probe → Reply → Cache Driver Probe Page → Prop
  | kept {op : Op World Driver Probe} {reply : Reply} {c d : Cache Driver Probe Page} : s.cache = some c → c.Likens d →
      op.configures = false ∨ (∃ misuse, reply = .misused misuse) → Tunes host s op reply d
  | created {driver : Option Driver} {d : Cache Driver Probe Page} : d.driver = driver →
      d.policy = driver.map (fun _ => host.kernelPolicy (s.close host).world) → d.counting = false →
      Tunes host s (.create driver) .nothing d
  /-- A driver chooses a policy only for a cache that has none. -/
  | bound {driver : Driver} {c d : Cache Driver Probe Page} : s.cache = some c → d.driver = some driver →
      d.policy = c.policy.or (some (host.kernelPolicy ((s.machine c).clear host).world)) → d.counting = c.counting →
      Tunes host s (.bind driver) .nothing d
  | chosen {op : Op World Driver Probe} {reply : Reply} {c : Cache Driver Probe Page} {policy : Residency} :
      s.cache = some c → op.policy? = some policy → (∀ misuse, reply ≠ .misused misuse) →
      Tunes host s op reply { c with policy := some policy }
  | counting {c : Cache Driver Probe Page} (counting : Bool) : s.cache = some c →
      Tunes host s (.setCounting counting) .nothing { c with counting }

namespace Machine

theorem Acquired.likens {m : Machine World Driver Probe Page} {gfn : Gfn} {holder : Holder} {outcome : Outcome Lease}
    {cache : Cache Driver Probe Page} (acquired : m.Acquired host gfn holder outcome cache)
    (indexed : m.cache.store.Indexed) : m.cache.Likens cache := by
  obtain ⟨_, _, rfl⟩ := acquired.settings indexed
  exact ⟨rfl, rfl, rfl⟩

/-- A bind sets the driver, keeps the policy chosen earlier or else takes the kernel's, and keeps the counting. -/
theorem bind_settings (host : Host World Driver Probe Page) (m : Machine World Driver Probe Page) (driver : Driver) :
    (m.bind host driver).cache.driver = some driver ∧
      (m.bind host driver).cache.policy = m.cache.policy.or (some (host.kernelPolicy (m.clear host).world)) ∧
      (m.bind host driver).cache.counting = m.cache.counting := by
  have cleared : (m.clear host).cache.Likens m.cache := by
    rw [clear_cache]
    exact ⟨rfl, rfl, rfl⟩
  have chosen := (m.clear host).choosePolicy_cache host
  refine ⟨rfl, (congrArg Cache.policy chosen).trans ?_, (congrArg Cache.counting chosen).trans cleared.counting.symm⟩
  rw [← cleared.policy, Host.kernelPolicy, ← KernelVersion.ofFile_eq_named]

end Machine

namespace Session

theorem Tunes.onCache {s : Session World Driver Probe Page} {op : Op World Driver Probe} {d : Cache Driver Probe Page}
    {work : Machine World Driver Probe Page → Reply × Machine World Driver Probe Page}
    (left : (s.onCache work).2.cache = some d)
    (works : ∀ cache, s.cache = some cache →
      s.Tunes host op (work (s.machine cache)).1 (work (s.machine cache)).2.cache) :
    s.Tunes host op (s.onCache work).1 d := by
  unfold Session.onCache at left ⊢
  split at left
  · next none => cases none.symm.trans left
  · next cache present =>
    cases left
    exact works cache present

/-- A setting changes the cache it finds, or is refused and changes nothing. -/
theorem Tunes.configure {s : Session World Driver Probe Page} {op : Op World Driver Probe}
    {d : Cache Driver Probe Page} {work : Machine World Driver Probe Page → Reply × Machine World Driver Probe Page}
    (left : (s.configure work).2.cache = some d)
    (works : ∀ cache, s.cache = some cache →
      s.Tunes host op (work (s.machine cache)).1 (work (s.machine cache)).2.cache) :
    s.Tunes host op (s.configure work).1 d := by
  unfold Session.configure at left ⊢
  split at left
  · next unguarded =>
    rw [if_pos unguarded]
    exact .onCache left works
  · next guarded =>
    rw [if_neg guarded]
    exact .kept left (.refl d) (.inr ⟨_, rfl⟩)

theorem Tunes.onGuard {s : Session World Driver Probe Page} {op : Op World Driver Probe} {d : Cache Driver Probe Page}
    {name : String} {work : Guard → Machine World Driver Probe Page → Reply × Machine World Driver Probe Page}
    (left : (s.onGuard name work).2.cache = some d) (idle : op.configures = false)
    (keeps : ∀ g m, (work g m).2.cache = m.cache) : s.Tunes host op (s.onGuard name work).1 d := by
  unfold Session.onGuard at left ⊢
  split at left
  · next missing =>
    exact .kept left (.refl d) (.inl idle)
  · next g taken =>
    refine .onCache left fun cache present => .kept present ?_ (.inl idle)
    rw [keeps]
    exact .refl cache

theorem create_tunes (s : Session World Driver Probe Page) (driver : Option Driver) {d : Cache Driver Probe Page}
    (left : (s.create host driver).cache = some d) : s.Tunes host (.create driver) .nothing d := by
  cases driver with
  | none =>
    cases left
    exact .created rfl rfl rfl
  | some driver =>
    cases left
    obtain ⟨bound, policy, counting⟩ := Machine.bind_settings host ((s.close host).machine (.unbound host)) driver
    exact .created bound policy counting

theorem setOptions_tunes (s : Session World Driver Probe Page) (options : Options) {d : Cache Driver Probe Page}
    (left : (s.setOptions host options).2.cache = some d) :
    s.Tunes host (.setOptions options) (s.setOptions host options).1 d := by
  unfold setOptions at left ⊢
  by_cases unguarded : s.guards.size = 0
  · simp only [if_pos unguarded] at left ⊢
    cases present : s.cache with
    | none => simp [present] at left
    | some cache =>
      simp only [present, Machine.withOptions, Cache.setLimit] at left ⊢
      by_cases small : options.limit < minLimit
      · simp only [if_pos small] at left
        cases left
      · simp only [if_neg small] at left ⊢
        cases left
        exact .kept present ⟨rfl, rfl, rfl⟩ (.inl rfl)
  · simp only [if_neg unguarded] at left ⊢
    exact .kept left (.refl d) (.inl rfl)

theorem dropGuard_tunes (s : Session World Driver Probe Page) (name : String) {d : Cache Driver Probe Page}
    (left : (s.dropGuard name).2.cache = some d) :
    s.Tunes host (.dropGuard name) (s.dropGuard name).1 d := by
  unfold dropGuard at left ⊢
  cases taken : s.guards.find? name with
  | none =>
    simp only [taken] at left ⊢
    exact .kept left (.refl d) (.inl rfl)
  | some g =>
    simp only [taken, onCache] at left ⊢
    cases present : s.cache with
    | none => simp [present] at left
    | some cache =>
      simp only [present] at left
      cases left
      exact .kept present ((s.machine cache).releaseGuard_recounts g.gfn).likens (.inl rfl)

/-- An acquisition changes no setting, whatever it answers. -/
theorem acquires_tunes {s : Session World Driver Probe Page} {op : Op World Driver Probe}
    {d : Cache Driver Probe Page} {asked : Gfn × Holder} (asks : op.acquires? = some asked)
    (indexed : ∀ cache, s.cache = some cache → cache.store.Indexed) (left : (s.step host op).2.cache = some d) :
    s.Tunes host op (s.step host op).1 d := by
  have idle : op.configures = false := by
    cases op with
    | acquire | get => rfl
    | _ => cases asks
  cases present : s.cache with
  | none =>
    have misused : s.step host op = (.misused .noCache, s) := step_of_uncreated present asks
    rw [misused] at left
    cases present.symm.trans left
  | some cache =>
    obtain ⟨after, left', unguards, _⟩ := step_acquires host present asks
    cases left.symm.trans left'
    have acquired := Machine.acquire_acquired host (m := s.machine cache) (indexed cache present) asked.1 asked.2
    exact .kept present ((acquired.likens (indexed cache present)).trans unguards.recounts.likens) (.inl idle)

/-- Whatever cache an operation leaves behind, its settings came about in one of these ways. -/
theorem step_tunes {s : Session World Driver Probe Page} {d : Cache Driver Probe Page}
    (host : Host World Driver Probe Page) (op : Op World Driver Probe)
    (indexed : ∀ cache, s.cache = some cache → cache.store.Indexed) (left : (s.step host op).2.cache = some d) :
    s.Tunes host op (s.step host op).1 d := by
  cases op with
  | create driver => exact s.create_tunes driver left
  | discard => cases (s.close_cache host).symm.trans left
  | bind driver =>
    refine .configure left fun cache present => ?_
    obtain ⟨bound, policy, counting⟩ := Machine.bind_settings host (s.machine cache) driver
    exact .bound present bound policy counting
  | setKernel | setPolicy => exact .configure left fun cache present => .chosen present rfl nofun
  | setProbe => exact .configure left fun cache present => .kept present ⟨rfl, rfl, rfl⟩ (.inl rfl)
  | setCounting counting =>
    refine .configure left fun cache present => ?_
    cases counting with
    | false => exact .counting false present
    | true => exact .counting true present
  | setOptions options => exact s.setOptions_tunes options left
  | setLimit limit =>
    refine .onCache left fun cache present => ?_
    unfold Cache.setLimit
    by_cases small : limit < minLimit
    · rw [if_pos small]
      exact .kept present (.refl _) (.inl rfl)
    · rw [if_neg small]
      exact .kept present ⟨rfl, rfl, rfl⟩ (.inl rfl)
  | acquire | get => exact acquires_tunes rfl indexed left
  | release h =>
    exact .onCache left fun cache present =>
      .kept present ((s.machine cache).release_recounts h).likens (.inl rfl)
  | dropGuard name => exact s.dropGuard_tunes name left
  | read | readWord | readHeader => exact .onGuard left rfl fun _ _ => rfl
  | write | writeWord | writeHeader => exact .onGuard left rfl fun g m => write_cache m g _ _
  | outside change => exact .kept left (.refl d) (.inl rfl)

end Session

end ForeignPages
