import ForeignPages.Proofs.SessionReach

namespace ForeignPages

variable {World Driver Probe Page : Type} {host : Host World Driver Probe Page}

namespace Op

/-- The page that an operation acquires, and for whom. -/
def acquires? : Op World Driver Probe → Option (Gfn × Holder)
  | .acquire gfn => some (gfn, .handle)
  | .get gfn _ => some (gfn, .guard)
  | _ => none

/-- The handle that an operation releases. -/
def releases? : Op World Driver Probe → Option Handle
  | .release h => some h
  | _ => none

/-- If it is not refused, the operation takes all pages out of the cache, or takes the cache away. -/
def ends : Op World Driver Probe → Bool
  | .create _ | .discard | .bind _ => true
  | .setOptions options => decide (options.limit < minLimit)
  | _ => false

end Op

theorem Session.Heeds.calm {calm : Machine World Driver Probe Page → Gfn → Prop} {s : Session World Driver Probe Page}
    {op : Op World Driver Probe} {gfn : Gfn} {holder : Holder} {cache : Cache Driver Probe Page}
    (heeded : s.Heeds calm op) (asks : op.acquires? = some (gfn, holder)) (present : s.cache = some cache) :
    calm (s.machine cache) gfn := by
  cases op with
  | acquire | get => cases asks; exact heeded cache present
  | _ => cases asks

/-- The reply to an acquisition, by who asked for it. -/
def Reply.ofAcquired (outcome : Outcome Lease) : Holder → Reply
  | .handle => .ofOutcome (fun lease => .handle lease.handle) outcome
  | .guard => .ofOutcome .lease outcome

namespace Reply

@[simp] theorem ofAcquired_of_refused (e : MapError) (holder : Holder) :
    ofAcquired (.refused e) holder = .refused e := by
  cases holder <;> rfl

@[simp] theorem ofAcquired_of_broken (f : Fault) (holder : Holder) : ofAcquired (.broken f) holder = .broken f := by
  cases holder <;> rfl

theorem ofAcquired_refused {outcome : Outcome Lease} {holder : Holder} {e : MapError} :
    ofAcquired outcome holder = .refused e ↔ outcome = .refused e := by
  cases holder <;> cases outcome <;> simp [ofAcquired, ofOutcome]

theorem ofAcquired_broken {outcome : Outcome Lease} {holder : Holder} {f : Fault} :
    ofAcquired outcome holder = .broken f ↔ outcome = .broken f := by
  cases holder <;> cases outcome <;> simp [ofAcquired, ofOutcome]

end Reply

/-- A cache in which at most one page has a guard less than before. -/
def Cache.Unguards (c d : Cache Driver Probe Page) : Prop :=
  d = c ∨ ∃ gfn, d = { c with store := c.store.change gfn fun e => { e with guards := e.guards - 1 } }

theorem Cache.Unguards.recounts {c d : Cache Driver Probe Page} (unguards : c.Unguards d) : c.Recounts d := by
  rcases unguards with same | ⟨gfn, changed⟩
  · exact .inl same
  · exact .inr ⟨gfn, _, changed, fun e => ⟨e.refs, e.guards - 1, rfl⟩⟩

/-- All that an operation can do to the cache of a session, and what it replies. -/
inductive Session.Effect (host : Host World Driver Probe Page) (s : Session World Driver Probe Page)
    (op : Op World Driver Probe) : Reply → Option (Cache Driver Probe Page) → Prop
  | gone {reply : Reply} : s.cache = none ∨ op.ends = true → Effect host s op reply none
  | emptied {reply : Reply} {cache : Cache Driver Probe Page} : op.ends = true → cache.store = .empty →
      (cache.limit = defaultLimit ∨ ∃ old, s.cache = some old ∧ cache.limit = old.limit) →
      Effect host s op reply (some cache)
  /-- The pages stay as they are. -/
  | settled {reply : Reply} {c d : Cache Driver Probe Page} : s.cache = some c → op.acquires? = none →
      op.releases? = none → d.store = c.store → (d.limit = c.limit ∨ minLimit ≤ d.limit) →
      Effect host s op reply (some d)
  /-- A page is acquired, and then the guard is dropped that had the name of the new one. -/
  | acquired {c d : Cache Driver Probe Page} {gfn : Gfn} {holder : Holder} : s.cache = some c →
      op.acquires? = some (gfn, holder) →
      ((s.machine c).acquire host gfn holder).2.cache.Unguards d →
      Effect host s op (.ofAcquired ((s.machine c).acquire host gfn holder).1 holder) (some d)
  | released {c : Cache Driver Probe Page} {h : Handle} : s.cache = some c → op = .release h →
      Effect host s op (.ofOutcome (fun _ => .nothing) ((s.machine c).release h).1)
        (some ((s.machine c).release h).2.cache)
  | unguarded {reply : Reply} {c d : Cache Driver Probe Page} : s.cache = some c → op.acquires? = none →
      op.releases? = none → c.Unguards d → Effect host s op reply (some d)

namespace Machine

/-- A guard gives back its own reference and no other. -/
theorem releaseGuard_unguards (m : Machine World Driver Probe Page) (gfn : Gfn) :
    m.cache.Unguards (m.releaseGuard gfn).2.cache := by
  unfold releaseGuard
  split
  · exact .inl rfl
  · split
    · exact .inl rfl
    · exact .inr ⟨gfn, rfl⟩

theorem bind_limit (m : Machine World Driver Probe Page) (driver : Driver) :
    (m.bind host driver).cache.limit = m.cache.limit := by
  have cleared : (m.clear host).cache.limit = m.cache.limit := by rw [clear_cache]
  exact (congrArg Cache.limit ((m.clear host).choosePolicy_cache host)).trans cleared

end Machine

namespace Session

theorem Effect.same {s : Session World Driver Probe Page} {op : Op World Driver Probe} (reply : Reply)
    (acquires : op.acquires? = none) (releases : op.releases? = none) :
    s.Effect host op reply s.cache := by
  cases present : s.cache with
  | none => exact .gone (.inl present)
  | some cache => exact .settled present acquires releases rfl (.inl rfl)

/-- What is done to a cache at work is done to the cache of the session. -/
theorem Effect.onCache {s : Session World Driver Probe Page} {op : Op World Driver Probe}
    {work : Machine World Driver Probe Page → Reply × Machine World Driver Probe Page}
    (works : ∀ cache, s.cache = some cache →
      s.Effect host op (work (s.machine cache)).1 (some (work (s.machine cache)).2.cache)) :
    s.Effect host op (s.onCache work).1 (s.onCache work).2.cache := by
  unfold Session.onCache
  cases present : s.cache with
  | none =>
    dsimp only
    rw [present]
    exact .gone (.inl present)
  | some cache => exact works cache present

/-- A session with live guards refuses to be configured, and stays as it is. -/
theorem Effect.configure {s : Session World Driver Probe Page} {op : Op World Driver Probe}
    {work : Machine World Driver Probe Page → Reply × Machine World Driver Probe Page}
    (acquires : op.acquires? = none) (releases : op.releases? = none)
    (works : ∀ cache, s.cache = some cache →
      s.Effect host op (work (s.machine cache)).1 (some (work (s.machine cache)).2.cache)) :
    s.Effect host op (s.configure work).1 (s.configure work).2.cache := by
  unfold Session.configure
  split
  · exact .onCache works
  · exact .same _ acquires releases

/-- An access through a guard does not touch the cache. -/
theorem Effect.onGuard {s : Session World Driver Probe Page} {op : Op World Driver Probe} {name : String}
    {work : Guard → Machine World Driver Probe Page → Reply × Machine World Driver Probe Page}
    (acquires : op.acquires? = none) (releases : op.releases? = none) (retunes : ∀ g m, (work g m).2.cache = m.cache) :
    s.Effect host op (s.onGuard name work).1 (s.onGuard name work).2.cache := by
  unfold Session.onGuard
  split
  · exact .same _ acquires releases
  · next g _ =>
    refine .onCache fun cache present => .settled present acquires releases ?_ (.inl ?_)
    · exact congrArg Cache.store (retunes g (s.machine cache))
    · exact congrArg Cache.limit (retunes g (s.machine cache))

theorem write_cache (m : Machine World Driver Probe Page) (g : Guard) (offset : Nat) (bytes : List UInt8) :
    (m.write host g offset bytes).2.cache = m.cache := by
  unfold Machine.write
  split <;> rfl

theorem create_effect (s : Session World Driver Probe Page) (driver : Option Driver) :
    s.Effect host (.create driver) .nothing (s.create host driver).cache := by
  cases driver with
  | none => exact .emptied rfl rfl (.inl rfl)
  | some driver =>
    refine .emptied rfl (Machine.bind_store _ driver) (.inl ?_)
    exact Machine.bind_limit _ driver

theorem setOptions_effect (s : Session World Driver Probe Page) (options : Options) :
    s.Effect host (.setOptions options) (s.setOptions host options).1 (s.setOptions host options).2.cache := by
  unfold setOptions
  split
  · cases present : s.cache with
    | none =>
      dsimp only
      rw [present]
      exact .gone (.inl present)
    | some cache =>
      unfold Machine.withOptions Cache.setLimit
      by_cases small : options.limit < minLimit
      · simp only [if_pos small]
        exact .gone (.inr (decide_eq_true small))
      · simp only [if_neg small]
        exact .settled present rfl rfl rfl (.inr (Nat.not_lt.mp small))
  · exact .same _ rfl rfl

/-- Taking a guard has the effect of its acquisition, the name it replaces first giving its guard back. -/
theorem get_effect (s : Session World Driver Probe Page) (gfn : Gfn) (name : String) :
    s.Effect host (.get gfn name) (s.get host gfn name).1 (s.get host gfn name).2.cache := by
  unfold get
  split
  · next none =>
    dsimp only
    rw [none]
    exact .gone (.inl none)
  · next cache present =>
    have acquired : ∀ d, ((s.machine cache).acquire host gfn .guard).2.cache.Unguards d →
        s.Effect host (.get gfn name) (.ofAcquired ((s.machine cache).acquire host gfn .guard).1 .guard) (some d) :=
      fun d => .acquired present rfl
    split
    · next lease m run =>
      rw [run] at acquired
      refine acquired _ ?_
      cases s.guards.find? name with
      | none => exact .inl rfl
      | some old => exact m.releaseGuard_unguards old.gfn
    · next e m run =>
      rw [run] at acquired
      exact acquired m.cache (.inl rfl)
    · next f m run =>
      rw [run] at acquired
      exact acquired m.cache (.inl rfl)

theorem dropGuard_effect (s : Session World Driver Probe Page) (name : String) :
    s.Effect host (.dropGuard name) (s.dropGuard name).1 (s.dropGuard name).2.cache := by
  unfold dropGuard
  split
  · exact .same _ rfl rfl
  · next g _ =>
    cases present : s.cache with
    | none => exact .gone (.inl present)
    | some cache => exact .unguarded present rfl rfl ((s.machine cache).releaseGuard_unguards g.gfn)

/-- One inversion for all operations, so that facts about cached pages need not be shown for one of them after the
other. -/
theorem step_effect (host : Host World Driver Probe Page) (s : Session World Driver Probe Page)
    (op : Op World Driver Probe) :
    s.Effect host op (s.step host op).1 (s.step host op).2.cache := by
  cases op with
  | create driver => exact s.create_effect driver
  | discard =>
    simp only [step, s.close_cache host]
    exact .gone (.inr rfl)
  | bind driver =>
    refine .configure rfl rfl fun cache present => ?_
    exact .emptied rfl (Machine.bind_store _ driver) (.inr ⟨cache, present, Machine.bind_limit _ driver⟩)
  | setKernel | setPolicy | setProbe =>
    exact .configure rfl rfl fun cache present => .settled present rfl rfl rfl (.inl rfl)
  | setCounting counting =>
    refine .configure rfl rfl fun cache present => ?_
    cases counting <;> exact .settled present rfl rfl rfl (.inl rfl)
  | setOptions options => exact s.setOptions_effect options
  | setLimit limit =>
    refine .onCache fun cache present => ?_
    unfold Cache.setLimit
    by_cases small : limit < minLimit
    · rw [if_pos small]
      exact .settled present rfl rfl rfl (.inl rfl)
    · rw [if_neg small]
      exact .settled present rfl rfl rfl (.inr (Nat.not_lt.mp small))
  | acquire gfn =>
    refine .onCache fun cache present => ?_
    have acquired : s.Effect host (.acquire gfn) (.ofAcquired _ .handle) _ := .acquired present rfl (.inl rfl)
    exact acquired
  | release h => exact .onCache fun cache present => .released present rfl
  | get gfn name => exact s.get_effect gfn name
  | dropGuard name => exact s.dropGuard_effect name
  | read | readWord | readHeader => exact .onGuard rfl rfl fun _ _ => rfl
  | write name offset bytes => exact .onGuard rfl rfl fun g m => write_cache m g offset bytes
  | writeWord name offset value => exact .onGuard rfl rfl fun g m => write_cache m g offset _
  | writeHeader name offset value => exact .onGuard rfl rfl fun g m => write_cache m g offset _
  | outside change => exact .same _ rfl rfl

/-- Unless it is ended, a cache stays. -/
theorem cache_of_lasting {s : Session World Driver Probe Page} {op : Op World Driver Probe}
    (host : Host World Driver Probe Page) {cache : Cache Driver Probe Page} (present : s.cache = some cache)
    (lasts : op.ends = false) : ∃ d, (s.step host op).2.cache = some d := by
  have effect := s.step_effect host op
  cases left : (s.step host op).2.cache with
  | some d => exact ⟨d, rfl⟩
  | none =>
    rw [left] at effect
    generalize (s.step host op).1 = reply at effect
    cases effect with
    | gone ended =>
      rcases ended with none | ends
      · cases none.symm.trans present
      · cases lasts.symm.trans ends

end Session

end ForeignPages
