import ForeignPages.Proofs.SessionReach

namespace ForeignPages

variable {World Driver Probe Page : Type} {host : Host World Driver Probe Page}

theorem Reply.of_ofExcept_refused {α : Type} {reply : α → Reply} {result : Except MapError α} {e : MapError}
    (refused : Reply.ofExcept reply result = .refused e) (plain : ∀ a, reply a ≠ .refused e) :
    result = .error e := by
  cases result with
  | ok a => exact absurd refused (plain a)
  | error e' => cases refused; rfl

theorem Reply.of_ofOutcome_broken {α : Type} {reply : α → Reply} {outcome : Outcome α} {f : Fault}
    (broken : Reply.ofOutcome reply outcome = .broken f) (plain : ∀ a, reply a ≠ .broken f) :
    outcome = .broken f := by
  cases outcome with
  | done a => exact absurd broken (plain a)
  | refused e => cases broken
  | broken f' => cases broken; rfl

theorem Reply.of_ofOutcome_refused {α : Type} {reply : α → Reply} {outcome : Outcome α} {e : MapError}
    (refused : Reply.ofOutcome reply outcome = .refused e) (plain : ∀ a, reply a ≠ .refused e) :
    outcome = .refused e := by
  cases outcome with
  | done a => exact absurd refused (plain a)
  | refused e' => cases refused; rfl
  | broken f => cases refused

namespace Machine

/-- An acquisition breaks by a count that overflows or by a handle that is taken, and in no other way. -/
theorem acquire_broken {m : Machine World Driver Probe Page} {gfn : Gfn} {holder : Holder} {f : Fault}
    (indexed : m.cache.store.Indexed) (broken : (m.acquire host gfn holder).1 = .broken f) :
    f = .additionOverflow ∨ f = .handleTaken := by
  have acquired := acquire_acquired host indexed gfn holder
  generalize (m.acquire host gfn holder).2.cache = cache at acquired
  rw [broken] at acquired
  cases acquired with
  | failed fails _ => cases fails; exact .inl rfl
  | touched => exact .inl rfl
  | aliased => exact .inr rfl

/-- An acquisition is refused for the missing session, by the driver's failure or for an absent page. -/
theorem acquire_refused {m : Machine World Driver Probe Page} {gfn : Gfn} {holder : Holder} {e : MapError}
    (indexed : m.cache.store.Indexed) (refused : (m.acquire host gfn holder).1 = .refused e) :
    e = .noSession ∨ (∃ source, e = .mapFailed gfn source) ∨ e = .pageNotPresent gfn := by
  have acquired := acquire_acquired host indexed gfn holder
  generalize (m.acquire host gfn holder).2.cache = cache at acquired
  rw [refused] at acquired
  cases acquired with
  | failed fails _ =>
    cases fails with
    | noSession => exact .inl rfl
    | mapFailed source => exact .inr (.inl ⟨source, rfl⟩)
    | pageNotPresent => exact .inr (.inr rfl)

/-- A release breaks only as one too many. -/
theorem release_broken {m : Machine World Driver Probe Page} {h : Handle} {f : Fault}
    (broken : (m.release h).1 = .broken f) : ∃ gfn, f = .overReleased gfn := by
  unfold release at broken
  split at broken
  · cases broken
  · split at broken
    · cases broken
    · next e _ =>
      split at broken
      · split at broken
        · cases broken; exact ⟨e.gfn, rfl⟩
        · cases broken
      · cases broken

theorem write_error {m : Machine World Driver Probe Page} {g : Guard} {offset : Nat} {bytes : List UInt8}
    {e : MapError} (refused : (m.write host g offset bytes).1 = .error e) :
    m.pageFor host g offset bytes.length = .error e := by
  unfold write at refused
  split at refused
  · next same => cases refused; exact same
  · cases refused

theorem readBytes_error {m : Machine World Driver Probe Page} {g : Guard} {offset count : Nat} {e : MapError}
    (refused : m.readBytes host g offset count = .error e) : m.pageFor host g offset count = .error e := by
  rw [readBytes_eq] at refused
  cases range : m.pageFor host g offset count with
  | error e' => rw [range] at refused; cases refused; rfl
  | ok page => rw [range] at refused; cases refused

theorem readAs_error {α : Type} {layout : Layout α} {m : Machine World Driver Probe Page} {g : Guard}
    {offset : Nat} {e : MapError} (refused : m.readAs host layout g offset = .error e) :
    m.pageFor host g offset layout.width = .error e := by
  unfold readAs at refused
  cases content : m.readBytes host g offset layout.width with
  | error e' => rw [content] at refused; cases refused; exact readBytes_error content
  | ok bytes => rw [content] at refused; cases refused

end Machine

namespace Session

/-- The operation is an acquisition, and its outcome on the cache is the given one. -/
def Acquires (host : Host World Driver Probe Page) (s : Session World Driver Probe Page)
    (op : Op World Driver Probe) (gfn : Gfn) (outcome : Outcome Lease) : Prop :=
  ∃ cache holder, s.cache = some cache ∧ ((s.machine cache).acquire host gfn holder).1 = outcome ∧
    (op = .acquire gfn ∧ holder = .handle ∨ (∃ name, op = .get gfn name) ∧ holder = .guard)

/-- The operation is an access through a live guard, to a range that turns out inaccessible. -/
def Accesses (host : Host World Driver Probe Page) (s : Session World Driver Probe Page) (e : MapError) :
    Prop :=
  ∃ cache name g offset count, s.cache = some cache ∧ s.guards.find? name = some g ∧
    (s.machine cache).pageFor host g offset count = .error e

theorem of_onCache {s : Session World Driver Probe Page}
    {work : Machine World Driver Probe Page → Reply × Machine World Driver Probe Page} {reply : Reply}
    (answer : (s.onCache work).1 = reply) (plain : reply ≠ .misused .noCache) :
    ∃ cache, s.cache = some cache ∧ (work (s.machine cache)).1 = reply := by
  unfold onCache at answer
  split at answer
  · exact absurd answer.symm plain
  · next cache present => exact ⟨cache, present, answer⟩

theorem of_configure {s : Session World Driver Probe Page}
    {work : Machine World Driver Probe Page → Reply × Machine World Driver Probe Page} {reply : Reply}
    (answer : (s.configure work).1 = reply) (plain : ∀ misuse, reply ≠ .misused misuse) :
    ∃ cache, s.cache = some cache ∧ (work (s.machine cache)).1 = reply := by
  unfold configure at answer
  split at answer
  · exact of_onCache answer (plain _)
  · exact absurd answer.symm (plain _)

/-- An answer that is no misuse was given by the work on the guard of that name and the present cache. -/
theorem of_onGuard {s : Session World Driver Probe Page} {name : String}
    {work : Guard → Machine World Driver Probe Page → Reply × Machine World Driver Probe Page} {reply : Reply}
    (answer : (s.onGuard name work).1 = reply) (plain : ∀ misuse, reply ≠ .misused misuse) :
    ∃ g cache, s.guards.find? name = some g ∧ s.cache = some cache ∧
      (work g (s.machine cache)).1 = reply := by
  unfold onGuard at answer
  split at answer
  · exact absurd answer.symm (plain _)
  · next g taken =>
    obtain ⟨cache, present, same⟩ := of_onCache answer (plain _)
    exact ⟨g, cache, taken, present, same⟩

theorem of_get {s : Session World Driver Probe Page} {gfn : Gfn} {name : String} {reply : Reply}
    (answer : (s.get host gfn name).1 = reply) (plain : reply ≠ .misused .noCache) :
    ∃ cache, s.cache = some cache ∧
      Reply.ofOutcome .lease ((s.machine cache).acquire host gfn .guard).1 = reply := by
  unfold get at answer
  split at answer
  · exact absurd answer.symm plain
  · next cache present =>
    refine ⟨cache, present, ?_⟩
    split at answer <;> next run => rw [run]; exact answer

/-- What broke off was an acquisition, a release, or the drop of a guard. -/
theorem step_broken {s : Session World Driver Probe Page} {op : Op World Driver Probe} {f : Fault}
    (broken : (s.step host op).1 = .broken f) :
    (∃ gfn, s.Acquires host op gfn (.broken f)) ∨
    (∃ cache h, (s.cache = some cache ∧ op = .release h) ∧ ((s.machine cache).release h).1 = .broken f) ∨
    (∃ cache name g, s.cache = some cache ∧ s.guards.find? name = some g ∧
      ((s.machine cache).releaseGuard g.gfn).1 = .broken f) := by
  cases op with
  | create | discard | outside => cases broken
  | bind | setKernel | setPolicy | setProbe | setCounting =>
    obtain ⟨_, _, answer⟩ := of_configure broken (by simp)
    cases answer
  | setOptions options =>
    simp only [step, setOptions] at broken
    split at broken
    · split at broken
      · cases broken
      · split at broken <;> cases broken
    · cases broken
  | setLimit limit =>
    obtain ⟨cache, _, answer⟩ := of_onCache broken (by simp)
    split at answer <;> cases answer
  | acquire gfn =>
    obtain ⟨cache, present, answer⟩ := of_onCache broken (by simp)
    exact .inl ⟨gfn, cache, .handle, present, Reply.of_ofOutcome_broken answer (by simp), .inl ⟨rfl, rfl⟩⟩
  | get gfn name =>
    obtain ⟨cache, present, answer⟩ := of_get broken (by simp)
    exact .inl ⟨gfn, cache, .guard, present, Reply.of_ofOutcome_broken answer (by simp), .inr ⟨⟨name, rfl⟩, rfl⟩⟩
  | release h =>
    obtain ⟨cache, present, answer⟩ := of_onCache broken (by simp)
    exact .inr (.inl ⟨cache, h, ⟨present, rfl⟩, Reply.of_ofOutcome_broken answer (by simp)⟩)
  | dropGuard name =>
    simp only [step, dropGuard] at broken
    split at broken
    · cases broken
    · next g taken =>
      obtain ⟨cache, present, answer⟩ := of_onCache broken (by simp)
      exact .inr (.inr ⟨cache, name, g, present, taken, Reply.of_ofOutcome_broken answer (by simp)⟩)
  | read | readWord | readHeader | write | writeWord | writeHeader =>
    obtain ⟨_, _, _, _, answer⟩ := of_onGuard broken (by simp)
    dsimp only at answer
    unfold Reply.ofExcept at answer
    split at answer <;> cases answer

/-- An operation is refused by an acquisition, by an access out of range, or for a limit that is too small. -/
theorem step_refused {s : Session World Driver Probe Page} {op : Op World Driver Probe} {e : MapError}
    (refused : (s.step host op).1 = .refused e) :
    (∃ gfn, s.Acquires host op gfn (.refused e)) ∨ s.Accesses host e ∨
      ∃ limit, e = .limitTooSmall limit minLimit := by
  have limited : ∀ {cache : Cache Driver Probe Page} {limit}, cache.setLimit limit = .error e →
      e = .limitTooSmall limit minLimit := by
    intro cache limit small
    unfold Cache.setLimit at small
    split at small <;> cases small
    rfl
  cases op with
  | create | discard | outside => cases refused
  | bind | setKernel | setPolicy | setProbe | setCounting =>
    obtain ⟨_, _, answer⟩ := of_configure refused (by simp)
    cases answer
  | setOptions options =>
    simp only [step, setOptions] at refused
    split at refused
    · split at refused
      · cases refused
      · next cache _ =>
        unfold Machine.withOptions at refused
        cases small : cache.setLimit options.limit with
        | ok cache' => simp [machine, small] at refused
        | error e' =>
          simp only [machine, small] at refused
          cases refused
          exact .inr (.inr ⟨_, limited small⟩)
    · cases refused
  | setLimit limit =>
    obtain ⟨cache, _, answer⟩ := of_onCache refused (by simp)
    split at answer
    · cases answer
    · next small => cases answer; exact .inr (.inr ⟨_, limited small⟩)
  | acquire gfn =>
    obtain ⟨cache, present, answer⟩ := of_onCache refused (by simp)
    exact .inl ⟨gfn, cache, .handle, present, Reply.of_ofOutcome_refused answer (by simp), .inl ⟨rfl, rfl⟩⟩
  | get gfn name =>
    obtain ⟨cache, present, answer⟩ := of_get refused (by simp)
    exact .inl ⟨gfn, cache, .guard, present, Reply.of_ofOutcome_refused answer (by simp), .inr ⟨⟨name, rfl⟩, rfl⟩⟩
  | release h =>
    obtain ⟨cache, _, answer⟩ := of_onCache refused (by simp)
    have outcome := Reply.of_ofOutcome_refused answer (by simp)
    unfold Machine.release at outcome
    split at outcome
    · cases outcome
    · split at outcome
      · cases outcome
      · split at outcome
        · split at outcome <;> cases outcome
        · cases outcome
  | dropGuard name =>
    simp only [step, dropGuard] at refused
    split at refused
    · cases refused
    · obtain ⟨cache, _, answer⟩ := of_onCache refused (by simp)
      have outcome := Reply.of_ofOutcome_refused answer (by simp)
      unfold Machine.releaseGuard at outcome
      split at outcome
      · cases outcome
      · split at outcome <;> cases outcome
  | read name | readWord name | readHeader name =>
    obtain ⟨g, cache, taken, present, answer⟩ := of_onGuard refused (by simp)
    have result := Reply.of_ofExcept_refused answer (by simp)
    first
      | exact .inr (.inl ⟨cache, name, g, _, _, present, taken, Machine.readBytes_error result⟩)
      | exact .inr (.inl ⟨cache, name, g, _, _, present, taken, Machine.readAs_error result⟩)
  | write name | writeWord name | writeHeader name =>
    obtain ⟨g, cache, taken, present, answer⟩ := of_onGuard refused (by simp)
    have result := Reply.of_ofExcept_refused answer (by simp)
    exact .inr (.inl ⟨cache, name, g, _, _, present, taken, Machine.write_error result⟩)

end Session

end ForeignPages
