import ForeignPages.Cache
import ForeignPages.KernelRelease

namespace ForeignPages.Machine

variable {World Driver Probe Page : Type} (host : Host World Driver Probe Page)

/-- Chooses the policy by the version of the host kernel, if none was chosen yet. -/
def choosePolicy (m : Machine World Driver Probe Page) : Machine World Driver Probe Page :=
  match m.cache.policy with
  | some _ => m
  | none =>
    let (version, events) := KernelVersion.ofFile (host.release m.world)
    let m := (events.foldl tell m).tell (.policySelected version)
    { m with cache := { m.cache with policy := some (.forKernel version) } }

/-- Events that are told one after another stand in the journal with the last of them first. -/
theorem tellAll_eq (m : Machine World Driver Probe Page) (events : List Event) :
    events.foldl tell m = { m with journal := (events.map .told).reverse ++ m.journal } := by
  induction events generalizing m with
  | nil => rfl
  | cons event rest ih =>
    rw [List.foldl_cons, ih, List.map_cons, List.reverse_cons, List.append_assoc]
    rfl

theorem choosePolicy_of_some {m : Machine World Driver Probe Page} {policy : Residency}
    (chosen : m.cache.policy = some policy) : m.choosePolicy host = m := by
  rw [choosePolicy, chosen]

/-- Without a policy the release of the kernel decides, and what was learned on the way is told. -/
theorem choosePolicy_of_none {m : Machine World Driver Probe Page} (none : m.cache.policy = none) :
    m.choosePolicy host = { m with
      cache := { m.cache with policy := some (.forKernel (KernelVersion.ofFile (host.release m.world)).1) }
      journal := .told (.policySelected (KernelVersion.ofFile (host.release m.world)).1) ::
        ((KernelVersion.ofFile (host.release m.world)).2.map .told).reverse ++ m.journal } := by
  simp only [choosePolicy, none, tellAll_eq]
  rfl

/-- Of the settings of a cache only the policy is chosen. -/
theorem choosePolicy_cache (m : Machine World Driver Probe Page) :
    (m.choosePolicy host).cache = { m.cache with
      policy := m.cache.policy.or (some (.forKernel (KernelVersion.ofFile (host.release m.world)).1)) } := by
  cases chosen : m.cache.policy with
  | some policy =>
    rw [choosePolicy_of_some host chosen, Option.some_or, ← chosen]
  | none =>
    rw [choosePolicy_of_none host chosen]
    rfl

theorem choosePolicy_counters (m : Machine World Driver Probe Page) :
    (m.choosePolicy host).counters = m.counters := by
  cases chosen : m.cache.policy with
  | some policy => rw [choosePolicy_of_some host chosen]
  | none => rw [choosePolicy_of_none host chosen]

/-- Attaches a driver. The pages of the previous one are given back, held or not. -/
def bind (m : Machine World Driver Probe Page) (driver : Driver) : Machine World Driver Probe Page :=
  let m := ((m.clear host).choosePolicy host).record (.bound driver)
  { m with cache := { m.cache with driver := some driver } }

def withPolicy (m : Machine World Driver Probe Page) (policy : Residency) :
    Machine World Driver Probe Page :=
  { m with cache := { m.cache with policy := some policy } }

def withProbe (m : Machine World Driver Probe Page) (probe : Probe) :
    Machine World Driver Probe Page :=
  { m with cache := { m.cache with probe } }

/-- Attaches an empty table of counters. -/
def withCounters (m : Machine World Driver Probe Page) : Machine World Driver Probe Page :=
  { m with cache := { m.cache with counting := true }, counters := .empty }

/-- Stops counting. The table keeps what it holds. -/
def withoutCounters (m : Machine World Driver Probe Page) : Machine World Driver Probe Page :=
  { m with cache := { m.cache with counting := false } }

/-- Applies options, or ends the cache if they are refused. -/
def withOptions (m : Machine World Driver Probe Page) (options : Options) :
    Except MapError Unit × Machine World Driver Probe Page :=
  match m.cache.setLimit options.limit with
  | .error e => (.error e, m.destroy host)
  | .ok cache =>
    (.ok (), { m with cache := { cache with logMapFailures := options.logMapFailures } })

end ForeignPages.Machine
