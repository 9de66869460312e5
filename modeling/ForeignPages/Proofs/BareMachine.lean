import ForeignPages.Proofs.Recency

namespace ForeignPages

variable {World Driver Probe Page : Type} {host : Host World Driver Probe Page}

/-- A cache without its pages, and with a clock that stands still. -/
def Cache.bare (c : Cache Driver Probe Page) : Cache Driver Probe Page := { c with store := .empty, clock := 0 }

/-- The machine around such a cache. Whatever has to do with the outside only goes the same way there. -/
def Machine.bare (m : Machine World Driver Probe Page) : Machine World Driver Probe Page :=
  { m with cache := m.cache.bare }

namespace Machine

theorem bare_world (m : Machine World Driver Probe Page) : m.bare.world = m.world := rfl

theorem bare_residency (m : Machine World Driver Probe Page) : m.bare.cache.residency = m.cache.residency := rfl

theorem bare_policy (m : Machine World Driver Probe Page) : m.bare.cache.policy = m.cache.policy := rfl

theorem bare_probe (m : Machine World Driver Probe Page) : m.bare.cache.probe = m.cache.probe := rfl

theorem giveBack_bare (m : Machine World Driver Probe Page) (pages : List Page) :
    m.bare.giveBack host pages = (m.giveBack host pages).bare := by
  induction pages generalizing m with
  | nil => rfl
  | cons page rest ih => exact ih (m.unmap host page)

theorem unmapAll_eq_giveBack (m : Machine World Driver Probe Page) (entries : List (Entry Page)) :
    m.unmapAll host entries = m.giveBack host (entries.map (·.page)) := by
  induction entries generalizing m with
  | nil => rfl
  | cons e rest ih => exact ih (m.unmap host e.page)

theorem giveBack_cache (m : Machine World Driver Probe Page) (pages : List Page) :
    (m.giveBack host pages).cache = m.cache := by
  induction pages generalizing m with
  | nil => rfl
  | cons page rest ih => exact ih (m.unmap host page)

theorem withStore_giveBack_bare (m : Machine World Driver Probe Page) (store : Store Page) (pages : List Page) :
    ((m.withStore store).giveBack host pages).bare = m.bare.giveBack host pages :=
  ((m.withStore store).giveBack_bare pages).symm

/-- The counters are the same without the pages. -/
theorem countMapping?_bare (m : Machine World Driver Probe Page) :
    m.bare.countMapping? = m.countMapping?.map bare := by
  unfold countMapping?
  change (if m.cache.counting then _ else _) = _
  split
  · rw [Option.map_map]
    rfl
  · rfl

/-- A driver is asked, and answers, without a look at the pages. -/
theorem mapPage_bare (m : Machine World Driver Probe Page) (driver : Driver) (gfn : Gfn) (size : Nat) :
    m.bare.mapPage host driver gfn size =
      ((m.mapPage host driver gfn size).1, (m.mapPage host driver gfn size).2.bare) := by
  cases called : host.map driver gfn .rw m.world with
  | mk answer world =>
    cases answer with
    | error source =>
      simp only [mapPage, callDriver, bare_world, called]
      rfl
    | ok page =>
      simp only [mapPage, callDriver, bare_world, called]
      by_cases fits : host.size page world = size
      · rw [if_pos fits, if_pos fits]
        rfl
      · rw [if_neg fits, if_neg fits]
        rfl

theorem tellMapFailure_bare (m : Machine World Driver Probe Page) (gfn : Gfn) (source : IoError) :
    m.bare.tellMapFailure gfn source = (m.tellMapFailure gfn source).bare := by
  unfold tellMapFailure
  change (if m.cache.logMapFailures then _ else _) = _
  split <;> rfl

/-- A page is judged without a look at the others. -/
theorem passesPolicy_bare (m : Machine World Driver Probe Page) (gfn : Gfn) (page : Page) (size : Nat) :
    m.bare.passesPolicy host gfn page size =
      ((m.passesPolicy host gfn page size).1, (m.passesPolicy host gfn page size).2.bare) := by
  cases policy : m.cache.residency with
  | trust => simp only [passesPolicy, bare_residency, policy]
  | probe =>
    cases asked : host.probe m.cache.probe (host.address page) size m.world with
    | mk answer world =>
      simp only [passesPolicy, bare_residency, bare_probe, bare_world, policy, asked]
      cases answer with
      | error source => rfl
      | ok resident => cases resident <;> rfl

theorem giveBack_counters (m : Machine World Driver Probe Page) (pages : List Page) :
    (m.giveBack host pages).counters = m.counters := by
  induction pages generalizing m with
  | nil => rfl
  | cons page rest ih => exact ih (m.unmap host page)

/-- Whether a mapping can be counted depends on the counters alone. -/
theorem countMapping?_isSome {m n : Machine World Driver Probe Page}
    (counting : n.cache.counting = m.cache.counting) (counters : n.counters = m.counters) :
    n.countMapping?.isSome = m.countMapping?.isSome := by
  unfold countMapping?
  rw [counting, counters]
  split
  · simp only [Option.isSome_map]
  · rfl

theorem makeRoom_counts (host : Host World Driver Probe Page) (r : Recency World Driver Probe Page) :
    (r.makeRoom host).rest.countMapping?.isSome = r.rest.countMapping?.isSome := by
  unfold Recency.makeRoom
  split
  · refine countMapping?_isSome ?_ (giveBack_counters _ _)
    exact congrArg Cache.counting (giveBack_cache _ _)
  · rfl

end Machine

namespace Recency

theorem counted?_eq (rest : Machine World Driver Probe Page) : counted? rest = rest.countMapping? := rfl

theorem complained_eq (rest : Machine World Driver Probe Page) (gfn : Gfn) (source : IoError) :
    complained rest gfn source = rest.tellMapFailure gfn source := rfl

/-- A driver that is asked directly delivers what a machine maps. -/
theorem delivered_eq (host : Host World Driver Probe Page) (rest : Machine World Driver Probe Page) (driver : Driver)
    (gfn : Gfn) (size : Nat) : delivered host rest driver gfn size = rest.mapPage host driver gfn size := by
  unfold delivered Machine.mapPage Machine.callDriver
  cases called : host.map driver gfn .rw rest.world with
  | mk answer world =>
    cases answer with
    | error source => rfl
    | ok page => rfl

/-- A probe that is asked directly says what a machine is told. -/
theorem confirmed_eq (host : Host World Driver Probe Page) (rest : Machine World Driver Probe Page) (gfn : Gfn)
    (page : Page) (size : Nat) : confirmed host rest gfn page size = rest.passesPolicy host gfn page size := by
  unfold confirmed Machine.passesPolicy Cache.residency
  cases rest.cache.policy with
  | none => rfl
  | some policy =>
    cases policy with
    | trust => rfl
    | probe =>
      cases asked : host.probe rest.cache.probe (host.address page) size rest.world with
      | mk answer world =>
        cases answer with
        | error source => rfl
        | ok resident => cases resident <;> rfl

/-- A driver is attached to a cache without its pages as to any other one. -/
theorem attached_bare (host : Host World Driver Probe Page) (m : Machine World Driver Probe Page) (driver : Driver) :
    attached host m.bare driver = ({ (m.choosePolicy host).record (.bound driver) with
      cache := { (m.choosePolicy host).cache with driver := some driver }
    } : Machine World Driver Probe Page).bare := by
  unfold attached
  rw [Machine.bare_policy]
  cases chosen : m.cache.policy with
  | some policy =>
    rw [m.choosePolicy_of_some host chosen]
    rfl
  | none =>
    rw [m.choosePolicy_of_none host chosen]
    rfl

end Recency

end ForeignPages
