import ForeignPages.Proofs.Runs

namespace ForeignPages

variable {World Driver Probe Page : Type}

/-- An operation of a run, and the session in which it was asked for. -/
structure Moment (World Driver Probe Page : Type) where
  session : Session World Driver Probe Page
  op : Op World Driver Probe

namespace Moment

variable (host : Host World Driver Probe Page)

/-- The reply to the operation of a moment. -/
def reply (t : Moment World Driver Probe Page) : Reply := (t.session.step host t.op).1

/-- The session that the operation of a moment leads to. -/
def after (t : Moment World Driver Probe Page) : Session World Driver Probe Page := (t.session.step host t.op).2

end Moment

namespace Session

/-- The sessions that a run can lead to from a given one, with its moments, the newest first. -/
inductive Course (host : Host World Driver Probe Page)
    (allowed : Session World Driver Probe Page → Op World Driver Probe → Prop)
    (first : Session World Driver Probe Page) :
    List (Moment World Driver Probe Page) → Session World Driver Probe Page → Prop
  | start : Course host allowed first [] first
  | reorder {moments : List (Moment World Driver Probe Page)} {s : Session World Driver Probe Page}
      {cache : Cache Driver Probe Page} {store : Store Page} : Course host allowed first moments s →
      s.cache = some cache → cache.store.Reordered store →
      Course host allowed first moments { s with cache := some { cache with store } }
  | step {moments : List (Moment World Driver Probe Page)} {s : Session World Driver Probe Page}
      (op : Op World Driver Probe) : Course host allowed first moments s → allowed s op →
      Course host allowed first (⟨s, op⟩ :: moments) (s.step host op).2

/-- The moments of a run, the newest first. -/
def moments (host : Host World Driver Probe Page) (s : Session World Driver Probe Page) :
    List (Op World Driver Probe) → List (Moment World Driver Probe Page)
  | [] => []
  | op :: rest => moments host (s.step host op).2 rest ++ [⟨s, op⟩]

variable {host : Host World Driver Probe Page}

/-- A course under a strict rule is one under any weaker rule. -/
theorem Course.imp {allowed allowed' : Session World Driver Probe Page → Op World Driver Probe → Prop}
    {first s : Session World Driver Probe Page} {moments : List (Moment World Driver Probe Page)}
    (course : Course host allowed first moments s) (weaker : ∀ s op, allowed s op → allowed' s op) :
    Course host allowed' first moments s := by
  induction course with
  | start => exact .start
  | reorder _ present same ih => exact ih.reorder present same
  | step op _ permitted ih => exact ih.step op (weaker _ op permitted)

/-- What is reached by a course from a reachable session is reachable. -/
theorem Reach.followed {allowed : Session World Driver Probe Page → Op World Driver Probe → Prop}
    {first s : Session World Driver Probe Page} {moments : List (Moment World Driver Probe Page)} {world : World}
    {past : List (Op World Driver Probe × Reply)} (reach : Reach host allowed world past first)
    (course : Course host allowed first moments s) :
    Reach host allowed world (moments.map (fun t => (t.op, t.reply host)) ++ past) s := by
  induction course with
  | start => exact reach
  | reorder _ present same ih => exact ih.reorder present same
  | step op _ permitted ih => exact ih.step op permitted

/-- A course goes on with any operations that are allowed one after another. -/
theorem Course.run {allowed : Session World Driver Probe Page → Op World Driver Probe → Prop}
    {first s : Session World Driver Probe Page} {older : List (Moment World Driver Probe Page)}
    (course : Course host allowed first older s) {ops : List (Op World Driver Probe)}
    (permitted : s.Permits host allowed ops) :
    Course host allowed first (s.moments host ops ++ older) (s.run host ops) := by
  induction ops generalizing older s with
  | nil => exact course
  | cons op rest ih =>
    have later := ih (course.step op permitted.1) permitted.2
    rw [moments, List.append_assoc]
    exact later

theorem Permits.course {allowed : Session World Driver Probe Page → Op World Driver Probe → Prop}
    {s : Session World Driver Probe Page} {ops : List (Op World Driver Probe)}
    (permitted : s.Permits host allowed ops) :
    Course host allowed s (s.moments host ops) (s.run host ops) := by
  have course := Course.start.run permitted
  rwa [List.append_nil] at course

/-- No page is cached, as in a session whose cache has just got its driver. -/
def Fresh (s : Session World Driver Probe Page) : Prop := ∀ gfn, s.cached? gfn = none

/-- A driver is attached to the cache that there is, or nothing happens. -/
theorem step_bind (host : Host World Driver Probe Page) (s : Session World Driver Probe Page) (driver : Driver) :
    (∃ cache, s.cache = some cache ∧
      s.step host (.bind driver) = (.nothing, s.resume ((s.machine cache).bind host driver))) ∨
    ∃ misuse, s.step host (.bind driver) = (.misused misuse, s) :=
  s.configure_cases fun m => (.nothing, m.bind host driver)

/-- The pages of the previous driver are gone, so nothing is cached. -/
theorem fresh_of_bind {s : Session World Driver Probe Page} {driver : Driver}
    (attached : (s.step host (.bind driver)).1 = .nothing) :
    (s.step host (.bind driver)).2.Fresh := by
  intro gfn
  rcases s.step_bind host driver with ⟨cache, _, bound⟩ | ⟨_, misused⟩
  · have empty : ((s.machine cache).bind host driver).cache.store = .empty := Machine.bind_store _ driver
    rw [bound]
    exact (congrArg (fun store => store.find? gfn) empty).trans (Store.find?_empty gfn)
  · rw [misused] at attached
    cases attached

end Session

/-- A lasting property that a session has goes on to hold, whatever happened before that session. -/
theorem Lasting.course {host : Host World Driver Probe Page}
    {calm : Machine World Driver Probe Page → Gfn → Prop}
    {P : Machine World Driver Probe Page → List Guard → Prop} {Q : List (Act Driver Probe Page) → Prop}
    {allowed : Session World Driver Probe Page → Op World Driver Probe → Prop}
    {first s : Session World Driver Probe Page} {moments : List (Moment World Driver Probe Page)}
    (lasting : Lasting host calm P Q) (heeding : ∀ s op, allowed s op → s.Heeds calm op)
    (held : first.Sustains P Q) (course : Session.Course host allowed first moments s) : s.Sustains P Q := by
  induction course with
  | start => exact held
  | reorder _ present same ih =>
    simp only [Session.Sustains, present] at ih
    exact ⟨same.indexed ih.1, lasting.reorder ih.2 same⟩
  | step op _ permitted ih => exact lasting.step ih op (heeding _ op permitted)

end ForeignPages
