import ForeignPages.Proofs.SessionReach

namespace ForeignPages

variable {World Driver Probe Page : Type} {host : Host World Driver Probe Page}

namespace Op

/-- The guard and the range that an operation reads, and the reply that it makes of the bytes. -/
def reads? : Op World Driver Probe → Option (String × Nat × Nat × (List UInt8 → Reply))
  | .read name offset count => some (name, offset, count, .bytes)
  | .readWord name offset => some (name, offset, Layout.word64.width, fun bytes => .word (Layout.word64.decode bytes))
  | .readHeader name offset =>
    some (name, offset, Header.layout.width, fun bytes => .header (Header.layout.decode bytes))
  | _ => none

/-- The guard through which an operation writes, and the bytes that it writes from an offset on. -/
def writes? : Op World Driver Probe → Option (String × Nat × List UInt8)
  | .write name offset bytes => some (name, offset, bytes)
  | .writeWord name offset value => some (name, offset, Layout.word64.encode value)
  | .writeHeader name offset value => some (name, offset, Header.layout.encode value)
  | _ => none

end Op

/-- A range lies within a guard and within the present size of its page, and its end is a 64-bit word. -/
def Guard.Covers (g : Guard) (size offset count : Nat) : Prop :=
  offset + count < UInt64.size ∧ offset + count ≤ g.size ∧ offset + count ≤ size

instance (g : Guard) (size offset count : Nat) : Decidable (g.Covers size offset count) :=
  inferInstanceAs (Decidable (_ ∧ _))

/-- An access through a guard of a cached page is admitted by the two sizes alone. -/
theorem Machine.pageFor_of_found {m : Machine World Driver Probe Page} {g : Guard} {e : Entry Page}
    (found : m.cache.store.find? g.gfn = some e) (offset count : Nat) :
    m.pageFor host g offset count =
      if g.Covers (host.size e.page m.world) offset count then .ok e.page else .error .outOfBounds := by
  unfold pageFor Guard.admits Guard.Covers
  rw [found]
  by_cases word : offset + count < UInt64.size
  · by_cases within : offset + count ≤ g.size
    · simp only [word, within, true_and, decide_true, Bool.and_self, if_true]
    · simp only [within, false_and, and_false, decide_false, Bool.and_false, Bool.false_eq_true, if_false]
  · simp only [word, false_and, decide_false, Bool.false_and, Bool.false_eq_true, if_false]

namespace Session

/-- All operations that read are one: they read a range of bytes, and put it into a form of their own. -/
theorem step_of_reads {op : Op World Driver Probe} {name : String} {offset count : Nat} {reply : List UInt8 → Reply}
    (host : Host World Driver Probe Page) (s : Session World Driver Probe Page)
    (asks : op.reads? = some (name, offset, count, reply)) :
    s.step host op = s.onGuard name fun g m => (.ofExcept reply (m.readBytes host g offset count), m) := by
  have decoded : ∀ {α : Type} (layout : Layout α) (value : α → Reply) (m : Machine World Driver Probe Page) (g : Guard),
      Reply.ofExcept value (m.readAs host layout g offset) =
        .ofExcept (fun bytes => value (layout.decode bytes)) (m.readBytes host g offset layout.width) := by
    intro α layout value m g
    unfold Machine.readAs
    cases m.readBytes host g offset layout.width <;> rfl
  cases op with
  | read => cases asks; rfl
  | readWord => cases asks; simp only [step, decoded]
  | readHeader => cases asks; simp only [step, decoded]
  | _ => cases asks

/-- All operations that write are one: they write a range of bytes. -/
theorem step_of_writes {op : Op World Driver Probe} {name : String} {offset : Nat} {bytes : List UInt8}
    (host : Host World Driver Probe Page) (s : Session World Driver Probe Page)
    (asks : op.writes? = some (name, offset, bytes)) :
    s.step host op = s.onGuard name fun g m =>
      (.ofExcept (fun _ => .nothing) (m.write host g offset bytes).1, (m.write host g offset bytes).2) := by
  cases op with
  | write | writeWord | writeHeader => cases asks; rfl
  | _ => cases asks

theorem onGuard_of_found {s : Session World Driver Probe Page} {name : String} {g : Guard}
    {work : Guard → Machine World Driver Probe Page → Reply × Machine World Driver Probe Page}
    (taken : s.guards.find? name = some g) {cache : Cache Driver Probe Page} (present : s.cache = some cache) :
    s.onGuard name work = ((work g (s.machine cache)).1, s.resume (work g (s.machine cache)).2) := by
  simp only [onGuard, taken, onCache, present]

/-- A read through a guard replies the bytes in its range, or the range is out of bounds. It changes nothing. -/
theorem step_read {s : Session World Driver Probe Page} {op : Op World Driver Probe} {name : String}
    {offset count : Nat} {reply : List UInt8 → Reply} {g : Guard} {e : Entry Page}
    (asks : op.reads? = some (name, offset, count, reply)) (taken : s.guards.find? name = some g)
    (cached : s.cached? g.gfn = some e) :
    s.step host op = if g.Covers (host.size e.page s.world) offset count then
      (reply (host.read e.page offset count s.world), s) else (.refused .outOfBounds, s) := by
  obtain ⟨cache, present, found⟩ := cached?_eq_some.mp cached
  have range : (s.machine cache).pageFor host g offset count =
      if g.Covers (host.size e.page s.world) offset count then .ok e.page else .error .outOfBounds :=
    Machine.pageFor_of_found found offset count
  rw [s.step_of_reads host asks, onGuard_of_found taken present, resume_machine present, Machine.readBytes_eq, range]
  split <;> rfl

/-- A write through a guard goes to the page, or the range is out of bounds and nothing changes. -/
theorem step_write {s : Session World Driver Probe Page} {op : Op World Driver Probe} {name : String} {offset : Nat}
    {bytes : List UInt8} {g : Guard} {e : Entry Page} (asks : op.writes? = some (name, offset, bytes))
    (taken : s.guards.find? name = some g) (cached : s.cached? g.gfn = some e) :
    s.step host op = if g.Covers (host.size e.page s.world) offset bytes.length then
      (.nothing, { s with world := host.write e.page offset bytes s.world }) else (.refused .outOfBounds, s) := by
  obtain ⟨cache, present, found⟩ := cached?_eq_some.mp cached
  have range : (s.machine cache).pageFor host g offset bytes.length =
      if g.Covers (host.size e.page s.world) offset bytes.length then .ok e.page else .error .outOfBounds :=
    Machine.pageFor_of_found found offset bytes.length
  rw [s.step_of_writes host asks, onGuard_of_found taken present, Machine.write, range]
  by_cases covers : g.Covers (host.size e.page s.world) offset bytes.length
  · simp only [if_pos covers, resume, machine, present]
    rfl
  · simp only [if_neg covers, resume_machine present]
    rfl

end Session

end ForeignPages
