import ForeignPages.Proofs.Links

namespace ForeignPages

variable {World Driver Probe Page : Type} {host : Host World Driver Probe Page}

namespace Machine

/-- The page that a driver answers an acquisition with, and the machine after room was made for it. -/
def answer? (host : Host World Driver Probe Page) (m : Machine World Driver Probe Page) (gfn : Gfn) :
    Option (Machine World Driver Probe Page × Page) :=
  match m.cache.driver, m.cache.store.find? gfn, m.makeRoom host with
  | some driver, none, (.ok (), room) => room.countMapping?.bind fun counted =>
    (host.map driver gfn .rw counted.world).1.toOption.map fun page => (room, page)
  | _, _, _ => none

/-- The answer to a question for a page can be computed. -/
theorem answer?_eq_some {m : Machine World Driver Probe Page} {gfn : Gfn} {room : Machine World Driver Probe Page}
    {page : Page} :
    m.answer? host gfn = some (room, page) ↔ m.Answers host gfn room page := by
  constructor
  · intro answer
    unfold answer? at answer
    split at answer
    · next driver _ bound missing made =>
      obtain ⟨counted, count, answer⟩ := Option.bind_eq_some_iff.mp answer
      obtain ⟨mapped, result, same⟩ := Option.map_eq_some_iff.mp answer
      cases same
      refine ⟨driver, counted, bound, missing, made, count, ?_⟩
      cases called : (host.map driver gfn .rw counted.world).1 with
      | error _ => rw [called] at result; cases result
      | ok _ => rw [called] at result; cases result; rfl
    · cases answer
  · rintro ⟨driver, counted, bound, missing, made, count, answer⟩
    simp only [answer?, bound, missing, made, count, answer, Option.bind_some, Except.toOption, Option.map_some]

instance {m : Machine World Driver Probe Page} {gfn : Gfn} {apart : Page → Page → Prop} [DecidableRel apart] :
    Decidable (m.MapsApart apart host gfn) :=
  decidable_of_iff (∀ answer ∈ m.answer? host gfn, ∀ e ∈ answer.1.cache.store.entries, apart e.page answer.2) (by
    constructor
    · intro far room page answers other e found
      exact far (room, page) (answer?_eq_some.mpr answers) e (Store.mem_entries.mpr ⟨other, found⟩)
    · intro calm answer given e cached
      obtain ⟨other, found⟩ := Store.mem_entries.mp cached
      exact calm answer.1 answer.2 (answer?_eq_some.mp given) other e found)

end Machine

instance : DecidableRel host.Apart := fun p q => inferInstanceAs (Decidable (host.address p ≠ host.address q))

namespace Session

instance {calm : Machine World Driver Probe Page → Gfn → Prop} [∀ m gfn, Decidable (calm m gfn)]
    (s : Session World Driver Probe Page) : (op : Op World Driver Probe) → Decidable (s.Heeds calm op)
  | .acquire gfn | .get gfn _ =>
    inferInstanceAs (Decidable (∀ cache ∈ s.cache, calm (s.machine cache) gfn))
  | .create _ | .discard | .bind _ | .setKernel _ | .setPolicy _ | .setProbe _ | .setCounting _ | .setOptions _
  | .setLimit _ | .release _ | .dropGuard _ | .read .. | .write .. | .readWord .. | .writeWord ..
  | .readHeader .. | .writeHeader .. | .outside _ => .isTrue trivial

/-- Every operation of a run is allowed when its turn comes. -/
def Permits (host : Host World Driver Probe Page)
    (allowed : Session World Driver Probe Page → Op World Driver Probe → Prop)
    (s : Session World Driver Probe Page) : List (Op World Driver Probe) → Prop
  | [] => True
  | op :: rest => allowed s op ∧ Permits host allowed (s.step host op).2 rest

instance {allowed : Session World Driver Probe Page → Op World Driver Probe → Prop} [∀ s op, Decidable (allowed s op)]
    (s : Session World Driver Probe Page) :
    (ops : List (Op World Driver Probe)) → Decidable (s.Permits host allowed ops)
  | [] => .isTrue trivial
  | op :: rest =>
    have : Decidable (Permits host allowed (s.step host op).2 rest) := instDecidablePermits (s.step host op).2 rest
    inferInstanceAs (Decidable (allowed s op ∧ Permits host allowed (s.step host op).2 rest))

theorem Heeds.imp {calm calm' : Machine World Driver Probe Page → Gfn → Prop}
    {s : Session World Driver Probe Page} {op : Op World Driver Probe} (heeded : s.Heeds calm op)
    (weaker : ∀ m gfn, calm m gfn → calm' m gfn) : s.Heeds calm' op := by
  cases op with
  | acquire gfn => exact fun cache present => weaker _ gfn (heeded cache present)
  | get gfn _ => exact fun cache present => weaker _ gfn (heeded cache present)
  | _ => trivial

theorem Permits.imp {allowed allowed' : Session World Driver Probe Page → Op World Driver Probe → Prop}
    {s : Session World Driver Probe Page} {ops : List (Op World Driver Probe)} (permitted : s.Permits host allowed ops)
    (weaker : ∀ s op, allowed s op → allowed' s op) :
    s.Permits host allowed' ops := by
  induction ops generalizing s with
  | nil => trivial
  | cons op rest ih => exact ⟨weaker s op permitted.1, ih permitted.2⟩

/-- A rule for single operations can be added. -/
theorem Permits.and_of_mem {allowed : Session World Driver Probe Page → Op World Driver Probe → Prop}
    {granted : Op World Driver Probe → Prop} {s : Session World Driver Probe Page}
    {ops : List (Op World Driver Probe)} (permitted : s.Permits host allowed ops) (all : ∀ op ∈ ops, granted op) :
    s.Permits host (fun s op => allowed s op ∧ granted op) ops := by
  induction ops generalizing s with
  | nil => trivial
  | cons op rest ih =>
    exact ⟨⟨permitted.1, all op List.mem_cons_self⟩,
      ih permitted.2 fun other member => all other (List.mem_cons_of_mem op member)⟩

/-- A permitted run leads from a session that was reached to another one. -/
theorem Reach.run {allowed : Session World Driver Probe Page → Op World Driver Probe → Prop} {world : World}
    {past : List (Op World Driver Probe × Reply)} {s : Session World Driver Probe Page}
    (reach : Reach host allowed world past s) {ops : List (Op World Driver Probe)}
    (permitted : s.Permits host allowed ops) : ∃ later, Reach host allowed world later (s.run host ops) := by
  induction ops generalizing past s with
  | nil => exact ⟨past, reach⟩
  | cons op rest ih => exact ih (reach.step op permitted.1) permitted.2

end Session

end ForeignPages
