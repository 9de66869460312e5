import ForeignPages.Proofs.GuardAccesses
import ForeignPages.Proofs.PageBytes
import ForeignPages.Proofs.Tickets

namespace ForeignPages

variable {World Driver Probe Page : Type} {host : Host World Driver Probe Page}

namespace Moment

/-- The page that a driver answers an acquisition with, and the world as it is then. -/
def delivered? (host : Host World Driver Probe Page) (gfn : Gfn) (t : Moment World Driver Probe Page) :
    Option (Page × World) :=
  t.session.cache.bind fun cache => (t.session.machine cache).delivery? host gfn

/-- What is written to a page, from an offset on: through one of its guards, and with success. -/
def written? (host : Host World Driver Probe Page) (gfn : Gfn) (t : Moment World Driver Probe Page) :
    Option (Nat × List UInt8) :=
  t.op.writes?.bind fun (name, offset, bytes) =>
    if (t.session.guards.find? name).any (·.gfn = gfn) ∧ t.reply host = .nothing then some (offset, bytes) else none

/-- The bytes of a page with what is written to it at a moment. -/
def overwrites (host : Host World Driver Probe Page) (gfn : Gfn) (t : Moment World Driver Probe Page)
    (byte : Nat → UInt8) : Nat → UInt8 :=
  match t.written? host gfn with
  | none => byte
  | some (offset, bytes) => ImageFile.overwrite byte offset bytes.toArray

theorem overwrites_congr {gfn : Gfn} {byte byte' : Nat → UInt8} {i : Nat} (t : Moment World Driver Probe Page)
    (same : byte i = byte' i) : t.overwrites host gfn byte i = t.overwrites host gfn byte' i := by
  unfold overwrites
  cases t.written? host gfn with
  | none => exact same
  | some written => exact ImageFile.overwrite_congr same _ _

end Moment

/-- The bytes of a page by its history: the driver delivers them when it maps the page, and after that only
writes to the page change them. -/
def contentOf (host : Host World Driver Probe Page) (gfn : Gfn) :
    List (Moment World Driver Probe Page) → Nat → UInt8
  | [] => fun _ => 0
  | t :: older =>
    if t.maps host gfn then
      match t.delivered? host gfn with
      | none => fun _ => 0
      | some (page, world) => fun i => host.byte page i world
    else t.overwrites host gfn (contentOf host gfn older)

namespace Session

/-- What happens outside leaves all cached pages alone. Their sizes may change. -/
def Undisturbed (extent : Page → Nat) (sound : Page → World → Prop) (host : Host World Driver Probe Page)
    (s : Session World Driver Probe Page) : Op World Driver Probe → Prop
  | .outside change => ∀ gfn e, s.cached? gfn = some e → host.Spares extent sound e.page s.world (change s.world)
  | _ => True

/-- A page that comes to the cache is sound when the driver delivers it. -/
def MapsSound (sound : Page → World → Prop) (host : Host World Driver Probe Page) (s : Session World Driver Probe Page)
    (op : Op World Driver Probe) : Prop :=
  ∀ gfn page world, Moment.maps host gfn ⟨s, op⟩ = true →
    Moment.delivered? host gfn ⟨s, op⟩ = some (page, world) → sound page world

/-- Sound pages are mapped apart from all cached ones, and nobody else writes to them. -/
structure SharesNothing (apart : Page → Page → Prop) (extent : Page → Nat) (sound : Page → World → Prop)
    (host : Host World Driver Probe Page) (s : Session World Driver Probe Page) (op : Op World Driver Probe) :
    Prop where
  mapsApart : s.Heeds (fun m gfn => m.MapsApart apart host gfn) op
  mapsSound : s.MapsSound sound host op
  undisturbed : s.Undisturbed extent sound host op

theorem onCache_world {s : Session World Driver Probe Page}
    {work : Machine World Driver Probe Page → Reply × Machine World Driver Probe Page}
    (quiet : ∀ m, (work m).2.world = m.world) : (s.onCache work).2.world = s.world := by
  unfold onCache
  split
  · rfl
  · exact quiet _

theorem configure_world {s : Session World Driver Probe Page}
    {work : Machine World Driver Probe Page → Reply × Machine World Driver Probe Page}
    (quiet : ∀ m, (work m).2.world = m.world) : (s.configure work).2.world = s.world := by
  unfold configure
  split
  · exact onCache_world quiet
  · rfl

theorem onGuard_world {s : Session World Driver Probe Page} {name : String}
    {work : Guard → Machine World Driver Probe Page → Reply × Machine World Driver Probe Page}
    (quiet : ∀ g m, (work g m).2.world = m.world) : (s.onGuard name work).2.world = s.world := by
  unfold onGuard
  split
  · rfl
  · exact onCache_world (quiet _)

theorem setOptions_world {s : Session World Driver Probe Page} {options : Options}
    (large : ¬ options.limit < minLimit) :
    (s.setOptions host options).2.world = s.world := by
  unfold setOptions
  split
  · split
    · rfl
    · unfold Machine.withOptions Cache.setLimit
      rw [if_neg large]
      rfl
  · rfl

theorem dropGuard_world (s : Session World Driver Probe Page) (name : String) :
    (s.dropGuard name).2.world = s.world := by
  unfold dropGuard
  split
  · rfl
  · exact onCache_world fun m => m.releaseGuard_world _

/-- An acquisition that is asked for, as it is seen from the session: afterwards a guard may be dropped, which
had the name of the new one. -/
theorem step_acquires {s : Session World Driver Probe Page} {op : Op World Driver Probe} {gfn : Gfn}
    (host : Host World Driver Probe Page) {holder : Holder} {cache : Cache Driver Probe Page}
    (present : s.cache = some cache) (asks : op.acquires? = some (gfn, holder)) :
    ∃ after, (s.step host op).2.cache = some after ∧
      ((s.machine cache).acquire host gfn holder).2.cache.Unguards after ∧
      (s.step host op).2.world = ((s.machine cache).acquire host gfn holder).2.world ∧
      (s.step host op).1 = .ofAcquired ((s.machine cache).acquire host gfn holder).1 holder := by
  cases op with
  | acquire =>
    cases asks
    simp only [step, onCache, present]
    exact ⟨_, rfl, .inl rfl, rfl, rfl⟩
  | get gfn name =>
    cases asks
    simp only [step, get, present]
    cases (s.machine cache).acquire host gfn .guard with
    | mk outcome m =>
      cases outcome with
      | done lease =>
        cases s.guards.find? name with
        | none => exact ⟨_, rfl, .inl rfl, rfl, rfl⟩
        | some old => exact ⟨_, rfl, m.releaseGuard_unguards old.gfn, m.releaseGuard_world old.gfn, rfl⟩
      | refused | broken => exact ⟨_, rfl, .inl rfl, rfl, rfl⟩
  | _ => cases asks

/-- The journal accounts for the pages of every session that such a run leads to. -/
theorem Reach.tidy {s : Session World Driver Probe Page} {apart : Page → Page → Prop} {extent : Page → Nat}
    {sound : Page → World → Prop} {world : World} {past : List (Op World Driver Probe × Reply)}
    (reach : Reach host (SharesNothing apart extent sound host) world past s) :
    s.Sustains (fun m _ => m.Tidy apart []) fun journal => Ledger apart journal [] :=
  (Machine.tidy_lasting apart host).reach (fun _ _ shares => shares.mapsApart) reach

/-- An acquisition leaves the bytes of every page alone that stays cached. -/
theorem acquires_spares {s : Session World Driver Probe Page} {op : Op World Driver Probe} {gfn : Gfn}
    {apart : Page → Page → Prop} {extent : Page → Nat} {sound : Page → World → Prop} {asked : Gfn} {holder : Holder}
    {e d : Entry Page} (separates : host.Separates apart extent sound)
    (held : s.Sustains (fun m _ => m.Tidy apart []) fun journal => Ledger apart journal [])
    (asks : op.acquires? = some (asked, holder)) (heeds : s.Heeds (fun m gfn => m.MapsApart apart host gfn) op)
    (found : s.cached? gfn = some e) (stays : (s.step host op).2.cached? gfn = some d) :
    host.Spares extent sound e.page s.world (s.step host op).2.world := by
  obtain ⟨cache, present, there⟩ := cached?_eq_some.mp found
  obtain ⟨indexed, tidy⟩ := sustains_of_cache held present
  obtain ⟨after, left, unguards, world, _⟩ := step_acquires host present asks
  rw [cached?, left] at stays
  rw [world]
  cases kept : ((s.machine cache).acquire host asked holder).2.cache.store.find? gfn with
  | none => cases (unguards.find?_of_missing kept).symm.trans stays
  | some d' => exact Machine.acquire_spares separates tidy indexed (heeds.calm asks present) there kept

/-- Pages that are cached together share nothing. -/
theorem apart_of_ne {s : Session World Driver Probe Page} {gfn : Gfn} {apart : Page → Page → Prop}
    {extent : Page → Nat} {sound : Page → World → Prop} {other : Gfn} {d e : Entry Page}
    (separates : host.Separates apart extent sound)
    (held : s.Sustains (fun m _ => m.Tidy apart []) fun journal => Ledger apart journal [])
    (found : s.cached? gfn = some d) (there : s.cached? other = some e) (different : other ≠ gfn) :
    apart d.page e.page := by
  obtain ⟨cache, present, stored⟩ := cached?_eq_some.mp found
  rw [cached?, present] at there
  exact (sustains_of_cache held present).2.apart_of_ne separates.symm stored there different

/-- A write through a guard goes to the page of the guard, and no other one sees it. -/
theorem writes_byte {s : Session World Driver Probe Page} {op : Op World Driver Probe} {gfn : Gfn}
    {apart : Page → Page → Prop} {extent : Page → Nat} {sound : Page → World → Prop} {name : String} {offset : Nat}
    {bytes : List UInt8} {e : Entry Page} (separates : host.Separates apart extent sound)
    (held : s.Sustains (fun m _ => m.Tidy apart []) fun journal => Ledger apart journal [])
    (live : ∀ name g, s.guards.find? name = some g → ∃ e, s.cached? g.gfn = some e)
    (sounds : ∀ gfn e, s.cached? gfn = some e → sound e.page s.world) (asks : op.writes? = some (name, offset, bytes))
    (found : s.cached? gfn = some e) :
    sound e.page (s.step host op).2.world ∧ ∀ i < extent e.page, host.byte e.page i (s.step host op).2.world =
      Moment.overwrites host gfn ⟨s, op⟩ (fun i => host.byte e.page i s.world) i := by
  have isSound := sounds gfn e found
  unfold Moment.overwrites Moment.written? Moment.reply
  rw [asks]
  dsimp only [Option.bind_some]
  cases taken : s.guards.find? name with
  | none =>
    have misused : s.step host op = (.misused .noSuchGuard, s) := by
      rw [s.step_of_writes host asks, onGuard, taken]
    rw [misused, Option.any_none, if_neg fun own => Bool.false_ne_true own.1]
    exact ⟨isSound, fun _ _ => rfl⟩
  | some g =>
    obtain ⟨d, cached⟩ := live name g taken
    rw [step_write asks taken cached, Option.any_some]
    by_cases covers : g.Covers (host.size d.page s.world) offset bytes.length
    · rw [if_pos covers]
      by_cases same : g.gfn = gfn
      · cases (same ▸ cached).symm.trans found
        rw [if_pos ⟨decide_eq_true same, rfl⟩]
        exact ⟨separates.stays_sound e.page offset bytes s.world isSound covers.2.2,
          separates.byte_write e.page offset bytes s.world isSound covers.2.2⟩
      · have far := apart_of_ne separates held cached found (Ne.symm same)
        rw [if_neg fun own => same (of_decide_eq_true own.1)]
        exact separates.write d.page offset bytes s.world e.page (sounds _ d cached) covers.2.2 far isSound
    · simp only [if_neg covers, reduceCtorEq, and_false, if_false]
      exact ⟨isSound, fun _ _ => trivial⟩

theorem overwrites_of_idle {op : Op World Driver Probe} (host : Host World Driver Probe Page)
    (s : Session World Driver Probe Page) (idle : op.writes? = none) (gfn : Gfn) (byte : Nat → UInt8) :
    Moment.overwrites host gfn ⟨s, op⟩ byte = byte := by
  unfold Moment.overwrites Moment.written?
  rw [idle]
  rfl

/-- A cached page that stays cached keeps its bytes, but for what is written to it through a guard. -/
theorem Reach.step_byte {s : Session World Driver Probe Page} {op : Op World Driver Probe} {gfn : Gfn}
    {apart : Page → Page → Prop} {extent : Page → Nat} {sound : Page → World → Prop} {world : World}
    {past : List (Op World Driver Probe × Reply)} {e d : Entry Page} (separates : host.Separates apart extent sound)
    (reach : Reach host (SharesNothing apart extent sound host) world past s)
    (sounds : ∀ gfn e, s.cached? gfn = some e → sound e.page s.world)
    (shares : s.SharesNothing apart extent sound host op) (found : s.cached? gfn = some e)
    (stays : (s.step host op).2.cached? gfn = some d) :
    sound e.page (s.step host op).2.world ∧ ∀ i < extent e.page, host.byte e.page i (s.step host op).2.world =
      Moment.overwrites host gfn ⟨s, op⟩ (fun i => host.byte e.page i s.world) i := by
  have held := reach.tidy
  have ends : op.ends = true → (s.step host op).2 = s := by
    intro ends
    rcases s.step_ends host ends with ⟨_, fresh⟩ | ⟨_, same⟩
    · cases (fresh gfn).symm.trans stays
    · exact same
  have quiet : op.writes? = none → (s.step host op).2.world = s.world →
      sound e.page (s.step host op).2.world ∧ ∀ i < extent e.page, host.byte e.page i (s.step host op).2.world =
        Moment.overwrites host gfn ⟨s, op⟩ (fun i => host.byte e.page i s.world) i := by
    intro idle same
    rw [overwrites_of_idle host s idle, same]
    exact ⟨sounds gfn e found, fun _ _ => rfl⟩
  cases op with
  | create | discard | bind => exact quiet rfl (congrArg Session.world (ends rfl))
  | setOptions options =>
    refine quiet rfl ?_
    by_cases small : options.limit < minLimit
    · exact congrArg Session.world (ends (decide_eq_true small))
    · exact setOptions_world small
  | setKernel | setPolicy | setProbe => exact quiet rfl (configure_world fun _ => rfl)
  | setCounting counting => exact quiet rfl (configure_world fun _ => by cases counting <;> rfl)
  | setLimit limit => exact quiet rfl (onCache_world fun m => by split <;> rfl)
  | release h => exact quiet rfl (onCache_world fun m => m.release_world h)
  | dropGuard name => exact quiet rfl (s.dropGuard_world name)
  | read | readWord | readHeader => exact quiet rfl (onGuard_world fun _ _ => rfl)
  | write | writeWord | writeHeader =>
    have live : ∀ name g, s.guards.find? name = some g → ∃ e, s.cached? g.gfn = some e :=
      fun _ _ taken => (reach.guard_cached taken).imp fun _ => And.left
    exact writes_byte separates held live sounds rfl found
  | acquire | get =>
    rw [overwrites_of_idle host s rfl]
    exact acquires_spares separates held rfl shares.mapsApart found stays (sounds gfn e found)
  | outside change =>
    rw [overwrites_of_idle host s rfl]
    exact shares.undisturbed gfn e found (sounds gfn e found)

/-- A page that was not cached before is the one that the driver delivered, and at most a probe came after that.
Whoever asked for it learns the size that it was delivered with. -/
theorem step_delivers {s : Session World Driver Probe Page} {op : Op World Driver Probe} {gfn : Gfn} {d : Entry Page}
    (indexed : ∀ cache, s.cache = some cache → cache.store.Indexed) (missing : s.cached? gfn = none)
    (found : (s.step host op).2.cached? gfn = some d) :
    ∃ holder world, op.acquires? = some (gfn, holder) ∧
      Moment.delivered? host gfn ⟨s, op⟩ = some (d.page, world) ∧
      (s.step host op).1 = .ofAcquired (.done ⟨host.address d.page, host.size d.page world⟩) holder ∧
      ((s.step host op).2.world = world ∨
        ∃ probe h count, (s.step host op).2.world = (host.probe probe h count world).2) := by
  obtain ⟨cache, holder, _, present, asks, _⟩ := step_maps indexed missing found
  obtain ⟨after, left, unguards, left', reply⟩ := step_acquires host present asks
  rw [cached?, left] at found
  obtain ⟨d', there, page⟩ := unguards.recounts.page_before found
  rw [cached?, present] at missing
  obtain ⟨world, delivered, done, probed⟩ :=
    Machine.acquire_delivers (m := s.machine cache) (indexed cache present) missing there
  rw [page] at delivered done
  rw [reply, left', done]
  refine ⟨holder, world, asks, ?_, rfl, probed⟩
  rw [Moment.delivered?, present]
  exact delivered

end Session

/-- What a course leads to is reached by its operations. -/
theorem Session.Course.reached {world : World} {s : Session World Driver Probe Page}
    {moments : List (Moment World Driver Probe Page)}
    {allowed : Session World Driver Probe Page → Op World Driver Probe → Prop}
    (course : Session.Course host allowed (.start world) moments s) :
    ∃ past, Session.Reach host allowed world past s :=
  ⟨_, Session.Reach.followed .start course⟩

/-- Every cached page is sound, and its bytes are those of its history. -/
theorem Session.Course.content {apart : Page → Page → Prop} {extent : Page → Nat} {sound : Page → World → Prop}
    {world : World} {s : Session World Driver Probe Page} {moments : List (Moment World Driver Probe Page)}
    {gfn : Gfn} {e : Entry Page} (separates : host.Separates apart extent sound)
    (course : Session.Course host (Session.SharesNothing apart extent sound host) (.start world) moments s)
    (found : s.cached? gfn = some e) :
    sound e.page s.world ∧ ∀ i < extent e.page, host.byte e.page i s.world = contentOf host gfn moments i := by
  induction course generalizing gfn e with
  | start => cases found
  | reorder _ present same ih =>
    refine ih ?_
    rw [cached?, present]
    exact (same.find?_eq gfn).symm.trans found
  | @step moments s op course shares ih =>
    obtain ⟨past, reach⟩ := course.reached
    have indexed : ∀ cache, s.cache = some cache → cache.store.Indexed := fun _ present => reach.indexed present
    cases before : s.cached? gfn with
    | none =>
      obtain ⟨_, delivery, _, delivered, _, probed⟩ := step_delivers indexed before found
      have maps : Moment.maps host gfn ⟨s, op⟩ = true := by
        rw [Moment.maps, before, show (Moment.after host ⟨s, op⟩).cached? gfn = some e from found]
        rfl
      have isSound := shares.mapsSound gfn e.page delivery maps delivered
      rw [contentOf, if_pos maps, delivered]
      rcases probed with same | ⟨probe, h, count, same⟩
      · rw [same]
        exact ⟨isSound, fun _ _ => rfl⟩
      · rw [same]
        exact separates.probe probe h count delivery e.page isSound
    | some old =>
      have maps : Moment.maps host gfn ⟨s, op⟩ = false := by
        rw [Moment.maps, before]
        rfl
      obtain ⟨isSound, bytes⟩ := reach.step_byte separates (fun _ _ there => (ih there).1) shares before found
      rw [step_page indexed before found, contentOf, maps, if_neg Bool.false_ne_true]
      refine ⟨isSound, fun i within => (bytes i within).trans ?_⟩
      exact Moment.overwrites_congr _ ((ih before).2 i within)

end ForeignPages
