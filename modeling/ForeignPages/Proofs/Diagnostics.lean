import ForeignPages.Proofs.MapAccounting
import ForeignPages.Proofs.Tellings

namespace ForeignPages

variable {World Driver Probe Page : Type} {host : Host World Driver Probe Page}

namespace Moment

/-- What is told at a moment, the newest first. -/
def told (host : Host World Driver Probe Page) (t : Moment World Driver Probe Page) : List Event :=
  tellings (t.acts host)

/-- What is logged at a moment, the newest first. -/
def log (host : Host World Driver Probe Page) (t : Moment World Driver Probe Page) : List LogEntry :=
  (t.told host).map Event.entry

/-- The cache that has to make room: a page is acquired that is not cached, while the cache is full. -/
def crowded? (t : Moment World Driver Probe Page) : Option (Cache Driver Probe Page) :=
  match t.session.cache, t.op.acquires? with
  | some cache, some (gfn, _) => if cache.Crowded gfn then some cache else none
  | _, _ => none

/-- The page that comes to the cache, and the handle under which it is handed out. -/
def arrival? (host : Host World Driver Probe Page) (t : Moment World Driver Probe Page) : Option (Gfn × Handle) :=
  match t.op.acquires? with
  | some (gfn, _) => if (t.session.cached? gfn).isNone then (t.reply host).handle?.map (gfn, ·) else none
  | none => none

/-- If there is a cache, it ends. -/
def closes (host : Host World Driver Probe Page) (t : Moment World Driver Probe Page) : Bool :=
  match t.op, t.reply host with
  | .create _, _ | .discard, _ | .setOptions _, .refused _ => true
  | _, _ => false

/-- The cache that ends. -/
def ending? (host : Host World Driver Probe Page) (t : Moment World Driver Probe Page) :
    Option (Cache Driver Probe Page) :=
  if t.closes host then t.session.cache else none

/-- The number of pages that are given back because another driver is attached. -/
def unbound (host : Host World Driver Probe Page) (t : Moment World Driver Probe Page) : Nat :=
  match t.op with
  | .bind _ => (unmappings (t.acts host)).length
  | _ => 0

end Moment

/-- All that was told in the life of a cache. -/
def lifeStory (host : Host World Driver Probe Page) (moments : List (Moment World Driver Probe Page)) : List Event :=
  ((sinceCreated moments).map (Moment.told host)).flatten

/-- All that was logged in the life of a cache. -/
def lifeLog (host : Host World Driver Probe Page) (moments : List (Moment World Driver Probe Page)) :
    List LogEntry := (lifeStory host moments).map Event.entry

/-- The number in a field of an entry. -/
def LogEntry.number (e : LogEntry) (key : String) : Nat :=
  match e.fields.lookup key with
  | some (.number n) => n
  | _ => 0

/-- The number of pages that were evicted according to an entry of the log. -/
def LogEntry.deleted (e : LogEntry) : Nat :=
  if e.message = "page cache cleanup" then e.number "deleted" else 0

/-- What has to be logged about a page that is not present, by the answer of the probe. -/
def absence (gfn : Gfn) : Except IoError Bool → LogEntry
  | .ok _ => ⟨.error, "page not resident", [("gfn", .text gfn.text)]⟩
  | .error source => ⟨.error, "residency check failed", [("gfn", .text gfn.text), ("err", .text source.text)]⟩

namespace Session

/-- An operation does not break off. -/
def Completes (host : Host World Driver Probe Page) (s : Session World Driver Probe Page)
    (op : Op World Driver Probe) : Prop := (s.step host op).1.breaks = false

instance (s : Session World Driver Probe Page) (op : Op World Driver Probe) : Decidable (s.Completes host op) :=
  inferInstanceAs (Decidable (_ = _))

/-- What the log says about a cache, its history and the next operation on it: every change that the operation
makes has its entry, with level, message and fields, and no entry is there without the change. -/
structure Diagnosed (host : Host World Driver Probe Page) (moments : List (Moment World Driver Probe Page))
    (s : Session World Driver Probe Page) : Prop where
  /-- A full cache logs one cleanup for each page that is missing, with the numbers of the state before. -/
  cleanups : ∀ op, s.Completes host op →
    (Moment.log host ⟨s, op⟩).filter (·.message = "page cache cleanup") =
      ((Moment.crowded? ⟨s, op⟩).map fun cache => ⟨.debug, "page cache cleanup",
        [("total", .number cache.store.entries.length), ("unused", .number cache.free),
          ("deleted", .number (min (cache.limit / 2) cache.free))]⟩).toList
  /-- As many pages leave the cache as are logged to be evicted. -/
  evicted : ∀ op entry, s.Completes host op → entry ∈ Moment.log host ⟨s, op⟩ →
    entry.message = "page cache cleanup" → ∃ cache, s.cache = some cache ∧
      entry.number "deleted" = cache.store.entries.countP fun e => ((s.step host op).2.cached? e.gfn).isNone
  /-- Each page that was missing and is handed out was mapped, and is logged with its handle. -/
  arrivals : ∀ op, s.Completes host op →
    (Moment.log host ⟨s, op⟩).filter (·.message = "page mapped") =
      ((Moment.arrival? host ⟨s, op⟩).map fun page => ⟨.trace, "page mapped",
        [("gfn", .text page.1.text), ("handle", .text page.2.text)]⟩).toList
  /-- An acquisition of a page that is not present leads to one error, which names the page and says how the
  probe answered. -/
  absent : ∀ op gfn holder other, op.acquires? = some (gfn, holder) →
    (s.step host op).1 = .refused (.pageNotPresent other) → other = gfn ∧ ∃ probe start size answer,
      .probed probe start size answer ∈ Moment.acts host ⟨s, op⟩ ∧
      (Moment.log host ⟨s, op⟩).filter (·.level = .error) = [absence gfn answer]
  /-- A mapping that fails leads to one error if that is wanted. -/
  failed : ∀ op gfn holder other source, op.acquires? = some (gfn, holder) →
    (s.step host op).1 = .refused (.mapFailed other source) → other = gfn ∧ ∃ cache, s.cache = some cache ∧
      (Moment.log host ⟨s, op⟩).filter (·.level = .error) = if cache.logMapFailures then
        [⟨.error, "failed to map page", [("gfn", .text gfn.text), ("source", .text source.text)]⟩] else []
  /-- No other acquisition leads to an error. -/
  calm : ∀ op asked, op.acquires? = some asked → s.Completes host op → (s.step host op).1.absent = false →
    (s.step host op).1.unmapped = false → (Moment.log host ⟨s, op⟩).filter (·.level = .error) = []
  /-- A release of a page that only guards hold leads to one warning with their number, and to nothing else. -/
  warned : ∀ h gfn guards, s.unreferenced? h = some (gfn, guards) →
    guards = s.guards.values.countP (·.gfn = gfn) ∧
      Moment.log host ⟨s, .release h⟩ = [⟨.warn, "released a page without raw references",
        [("gfn", .text gfn.text), ("guards", .number guards)]⟩] ∧
      s.step host (.release h) =
        (.nothing, { s with journal := .told (.releasedUnreferenced gfn guards) :: s.journal })
  /-- Nobody else is warned. -/
  unwarned : ∀ op, s.Completes host op → (∀ h, op = .release h → s.unreferenced? h = none) →
    (Moment.log host ⟨s, op⟩).filter (·.level = .warn) = []
  /-- The end of a cache is logged with the number of pages that it still has. -/
  endings : ∀ op, s.Completes host op →
    (Moment.log host ⟨s, op⟩).filter (·.message = "page cache destroyed") =
      ((Moment.ending? host ⟨s, op⟩).map fun cache => ⟨.debug, "page cache destroyed",
        [("count", .number cache.store.entries.length)]⟩).toList
  /-- The pages that were mapped in the life of a cache were evicted, unbound, or are there at its end. -/
  balanced : ∀ op count, s.Completes host op →
    ⟨.debug, "page cache destroyed", [("count", .number count)]⟩ ∈ Moment.log host ⟨s, op⟩ →
    (lifeLog host moments).countP (·.message = "page mapped") = ((lifeLog host moments).map LogEntry.deleted).sum +
      ((sinceCreated moments).map (Moment.unbound host)).sum + count

end Session

theorem Event.deleted_eq (event : Event) : event.entry.deleted = event.deleted := by
  cases event <;> simp [LogEntry.deleted, LogEntry.number, entry, message, details, Event.deleted, List.lookup_cons]

/-- The entry for an absent page names the page, and the failure of the probe if there was one. -/
theorem Event.entry_denial (gfn : Gfn) (answer : Except IoError Bool) :
    (denial gfn answer).entry = absence gfn answer := by
  cases answer <;> rfl

theorem Event.countP_maps (events : List Event) :
    (events.map Event.entry).countP (·.message = "page mapped") = events.countP Event.maps := by
  rw [List.countP_map]
  exact List.countP_congr fun event _ => by rw [maps_eq]; rfl

theorem Event.sum_deleted (events : List Event) :
    ((events.map Event.entry).map LogEntry.deleted).sum = (events.map Event.deleted).sum := by
  rw [List.map_map]
  exact congrArg List.sum (List.map_congr_left fun event _ => event.deleted_eq)

/-- What a message or a level picks from the log is what the kind of the event picks from what was told. -/
theorem Moment.filter_log (t : Moment World Driver Probe Page) {p : LogEntry → Bool} {q : Event → Bool}
    (tied : ∀ event, q event = p event.entry) :
    (t.log host).filter p = ((t.told host).filter q).map Event.entry := by
  rw [log, List.filter_map]
  exact congrArg _ (List.filter_congr fun event _ => (tied event).symm)

namespace Session

/-- An acquisition reports itself, as it is seen from the session. -/
theorem step_reported {s : Session World Driver Probe Page} {op : Op World Driver Probe} {gfn : Gfn} {holder : Holder}
    {cache : Cache Driver Probe Page} (present : s.cache = some cache) (indexed : cache.store.Indexed)
    (asks : op.acquires? = some (gfn, holder)) (completes : s.Completes host op) :
    ∃ outcome after d, (s.machine cache).Reported gfn outcome (Moment.acts host ⟨s, op⟩) after ∧
      (s.step host op).1 = .ofAcquired outcome holder ∧ (s.step host op).2.cache = some d ∧ after.Unguards d := by
  obtain ⟨outcome, after, d, dealt, reply, left, unguards, _⟩ := step_dealt host present indexed asks
  refine ⟨outcome, after, d, dealt.reported indexed fun f broken => ?_, reply, left, unguards⟩
  rw [Completes, reply, broken, Reply.ofAcquired_of_broken] at completes
  cases completes

theorem told_of_uncreated {s : Session World Driver Probe Page} {op : Op World Driver Probe} {asked : Gfn × Holder}
    (uncreated : s.cache = none) (asks : op.acquires? = some asked) :
    Moment.told host ⟨s, op⟩ = [] := congrArg tellings (acts_of_uncreated uncreated asks)

/-- What can be told about an operation that acquires no page. -/
inductive Tells (s : Session World Driver Probe Page) (op : Op World Driver Probe) : Event → Prop
  | policy {event : Event} : event.ofPolicy = true → Tells s op event
  | warned {h : Handle} {gfn : Gfn} {guards : Nat} : op = .release h → s.unreferenced? h = some (gfn, guards) →
      Tells s op (.releasedUnreferenced gfn guards)
  | ended {cache : Cache Driver Probe Page} : s.cache = some cache →
      Tells s op (.destroyed cache.store.entries.length)

theorem tellings_farewell (s : Session World Driver Probe Page) :
    tellings s.farewell = (s.cache.map fun cache => .destroyed cache.store.entries.length).toList := by
  unfold farewell
  cases s.cache with
  | none => rfl
  | some cache => exact congrArg (List.cons _) (tellings_returns _)

theorem tellings_reproach (s : Session World Driver Probe Page) (h : Handle) :
    tellings (s.reproach h) =
      ((s.unreferenced? h).map fun only => Event.releasedUnreferenced only.1 only.2).toList := by
  unfold reproach
  cases s.unreferenced? h <;> rfl

end Session

/-- Reading the release file tells of nothing but the policy. -/
theorem KernelVersion.ofPolicy_of_ofFile {content : Except IoError (List UInt8)} {event : Event}
    (told : event ∈ (KernelVersion.ofFile content).2) : event.ofPolicy = true := by
  unfold ofFile read at told
  split at told
  · cases List.mem_singleton.mp told
    rfl
  · split at told
    · cases told
    · cases List.mem_singleton.mp told
      rfl

theorem Cache.ofPolicy_of_selection {c : Cache Driver Probe Page} {world : World} {event : Event}
    (told : event ∈ tellings (c.selection host world)) : event.ofPolicy = true := by
  unfold selection at told
  split at told
  · cases told
  · rcases List.mem_cons.mp told with rfl | kernel
    · rfl
    · obtain ⟨act, member, same⟩ := List.mem_filterMap.mp kernel
      obtain ⟨other, read, rfl⟩ := List.mem_map.mp (List.mem_reverse.mp member)
      cases same
      exact KernelVersion.ofPolicy_of_ofFile read

namespace Session

theorem tells_of_farewell {s : Session World Driver Probe Page} {op : Op World Driver Probe} {event : Event}
    (told : event ∈ tellings s.farewell) : s.Tells op event := by
  rw [tellings_farewell] at told
  obtain ⟨cache, present, rfl⟩ := Option.map_eq_some_iff.mp (Option.mem_toList.mp told)
  exact .ended present

/-- Operations that acquire nothing tell only of what their kind can tell of. -/
theorem Passes.tells {s : Session World Driver Probe Page} {op : Op World Driver Probe} {reply : Reply}
    {acts : List (Act Driver Probe Page)} (passes : s.Passes host op reply acts) (idle : op.acquires? = none) :
    ∀ event ∈ tellings acts, s.Tells op event := by
  intro event told
  cases passes with
  | idle => cases told
  | released =>
    rw [tellings_reproach] at told
    obtain ⟨_, found, rfl⟩ := Option.map_eq_some_iff.mp (Option.mem_toList.mp told)
    exact .warned rfl found
  | acquired _ asks => cases idle.symm.trans asks
  | created driver =>
    rw [tellings_append] at told
    rcases List.mem_append.mp told with attached | ended
    · cases driver with
      | none => cases attached
      | some driver => exact .policy (Cache.ofPolicy_of_selection attached)
    · exact tells_of_farewell ended
  | bound present =>
    rw [tellings_append, tellings_returns, List.append_nil] at told
    exact .policy (Cache.ofPolicy_of_selection told)
  | discarded | consumed => exact tells_of_farewell told

theorem told_tells {s : Session World Driver Probe Page} {op : Op World Driver Probe}
    (host : Host World Driver Probe Page) (indexed : ∀ cache, s.cache = some cache → cache.store.Indexed)
    (idle : op.acquires? = none) :
    ∀ event ∈ Moment.told host ⟨s, op⟩, s.Tells op event :=
  (Moment.passes host ⟨s, op⟩ indexed).1.tells idle

/-- Without an acquisition no page comes or goes by itself. -/
theorem Tells.plain {s : Session World Driver Probe Page} {op : Op World Driver Probe} {event : Event}
    (tells : s.Tells op event) :
    event.evicts = false ∧ event.maps = false ∧ event.deleted = 0 := by
  cases tells with
  | policy chosen =>
    cases event with
    | policySelected | releaseUnreadable | releaseMalformed => exact ⟨rfl, rfl, rfl⟩
    | _ => cases chosen
  | warned | ended => exact ⟨rfl, rfl, rfl⟩

theorem filter_of_idle {s : Session World Driver Probe Page} {op : Op World Driver Probe} {p : Event → Bool}
    (indexed : ∀ cache, s.cache = some cache → cache.store.Indexed) (idle : op.acquires? = none)
    (never : ∀ event, s.Tells op event → p event = false) :
    (Moment.told host ⟨s, op⟩).filter p = [] := by
  refine List.filter_eq_nil_iff.mpr fun event told => ?_
  rw [never event (told_tells host indexed idle event told)]
  exact Bool.false_ne_true

/-- No such event is told of an acquisition if none is reported by a cache. -/
theorem filter_of_asked {s : Session World Driver Probe Page} {op : Op World Driver Probe} {gfn : Gfn}
    {holder : Holder} {p : Event → Bool} (indexed : ∀ cache, s.cache = some cache → cache.store.Indexed)
    (asks : op.acquires? = some (gfn, holder)) (completes : s.Completes host op)
    (never : ∀ cache outcome after, (s.machine cache).Reported gfn outcome (Moment.acts host ⟨s, op⟩) after →
      (s.step host op).1 = .ofAcquired outcome holder → (Moment.told host ⟨s, op⟩).filter p = []) :
    (Moment.told host ⟨s, op⟩).filter p = [] := by
  cases present : s.cache with
  | none =>
    rw [told_of_uncreated present asks]
    rfl
  | some cache =>
    obtain ⟨outcome, after, _, reported, reply, _⟩ := step_reported present (indexed cache present) asks completes
    exact never cache outcome after reported reply

/-- The cleanups that are told at a moment: one if a missing page finds the limit reached, and none otherwise. -/
theorem cleanups_eq {s : Session World Driver Probe Page} {op : Op World Driver Probe}
    (indexed : ∀ cache, s.cache = some cache → cache.store.Indexed) (completes : s.Completes host op) :
    (Moment.told host ⟨s, op⟩).filter Event.evicts = ((Moment.crowded? ⟨s, op⟩).map Cache.cleanup).toList := by
  unfold Moment.crowded?
  cases asks : op.acquires? with
  | none =>
    rw [filter_of_idle indexed asks fun _ tells => tells.plain.1]
    cases s.cache <;> rfl
  | some asked =>
    cases present : s.cache with
    | none =>
      rw [told_of_uncreated present asks]
      rfl
    | some cache =>
      obtain ⟨_, _, _, reported, _⟩ := step_reported present (indexed cache present) asks completes
      rw [Moment.told, reported.evicts, Cache.cleanup?, show (s.machine cache).cache = cache from rfl]
      dsimp only
      split <;> rfl

/-- The arrivals that are told at a moment: the page that is new to the cache, if there is one. -/
theorem arrivals_eq {s : Session World Driver Probe Page} {op : Op World Driver Probe}
    (indexed : ∀ cache, s.cache = some cache → cache.store.Indexed) (completes : s.Completes host op) :
    (Moment.told host ⟨s, op⟩).filter Event.maps =
      ((Moment.arrival? host ⟨s, op⟩).map fun page => .pageMapped page.1 page.2).toList := by
  unfold Moment.arrival?
  cases asks : op.acquires? with
  | none => exact filter_of_idle indexed asks fun _ tells => tells.plain.2.1
  | some asked =>
    cases present : s.cache with
    | none =>
      rw [told_of_uncreated present asks, Moment.reply, step_of_uncreated present asks]
      simp
    | some cache =>
      obtain ⟨_, _, _, reported, reply, _⟩ := step_reported present (indexed cache present) asks completes
      have found : s.cached? asked.1 = (s.machine cache).cache.store.find? asked.1 := by
        rw [cached?, present]
        rfl
      rw [Moment.told, reported.maps asked.2]
      simp only [Moment.reply, reply, found]
      split
      · rw [Option.map_map]
        rfl
      · rfl

theorem ends_of_refused {s : Session World Driver Probe Page} {options : Options} {e : MapError}
    (refused : (s.setOptions host options).1 = .refused e) : options.limit < minLimit := by
  by_cases small : options.limit < minLimit
  · exact small
  · unfold setOptions at refused
    cases present : s.cache with
    | none =>
      simp only [present] at refused
      split at refused <;> cases refused
    | some cache =>
      simp only [present, Machine.withOptions, Cache.setLimit, if_neg small] at refused
      split at refused <;> cases refused

theorem closes_of_idle {s : Session World Driver Probe Page} {op : Op World Driver Probe}
    (quiet : op.ends = false ∨ ∃ misuse, (s.step host op).1 = .misused misuse) :
    Moment.closes host ⟨s, op⟩ = false := by
  unfold Moment.closes Moment.reply
  cases op with
  | create | discard =>
    rcases quiet with lasts | ⟨misuse, misused⟩
    · cases lasts
    · cases misused
  | setOptions options =>
    cases replied : (s.step host (.setOptions options)).1 with
    | refused e =>
      rcases quiet with lasts | ⟨misuse, misused⟩
      · cases lasts.symm.trans (decide_eq_true (ends_of_refused replied))
      · cases replied.symm.trans misused
    | _ => rfl
  | _ => rfl

theorem ends_of_selection (c : Cache Driver Probe Page) (world : World) :
    (tellings (c.selection host world)).filter Event.ends = [] := by
  refine List.filter_eq_nil_iff.mpr fun event told => ?_
  have chosen := Cache.ofPolicy_of_selection told
  cases event with
  | destroyed => cases chosen
  | _ => exact Bool.false_ne_true

theorem ends_of_farewell (s : Session World Driver Probe Page) : (tellings s.farewell).filter Event.ends =
    (s.cache.map fun cache => .destroyed cache.store.entries.length).toList := by
  rw [tellings_farewell]
  cases s.cache <;> rfl

/-- Only the end of a cache is told as one. -/
theorem Passes.ends {s : Session World Driver Probe Page} {op : Op World Driver Probe} {reply : Reply}
    {acts : List (Act Driver Probe Page)} (passes : s.Passes host op reply acts) (idle : op.acquires? = none)
    (replied : (s.step host op).1 = reply) :
    (tellings acts).filter Event.ends =
      ((Moment.ending? host ⟨s, op⟩).map fun cache => .destroyed cache.store.entries.length).toList := by
  unfold Moment.ending?
  cases passes with
  | idle quiet =>
    have lasts : Moment.closes host ⟨s, op⟩ = false := by
      refine closes_of_idle ?_
      rcases quiet with ⟨_, _, lasts⟩ | ⟨misuse, misused⟩
      · exact .inl lasts
      · exact .inr ⟨misuse, replied.trans misused⟩
    rw [lasts]
    rfl
  | @released h =>
    rw [tellings_reproach, closes_of_idle (.inl rfl)]
    cases s.unreferenced? h <;> rfl
  | acquired _ asks => cases idle.symm.trans asks
  | created driver =>
    rw [tellings_append, List.filter_append, ends_of_farewell]
    cases driver with
    | none => rfl
    | some driver => exact congrArg (· ++ _) (ends_of_selection (.unbound host) _)
  | bound present =>
    rw [tellings_append, tellings_returns, List.append_nil]
    exact ends_of_selection _ _
  | discarded => exact ends_of_farewell s
  | @consumed _ options e present small =>
    have closes : Moment.closes host ⟨s, .setOptions options⟩ = true := by
      simp only [Moment.closes, Moment.reply, replied]
    rw [ends_of_farewell, closes]
    rfl

/-- The endings that are told at a moment: that of the cache which goes, with the number of its pages. -/
theorem endings_eq {s : Session World Driver Probe Page} {op : Op World Driver Probe}
    (indexed : ∀ cache, s.cache = some cache → cache.store.Indexed) (completes : s.Completes host op) :
    (Moment.told host ⟨s, op⟩).filter Event.ends =
      ((Moment.ending? host ⟨s, op⟩).map fun cache => .destroyed cache.store.entries.length).toList := by
  cases asks : op.acquires? with
  | none => exact (Moment.passes host ⟨s, op⟩ indexed).1.ends asks rfl
  | some asked =>
    have lasts : op.ends = false := by
      cases op with
      | acquire | get => rfl
      | _ => cases asks
    rw [Moment.ending?, closes_of_idle (.inl lasts)]
    exact filter_of_asked indexed asks completes fun _ _ _ reported _ => reported.ends

/-- Nothing but a release of a page that guards hold is warned about. -/
theorem warns_eq {s : Session World Driver Probe Page} {op : Op World Driver Probe}
    (indexed : ∀ cache, s.cache = some cache → cache.store.Indexed) (completes : s.Completes host op)
    (held : ∀ h, op = .release h → s.unreferenced? h = none) :
    (Moment.told host ⟨s, op⟩).filter Event.warns = [] := by
  cases asks : op.acquires? with
  | none =>
    refine filter_of_idle indexed asks fun event tells => ?_
    cases tells with
    | policy chosen =>
      cases event with
      | releasedUnreferenced => cases chosen
      | _ => rfl
    | warned released found => cases (held _ released).symm.trans found
    | ended => rfl
  | some asked => exact filter_of_asked indexed asks completes fun _ _ _ reported _ => reported.warns

/-- Such a release changes nothing but the journal, and its warning counts the guards. -/
theorem release_unreferenced {s : Session World Driver Probe Page} {gfn : Gfn} (host : Host World Driver Probe Page)
    {h : Handle} {guards : Nat} (indexed : ∀ cache, s.cache = some cache → cache.store.Indexed)
    (found : s.unreferenced? h = some (gfn, guards)) :
    (∃ e, s.cached? gfn = some e ∧ e.guards.toNat = guards) ∧
      s.step host (.release h) =
        (.nothing, { s with journal := .told (.releasedUnreferenced gfn guards) :: s.journal }) := by
  obtain ⟨key, leads, found⟩ := Option.bind_eq_some_iff.mp found
  obtain ⟨e, cached, found⟩ := Option.bind_eq_some_iff.mp found
  split at found
  · next only =>
    cases found
    refine ⟨⟨e, cached, rfl⟩, ?_⟩
    obtain ⟨cache, present, known⟩ := Option.bind_eq_some_iff.mp leads
    rw [cached?, present, Option.bind_some] at cached
    have keyed := (indexed cache present).keyed gfn e cached
    obtain ⟨none, some⟩ := only
    simp only [step, onCache, present, Machine.release, machine, known, cached, if_pos none, if_neg some, keyed]
    rfl
  · cases found

/-- Pages come and go in acquisitions only, apart from drivers and ends. -/
theorem flow_of_idle {s : Session World Driver Probe Page} (host : Host World Driver Probe Page)
    (op : Op World Driver Probe) (indexed : ∀ cache, s.cache = some cache → cache.store.Indexed)
    (idle : op.acquires? = none) :
    ((Moment.told host ⟨s, op⟩).map Event.deleted).sum = 0 ∧ (Moment.told host ⟨s, op⟩).countP Event.maps = 0 := by
  have plain := fun event told => (told_tells host indexed idle event told).plain
  constructor
  · refine List.sum_eq_zero_iff_forall_eq_nat.mpr fun n member => ?_
    obtain ⟨event, told, rfl⟩ := List.mem_map.mp member
    exact (plain event told).2.2
  · refine List.countP_eq_zero.mpr fun event told => ?_
    rw [(plain event told).2.1]
    exact Bool.false_ne_true

/-- As long as a cache and its driver stay, it has as many pages as before unless a page is acquired. -/
theorem length_of_lasting {s : Session World Driver Probe Page} {op : Op World Driver Probe}
    {c d : Cache Driver Probe Page} (present : s.cache = some c) (left : (s.step host op).2.cache = some d)
    (idle : op.acquires? = none) (lasts : op.ends = false) :
    d.store.entries.length = c.store.entries.length := by
  have effect := s.step_effect host op
  rw [left] at effect
  generalize (s.step host op).1 = reply at effect
  cases effect with
  | emptied ends => cases lasts.symm.trans ends
  | settled before _ _ same =>
    cases present.symm.trans before
    rw [same]
  | acquired _ asks => cases idle.symm.trans asks
  | released before =>
    cases present.symm.trans before
    exact ((s.machine c).release_recounts _).length_eq
  | unguarded before _ _ unguards =>
    cases present.symm.trans before
    exact unguards.recounts.length_eq

theorem length_of_setOptions {s : Session World Driver Probe Page} {c d : Cache Driver Probe Page} {options : Options}
    (present : s.cache = some c) (left : (s.setOptions host options).2.cache = some d) :
    d.store.entries.length = c.store.entries.length := by
  unfold setOptions at left
  split at left
  · simp only [present, Machine.withOptions, Cache.setLimit] at left
    by_cases small : options.limit < minLimit
    · simp only [if_pos small] at left
      cases left
    · simp only [if_neg small] at left
      cases left
      rfl
  · cases left.symm.trans present
    rfl

theorem length_unmappings_returns (entries : List (Entry Page)) :
    (unmappings (returns entries : List (Act Driver Probe Page))).length = entries.length := by
  have pages : (Act.unmapped? ∘ fun e : Entry Page => (.unmapped e.page : Act Driver Probe Page)) =
      some ∘ fun e => e.page := rfl
  rw [unmappings, returns, List.filterMap_reverse, List.filterMap_map, pages, List.filterMap_eq_map,
    List.length_reverse, List.length_map]

theorem unmappings_selection (c : Cache Driver Probe Page) (world : World) :
    unmappings (c.selection host world) = [] := by
  refine List.filterMap_eq_nil_iff.mpr fun act member => ?_
  unfold Cache.selection at member
  split at member
  · cases member
  · rcases List.mem_cons.mp member with rfl | kernel
    · rfl
    · obtain ⟨event, _, rfl⟩ := List.mem_map.mp (List.mem_reverse.mp kernel)
      rfl

/-- A new driver finds the cache empty: all its pages were given back. -/
theorem flow_of_bind {s : Session World Driver Probe Page} {c d : Cache Driver Probe Page} {driver : Driver}
    (present : s.cache = some c) (left : (s.step host (.bind driver)).2.cache = some d) :
    d.store.entries.length + Moment.unbound host ⟨s, .bind driver⟩ = c.store.entries.length := by
  rcases s.step_bind host driver with ⟨cache, there, bound⟩ | ⟨_, same⟩
  · cases present.symm.trans there
    have acts := Moment.acts_eq (t := ⟨s, .bind driver⟩)
      ((congrArg (·.2.journal) bound).trans (Machine.bind_journal host (s.machine c) driver))
    rw [bound] at left
    cases left
    have empty : ((s.machine c).bind host driver).cache.store = .empty := Machine.bind_store _ driver
    have selected : unmappings (.bound driver :: c.selection host ((s.machine c).clear host).world) = [] :=
      unmappings_selection c _
    have returned : Moment.unbound host ⟨s, .bind driver⟩ = c.store.entries.length := by
      rw [Moment.unbound, acts, unmappings_append, List.length_append, length_unmappings_returns]
      rw [show (s.machine c).cache = c from rfl, selected]
      exact Nat.zero_add _
    rw [empty, returned]
    exact Nat.zero_add _
  · rw [same] at left
    cases left.symm.trans present
    have silent : Moment.acts host ⟨s, .bind driver⟩ = [] := acts_of_same (congrArg Prod.snd same)
    have nothing : Moment.unbound host ⟨s, .bind driver⟩ = 0 := by
      rw [Moment.unbound, silent]
      rfl
    rw [nothing, Nat.add_zero]

theorem store_of_create {s : Session World Driver Probe Page} {d : Cache Driver Probe Page} (driver : Option Driver)
    (left : (s.create host driver).cache = some d) : d.store = .empty := by
  cases driver with
  | none =>
    cases left
    rfl
  | some driver =>
    cases left
    exact Machine.bind_store _ driver

/-- Only a creation brings a cache. -/
theorem present_before {s : Session World Driver Probe Page} {op : Op World Driver Probe}
    {d : Cache Driver Probe Page} (indexed : ∀ cache, s.cache = some cache → cache.store.Indexed)
    (lasts : op.creates = false) (left : (s.step host op).2.cache = some d) : ∃ c, s.cache = some c := by
  have tunes := step_tunes host op indexed left
  generalize (s.step host op).1 = reply at tunes
  cases tunes with
  | kept before | bound before | chosen before | counting _ before => exact ⟨_, before⟩
  | created => cases lasts

/-- The number of pages follows what is told of them, and what the next driver takes away. -/
theorem step_flow {s : Session World Driver Probe Page} {op : Op World Driver Probe} {c d : Cache Driver Probe Page}
    (indexed : ∀ cache, s.cache = some cache → cache.store.Indexed) (completes : s.Completes host op)
    (lasts : op.creates = false) (present : s.cache = some c) (left : (s.step host op).2.cache = some d) :
    d.store.entries.length + ((Moment.told host ⟨s, op⟩).map Event.deleted).sum + Moment.unbound host ⟨s, op⟩ =
      c.store.entries.length + (Moment.told host ⟨s, op⟩).countP Event.maps := by
  cases asks : op.acquires? with
  | none =>
    obtain ⟨evicted, mapped⟩ := flow_of_idle host op indexed asks
    rw [evicted, mapped]
    cases op with
    | create => cases lasts
    | discard => cases (s.close_cache host).symm.trans left
    | bind driver => exact flow_of_bind present left
    | setOptions options => exact length_of_setOptions present left
    | acquire | get => cases asks
    | _ => exact length_of_lasting present left rfl rfl
  | some asked =>
    obtain ⟨_, after, _, reported, _, left', unguards⟩ := step_reported present (indexed c present) asks completes
    cases left.symm.trans left'
    have length := reported.length
    have none : Moment.unbound host ⟨s, op⟩ = 0 := by
      cases op with
      | bind => cases asks
      | _ => rfl
    rw [none, unguards.recounts.length_eq]
    exact length

end Session

theorem Session.lifeStory_cons {moments : List (Moment World Driver Probe Page)} {s : Session World Driver Probe Page}
    {op : Op World Driver Probe} (lasts : op.creates = false) :
    lifeStory host (⟨s, op⟩ :: moments) = Moment.told host ⟨s, op⟩ ++ lifeStory host moments := by
  rw [lifeStory, sinceCreated_cons lasts]
  rfl

/-- The pages of a cache are those that were mapped in its life, and neither evicted nor unbound. -/
theorem Session.Course.life {world : World} {moments : List (Moment World Driver Probe Page)}
    {s : Session World Driver Probe Page}
    (course : Session.Course host (Session.Completes host) (.start world) moments s) {cache : Cache Driver Probe Page}
    (present : s.cache = some cache) :
    (lifeStory host moments).countP Event.maps = ((lifeStory host moments).map Event.deleted).sum +
      ((sinceCreated moments).map (Moment.unbound host)).sum + cache.store.entries.length := by
  induction course generalizing cache with
  | start => cases present
  | reorder _ before same ih =>
    cases present
    rw [← same.entries_perm.length_eq]
    exact ih before
  | @step moments s op course completes ih =>
    -- A creation starts the life over, with no page. Every other operation carries the balance on.
    cases creates : op.creates with
    | true =>
      cases op with
      | create driver =>
        obtain ⟨evicted, mapped⟩ := flow_of_idle host (.create driver) course.indexed rfl
        have life : lifeStory host (⟨s, .create driver⟩ :: moments) = Moment.told host ⟨s, .create driver⟩ :=
          List.append_nil _
        rw [life, evicted, mapped, store_of_create driver present]
        rfl
      | _ => cases creates
    | false =>
      obtain ⟨c, before⟩ := present_before course.indexed creates present
      have flow := step_flow course.indexed completes creates before present
      have balance := ih before
      rw [lifeStory_cons creates, sinceCreated_cons creates, List.countP_append, List.map_append, List.sum_append,
        List.map_cons, List.sum_cons]
      omega

namespace Session

/-- A cleanup counts the pages that are gone afterwards. -/
theorem gone_eq {s : Session World Driver Probe Page} {op : Op World Driver Probe} {event : Event}
    (indexed : ∀ cache, s.cache = some cache → cache.store.Indexed) (completes : s.Completes host op)
    (told : event ∈ Moment.told host ⟨s, op⟩) (evicts : event.evicts = true) :
    ∃ cache, s.cache = some cache ∧
      cache.store.entries.countP (fun e => ((s.step host op).2.cached? e.gfn).isNone) = event.deleted := by
  cases asks : op.acquires? with
  | none => cases (told_tells host indexed asks event told).plain.1.symm.trans evicts
  | some asked =>
    cases present : s.cache with
    | none =>
      rw [told_of_uncreated present asks] at told
      cases told
    | some cache =>
      obtain ⟨_, after, d, reported, _, left, unguards⟩ := step_reported present (indexed cache present) asks completes
      refine ⟨cache, rfl, ?_⟩
      rw [← reported.deleted_eq told evicts, ← reported.gone]
      refine List.countP_congr fun e _ => ?_
      rw [cached?, left, Option.bind_some]
      rcases unguards.recounts.find?_eq e.gfn with same | ⟨_, _, _, before, found⟩
      · rw [same]
      · rw [before, found]
        rfl

/-- A refused acquisition has told why. -/
theorem step_refuses {s : Session World Driver Probe Page} {op : Op World Driver Probe} {gfn : Gfn} {holder : Holder}
    {e : MapError} (indexed : ∀ cache, s.cache = some cache → cache.store.Indexed)
    (asks : op.acquires? = some (gfn, holder)) (refused : (s.step host op).1 = .refused e) :
    ∃ cache after, s.cache = some cache ∧
      (s.machine cache).Reported gfn (.refused e) (Moment.acts host ⟨s, op⟩) after := by
  have completes : s.Completes host op := by
    rw [Completes, refused]
    rfl
  cases present : s.cache with
  | none => cases (congrArg Prod.fst (step_of_uncreated present asks)).symm.trans refused
  | some cache =>
    obtain ⟨outcome, after, _, reported, reply, _⟩ := step_reported present (indexed cache present) asks completes
    cases Reply.ofAcquired_refused.mp (reply.symm.trans refused)
    exact ⟨cache, after, rfl, reported⟩

/-- A page that is reported absent was asked for, and its entry says what the probe answered. -/
theorem step_denies {s : Session World Driver Probe Page} {op : Op World Driver Probe} {gfn : Gfn} {holder : Holder}
    {other : Gfn} (indexed : ∀ cache, s.cache = some cache → cache.store.Indexed)
    (asks : op.acquires? = some (gfn, holder)) (refused : (s.step host op).1 = .refused (.pageNotPresent other)) :
    ∃ probe start size answer, .probed probe start size answer ∈ Moment.acts host ⟨s, op⟩ ∧
      denial gfn answer ∈ Moment.told host ⟨s, op⟩ := by
  cases present : s.cache with
  | none => cases (congrArg Prod.fst (step_of_uncreated present asks)).symm.trans refused
  | some cache =>
    obtain ⟨_, _, _, dealt, reply, _⟩ := step_dealt host present (indexed cache present) asks
    exact dealt.denies (Reply.ofAcquired_refused.mp (reply.symm.trans refused))

theorem errs_of_calm {s : Session World Driver Probe Page} {op : Op World Driver Probe} {asked : Gfn × Holder}
    (indexed : ∀ cache, s.cache = some cache → cache.store.Indexed) (asks : op.acquires? = some asked)
    (completes : s.Completes host op) (present : (s.step host op).1.absent = false)
    (mapped : (s.step host op).1.unmapped = false) : (Moment.told host ⟨s, op⟩).filter Event.errs = [] := by
  refine filter_of_asked indexed asks completes fun _ _ _ reported reply => ?_
  rw [reply] at present mapped
  exact reported.errs_of_other present mapped

/-- The last word of a cache counts the pages that it held. -/
theorem cached_of_destroyed {s : Session World Driver Probe Page} {op : Op World Driver Probe} {count : Nat}
    (indexed : ∀ cache, s.cache = some cache → cache.store.Indexed) (completes : s.Completes host op)
    (logged : ⟨.debug, "page cache destroyed", [("count", .number count)]⟩ ∈ Moment.log host ⟨s, op⟩) :
    ∃ cache, s.cache = some cache ∧ cache.store.entries.length = count := by
  obtain ⟨event, told, same⟩ := List.mem_map.mp logged
  have ends : event.ends = true := by rw [Event.ends_eq, same]; rfl
  have ended := List.mem_filter.mpr ⟨told, ends⟩
  rw [endings_eq indexed completes, Option.mem_toList, Moment.ending?] at ended
  split at ended
  · obtain ⟨cache, present, rfl⟩ := Option.map_eq_some_iff.mp ended
    cases same
    exact ⟨cache, present, rfl⟩
  · cases ended

end Session

/-- As long as nothing breaks off, the log of a cache accounts for every page that comes or goes. -/
theorem Session.Course.diagnosed {world : World} {moments : List (Moment World Driver Probe Page)}
    {s : Session World Driver Probe Page}
    (course : Session.Course host (Session.Completes host) (.start world) moments s) :
    s.Diagnosed host moments where
  cleanups op completes := by
    rw [Moment.filter_log _ Event.evicts_eq, cleanups_eq course.indexed completes]
    cases Moment.crowded? ⟨s, op⟩ <;> rfl
  evicted op entry completes logged cleans := by
    obtain ⟨event, told, rfl⟩ := List.mem_map.mp logged
    have evicts : event.evicts = true := by rw [Event.evicts_eq, cleans]; rfl
    obtain ⟨cache, present, gone⟩ := gone_eq course.indexed completes told evicts
    refine ⟨cache, present, ?_⟩
    rw [gone, ← event.deleted_eq, LogEntry.deleted, if_pos cleans]
  arrivals op completes := by
    rw [Moment.filter_log _ Event.maps_eq, arrivals_eq course.indexed completes]
    cases Moment.arrival? host ⟨s, op⟩ <;> rfl
  absent op gfn holder other asks refused := by
    obtain ⟨_, _, _, reported⟩ := step_refuses course.indexed asks refused
    obtain ⟨same, answer, errs⟩ := reported.errs_of_absent rfl
    obtain ⟨probe, start, size, asked, probed, denied⟩ := step_denies course.indexed asks refused
    refine ⟨same, probe, start, size, asked, probed, ?_⟩
    have only : denial gfn asked ∈ (Moment.told host ⟨s, op⟩).filter Event.errs :=
      List.mem_filter.mpr ⟨denied, by cases asked <;> rfl⟩
    rw [Moment.told, errs] at only
    rw [Moment.filter_log _ Event.errs_eq, Moment.told, errs]
    rw [← List.mem_singleton.mp only, List.map_singleton, Event.entry_denial]
  failed op gfn _ _ source asks refused := by
    obtain ⟨cache, _, present, reported⟩ := step_refuses course.indexed asks refused
    obtain ⟨same, errs⟩ := reported.errs_of_failed rfl
    refine ⟨same, cache, present, ?_⟩
    rw [Moment.filter_log _ Event.errs_eq, Moment.told, errs, show (s.machine cache).cache = cache from rfl]
    split <;> rfl
  calm op asked asks completes present mapped := by
    rw [Moment.filter_log _ Event.errs_eq, errs_of_calm course.indexed asks completes present mapped]
    rfl
  warned h gfn guards found := by
    obtain ⟨⟨e, cached, count⟩, released⟩ := release_unreferenced host course.indexed found
    obtain ⟨_, reach⟩ := course.reached
    obtain ⟨cache, present, there⟩ := cached?_eq_some.mp cached
    -- The entry counts its guards, and the invariant of the run says that these are the guards alive.
    have counted := (sustains_of_cache reach.guarded present).2.counted gfn e there
    have told : Moment.acts host ⟨s, .release h⟩ = [.told (.releasedUnreferenced gfn guards)] :=
      Moment.acts_eq (congrArg (·.2.journal) released)
    refine ⟨count.symm.trans counted, ?_, released⟩
    rw [Moment.log, Moment.told, told]
    rfl
  unwarned op completes held := by
    rw [Moment.filter_log _ Event.warns_eq, warns_eq course.indexed completes held]
    rfl
  endings op completes := by
    rw [Moment.filter_log _ Event.ends_eq, endings_eq course.indexed completes]
    cases Moment.ending? host ⟨s, op⟩ <;> rfl
  balanced op count completes logged := by
    obtain ⟨cache, present, rfl⟩ := cached_of_destroyed course.indexed completes logged
    rw [lifeLog, Event.countP_maps, Event.sum_deleted]
    exact course.life present

/-- An outside in which one number cannot be mapped, and one page is not resident. -/
def lossy : Host Nat Unit Unit Nat := { wayward with address := shelf.address }

/-- A run that fills a cache to its limit and one page further, attaches a driver again, and releases a page that
only a guard holds. -/
def eventfulLife : List (Op Nat Unit Unit) :=
  [.create none, .setOptions ⟨50, true⟩, .setPolicy .probe, .bind ()] ++
    (List.range 52).map (fun n => .acquire ⟨UInt64.ofNat n⟩) ++
    [.release (shelf.address 0), .acquire ⟨52⟩, .bind (), .get ⟨6⟩ "guard", .release (shelf.address 52)]

/-- A life with one entry of each kind, which ends with one page left. -/
theorem diagnosed_eventfulLife :
    Moment.log lossy ⟨Session.run lossy (.start 0) eventfulLife, .discard⟩ =
        [⟨.debug, "page cache destroyed", [("count", .number 1)]⟩] ∧
      (lifeLog lossy ((Session.start 0).moments lossy eventfulLife)).filter (·.message ≠ "page mapped") =
        [⟨.warn, "released a page without raw references",
            [("gfn", .text "0x0000000000000006"), ("guards", .number 1)]⟩,
          ⟨.debug, "page cache cleanup", [("total", .number 50), ("unused", .number 1), ("deleted", .number 1)]⟩,
          ⟨.error, "failed to map page",
            [("gfn", .text "0x0000000000000009"), ("source", .text "entity not found")]⟩,
          ⟨.error, "page not resident", [("gfn", .text "0x0000000000000001")]⟩] ∧
      (Session.run lossy (.start 0) eventfulLife).Diagnosed lossy
        ((Session.start 0).moments lossy eventfulLife) := by
  have permitted : (Session.start 0).Permits lossy (Session.Completes lossy) eventfulLife := by decide +kernel
  exact ⟨by decide +kernel, by decide +kernel, Session.Course.diagnosed permitted.course⟩

end ForeignPages
