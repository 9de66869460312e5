import ForeignPages.Proofs.HeldPages

namespace ForeignPages

variable {World Driver Probe Page : Type} {host : Host World Driver Probe Page}

/-- A handle that a caller has got for a page, and has to give back. -/
structure Ticket where
  gfn : Gfn
  handle : Handle
  /-- The cache has lost all its pages since. -/
  late : Bool
deriving DecidableEq

namespace Ticket

def expire (t : Ticket) : Ticket := { t with late := true }

def isFor (gfn : Gfn) (t : Ticket) : Bool := decide (t.gfn = gfn) && !t.late

/-- The ticket is for the page under this very handle. -/
def isForAt (gfn : Gfn) (h : Handle) (t : Ticket) : Bool := t.isFor gfn && decide (t.handle = h)

@[simp] theorem isFor_expire (gfn : Gfn) (t : Ticket) : t.expire.isFor gfn = false := Bool.and_false _

end Ticket

namespace Op

/-- The ticket for a page that was acquired, if its handle was handed out. -/
def tickets : Op World Driver Probe → Reply → List Ticket
  | .acquire gfn, .handle h => [⟨gfn, h, false⟩]
  | _, _ => []

/-- The operation has ended the cache, or has taken all pages out of it. -/
def expires (op : Op World Driver Probe) : Reply → Bool
  | .misused _ => false
  | _ => op.ends

theorem late_of_mem_tickets {op : Op World Driver Probe} {reply : Reply} {t : Ticket} (member : t ∈ op.tickets reply) :
    t.late = false := by
  unfold tickets at member
  split at member
  · cases List.mem_singleton.mp member
    rfl
  · cases member

/-- One ticket is handed out for an acquisition of the page, and none for any other operation. -/
theorem countP_tickets (op : Op World Driver Probe) (reply : Reply) (gfn : Gfn) :
    (op.tickets reply).countP (·.isFor gfn) = (op.takes gfn reply).toNat := by
  cases op with
  | acquire other =>
    cases reply with
    | handle h => by_cases same : other = gfn <;> simp [tickets, takes, Ticket.isFor, same]
    | _ => rfl
  | _ => rfl

end Op

/-- A session with the tickets of its callers. -/
structure Custody (World Driver Probe Page : Type) where
  session : Session World Driver Probe Page
  tickets : List Ticket
  /-- The pages that were reached by releases which were none of their own, since they have a driver. -/
  misled : List Gfn

/-- What callers do who keep tickets. -/
inductive Deed (World Driver Probe : Type)
  /-- Any operation but a release. -/
  | ask (op : Op World Driver Probe)
  | giveBack (t : Ticket)
  /-- A release without a ticket. -/
  | stray (h : Handle)

def Deed.op : Deed World Driver Probe → Op World Driver Probe
  | .ask op => op
  | .giveBack t => .release t.handle
  | .stray h => .release h

namespace Custody

/-- The page of another ticket that is reached when a ticket is given back. -/
def misleads? (c : Custody World Driver Probe Page) (t : Ticket) : Option Gfn :=
  (c.session.gfnOf? t.handle).filter fun gfn => !t.isFor gfn

def step (host : Host World Driver Probe Page) (c : Custody World Driver Probe Page) :
    Deed World Driver Probe → Custody World Driver Probe Page
  | .ask op =>
    let (reply, session) := c.session.step host op
    if op.expires reply then ⟨session, c.tickets.map Ticket.expire, []⟩
    else ⟨session, op.tickets reply ++ c.tickets, c.misled⟩
  | .giveBack t =>
    ⟨(c.session.step host (.release t.handle)).2, c.tickets.erase t, (c.misleads? t).toList ++ c.misled⟩
  | .stray h => { c with session := (c.session.step host (.release h)).2 }

/-- Every ticket is given back once at most, other handles are released only if nobody has a ticket for
them, and no page is mapped to the address of a cached one. -/
def Allows (host : Host World Driver Probe Page) (c : Custody World Driver Probe Page) :
    Deed World Driver Probe → Prop
  | .ask op => op.releases? = none ∧ c.session.MapsApart host op
  | .giveBack t => t ∈ c.tickets
  | .stray h => ∀ t ∈ c.tickets, t.handle ≠ h

/-- The sessions that deeds lead to, with the tickets that are left. -/
inductive Reach (host : Host World Driver Probe Page)
    (allowed : Custody World Driver Probe Page → Deed World Driver Probe → Prop) (world : World) :
    Custody World Driver Probe Page → Prop
  | start : Reach host allowed world ⟨.start world, [], []⟩
  | reorder {c : Custody World Driver Probe Page} {cache : Cache Driver Probe Page} {store : Store Page} :
      Reach host allowed world c → c.session.cache = some cache → cache.store.Reordered store →
      Reach host allowed world { c with session := { c.session with cache := some { cache with store } } }
  | step {c : Custody World Driver Probe Page} (deed : Deed World Driver Probe) : Reach host allowed world c →
      allowed c deed → Reach host allowed world (c.step host deed)

end Custody

namespace Session

/-- The references to a page that were taken through its handle. -/
def refs (s : Session World Driver Probe Page) (gfn : Gfn) : Nat := ((s.cached? gfn).map (·.refs.toNat)).getD 0

theorem refs_of_found {s : Session World Driver Probe Page} {gfn : Gfn} {e : Entry Page}
    (found : s.cached? gfn = some e) : s.refs gfn = e.refs.toNat := by
  rw [refs, found]
  rfl

theorem refs_of_missing {s : Session World Driver Probe Page} {gfn : Gfn} (missing : s.cached? gfn = none) :
    s.refs gfn = 0 := by
  rw [refs, missing]
  rfl

/-- An operation that takes all pages out of the cache does so, or does nothing at all. -/
theorem step_ends {op : Op World Driver Probe} (host : Host World Driver Probe Page)
    (s : Session World Driver Probe Page) (ends : op.ends = true) :
    op.expires (s.step host op).1 = true ∧ (s.step host op).2.Fresh ∨
      op.expires (s.step host op).1 = false ∧ (s.step host op).2 = s := by
  have gone : ∀ {t : Session World Driver Probe Page}, t.cache = none → t.Fresh := by
    intro t none gfn
    rw [cached?, none]
    rfl
  have empty : ∀ {t : Session World Driver Probe Page} {cache : Cache Driver Probe Page}, t.cache = some cache →
      cache.store = .empty → t.Fresh := by
    intro t cache present nothing gfn
    rw [cached?, present, Option.bind_some, nothing]
    exact Store.find?_empty gfn
  cases op with
  | create driver =>
    cases driver with
    | none => exact .inl ⟨rfl, empty rfl rfl⟩
    | some driver => exact .inl ⟨rfl, empty rfl (Machine.bind_store _ driver)⟩
  | discard => exact .inl ⟨rfl, gone (s.close_cache host)⟩
  | bind driver =>
    rcases s.step_bind host driver with ⟨_, _, bound⟩ | ⟨_, misused⟩
    · have attached := congrArg Prod.fst bound
      exact .inl ⟨by rw [attached]; rfl, fresh_of_bind attached⟩
    · rw [misused]
      exact .inr ⟨rfl, rfl⟩
  | setOptions options =>
    simp only [step, setOptions]
    split
    · split
      · exact .inr ⟨rfl, rfl⟩
      · unfold Machine.withOptions Cache.setLimit
        rw [if_pos (of_decide_eq_true ends)]
        exact .inl ⟨ends, gone rfl⟩
    · exact .inr ⟨rfl, rfl⟩
  | _ => cases ends

theorem fresh_of_expires {s : Session World Driver Probe Page} {op : Op World Driver Probe}
    (expires : op.expires (s.step host op).1 = true) : (s.step host op).2.Fresh := by
  have ends : op.ends = true := by
    unfold Op.expires at expires
    split at expires
    · cases expires
    · exact expires
  rcases s.step_ends host ends with ⟨_, fresh⟩ | ⟨lasts, _⟩
  · exact fresh
  · cases expires.symm.trans lasts

/-- Whoever gets a ticket gets it for a cached page. -/
theorem found_of_takes {s : Session World Driver Probe Page} {op : Op World Driver Probe} {gfn : Gfn}
    (indexed : ∀ cache, s.cache = some cache → cache.store.Indexed) (taken : op.takes gfn (s.step host op).1 = true) :
    ∃ d, (s.step host op).2.cached? gfn = some d ∧ op.tickets (s.step host op).1 = [⟨gfn, d.handle, false⟩] := by
  cases op with
  | acquire other =>
    cases reply : (s.step host (.acquire other)).1 with
    | handle h =>
      rw [reply] at taken
      obtain rfl := of_decide_eq_true taken
      obtain ⟨d, found, handle, _⟩ := acquired_found indexed reply
      exact ⟨d, found, by rw [handle]; rfl⟩
    | _ =>
      rw [reply] at taken
      cases taken
  | _ => cases taken

/-- While pages stay, the references to a page that were taken through its handle grow with the tickets
for it. If the page goes, there were none. -/
theorem refs_step {s : Session World Driver Probe Page} {op : Op World Driver Probe}
    (held : s.Sustains (fun m _ => m.cache.store.Linked host) (fun _ => True)) (idle : op.releases? = none)
    (lasts : op.expires (s.step host op).1 = false) (gfn : Gfn) :
    (s.step host op).2.refs gfn = s.refs gfn + (op.takes gfn (s.step host op).1).toNat ∧
      ∀ e d, s.cached? gfn = some e → (s.step host op).2.cached? gfn = some d → d.handle = e.handle := by
  have untaken : (s.step host op).2.cached? gfn = none → op.takes gfn (s.step host op).1 = false := by
    intro gone
    refine Bool.eq_false_iff.mpr fun taken => ?_
    obtain ⟨_, found, _⟩ := found_of_takes (fun _ present => (sustains_of_cache held present).1) taken
    cases gone.symm.trans found
  cases before : s.cached? gfn with
  | none =>
    refine ⟨?_, nofun⟩
    rw [refs_of_missing before, Nat.zero_add]
    cases after : (s.step host op).2.cached? gfn with
    | none => rw [refs_of_missing after, untaken after]; rfl
    | some d => rw [refs_of_found after]; exact step_of_uncached held before op after
  | some e =>
    rcases step_of_cached held before op with ⟨gone, ends | free⟩ | ⟨d, stayed, passes⟩
    · rcases s.step_ends host ends with ⟨expires, _⟩ | ⟨_, same⟩
      · cases expires.symm.trans lasts
      · rw [same, before] at gone
        cases gone
    · refine ⟨?_, fun _ _ _ there => nomatch gone.symm.trans there⟩
      rw [refs_of_found before, refs_of_missing gone, untaken gone, (Entry.references?_eq_zero.mp free).1]
      rfl
    · refine ⟨?_, fun _ _ here there => ?_⟩
      · have moved := passes.refs
        rw [Moment.releases, Op.gives_of_idle idle] at moved
        rw [refs_of_found before, refs_of_found stayed]
        exact moved
      · cases here
        cases stayed.symm.trans there
        exact passes.handle

theorem release_unknown {s : Session World Driver Probe Page} {h : Handle} (unknown : s.gfnOf? h = none) :
    (s.step host (.release h)).2 = s := by
  obtain ⟨cache, guards, world, counters, journal⟩ := s
  cases cache with
  | none => rfl
  | some cache =>
    have missing : cache.store.gfnOf? h = none := unknown
    simp only [step, onCache, machine, Machine.release, missing, resume]

theorem release_gfnOf? (s : Session World Driver Probe Page) (h other : Handle) :
    (s.step host (.release h)).2.gfnOf? other = s.gfnOf? other := by
  obtain ⟨cache, guards, world, counters, journal⟩ := s
  cases cache with
  | none => rfl
  | some cache => exact Machine.release_gfnOf? (m := ⟨cache, world, counters, journal⟩) h other

/-- A release takes one reference from the page its handle leads to and from no other. -/
theorem refs_release (host : Host World Driver Probe Page) (s : Session World Driver Probe Page) (h : Handle)
    (gfn : Gfn) :
    (s.step host (.release h)).2.refs gfn = s.refs gfn - if s.gfnOf? h = some gfn then 1 else 0 := by
  unfold refs
  rw [s.release_cached? host h gfn]
  split
  · cases s.cached? gfn with
    | none => rfl
    | some e =>
      have less := e.giveBack_refs
      by_cases free : e.refs = 0
      · rw [free] at less
        exact congrArg (· - 1) (congrArg UInt32.toNat free) ▸ Nat.le_zero.mp (Nat.le.intro less)
      · rw [decide_eq_true free] at less
        exact Nat.eq_sub_of_add_eq less
  · rfl

/-- A release leaves every page under its handle. -/
theorem release_found {s : Session World Driver Probe Page} {gfn : Gfn} {h : Handle} {d : Entry Page}
    (found : (s.step host (.release h)).2.cached? gfn = some d) :
    ∃ e, s.cached? gfn = some e ∧ d.handle = e.handle := by
  rw [s.release_cached? host h gfn] at found
  split at found
  · obtain ⟨e, before, rfl⟩ := Option.map_eq_some_iff.mp found
    exact ⟨e, before, rfl⟩
  · exact ⟨d, found, rfl⟩

end Session

theorem countP_erase_toNat {α : Type} [DecidableEq α] {a : α} {as : List α} (member : a ∈ as) (p : α → Bool) :
    (as.erase a).countP p + (p a).toNat = as.countP p := by
  rw [(List.perm_cons_erase member).countP_eq, countP_cons_toNat]

namespace Custody

/-- The tickets for a page against its references. Every release that was none of its own may have taken one. -/
structure Covered (c : Custody World Driver Probe Page) : Prop where
  covered : ∀ gfn, c.tickets.countP (·.isFor gfn) ≤ c.session.refs gfn + c.misled.count gfn
  bounded : ∀ gfn e, c.session.cached? gfn = some e → e.refs.toNat ≤ c.tickets.countP (·.isForAt gfn e.handle)

/-- Asking anything but a release keeps the tickets covered. -/
theorem Covered.ask {c : Custody World Driver Probe Page} {op : Op World Driver Probe} (covered : c.Covered)
    (held : c.session.Sustains (fun m _ => m.cache.store.Linked host) (fun _ => True)) (idle : op.releases? = none) :
    (c.step host (.ask op)).Covered := by
  unfold step
  dsimp only
  split
  · next expires =>
    refine ⟨fun gfn => ?_, fun gfn e found => ?_⟩
    · have none : (c.tickets.map Ticket.expire).countP (·.isFor gfn) = 0 := by
        rw [List.countP_map]
        exact List.countP_eq_zero.mpr fun t _ => by simp
      rw [none]
      exact Nat.zero_le _
    · cases (Session.fresh_of_expires expires gfn).symm.trans found
  · next expires =>
    have lasts := Bool.eq_false_iff.mpr expires
    refine ⟨fun gfn => ?_, fun gfn d found => ?_⟩
    · have before := covered.covered gfn
      obtain ⟨grown, _⟩ := Session.refs_step held idle lasts gfn
      change _ ≤ (c.session.step host op).2.refs gfn + c.misled.count gfn
      rw [List.countP_append, op.countP_tickets, grown]
      omega
    · obtain ⟨grown, stays⟩ := Session.refs_step held idle lasts gfn
      rw [Session.refs_of_found found] at grown
      have old : c.session.refs gfn ≤ c.tickets.countP (·.isForAt gfn d.handle) := by
        cases before : c.session.cached? gfn with
        | none =>
          rw [Session.refs_of_missing before]
          exact Nat.zero_le _
        | some e =>
          rw [Session.refs_of_found before, stays e d before found]
          exact covered.bounded gfn e before
      have new : (op.takes gfn (c.session.step host op).1).toNat ≤
          (op.tickets (c.session.step host op).1).countP (·.isForAt gfn d.handle) := by
        cases taken : op.takes gfn (c.session.step host op).1 with
        | false => exact Nat.zero_le _
        | true =>
          obtain ⟨d', there, ticket⟩ :=
            Session.found_of_takes (fun _ present => (Session.sustains_of_cache held present).1) taken
          cases found.symm.trans there
          rw [ticket]
          simp [Ticket.isForAt, Ticket.isFor]
      rw [List.countP_append, grown]
      omega

/-- Giving a ticket back keeps them covered, also a late one. -/
theorem Covered.giveBack {c : Custody World Driver Probe Page} {t : Ticket} (covered : c.Covered)
    (links : ∀ h gfn, c.session.gfnOf? h = some gfn ↔ ∃ e, c.session.cached? gfn = some e ∧ e.handle = h)
    (member : t ∈ c.tickets) : (c.step host (.giveBack t)).Covered := by
  have fewer := fun p => countP_erase_toNat (p := p) member
  refine ⟨fun gfn => ?_, fun gfn d found => ?_⟩
  · have before := covered.covered gfn
    have less := fewer (·.isFor gfn)
    change (c.tickets.erase t).countP (·.isFor gfn) ≤ (c.session.step host (.release t.handle)).2.refs gfn +
      ((c.misleads? t).toList ++ c.misled).count gfn
    rw [Session.refs_release, List.count_append]
    by_cases reached : c.session.gfnOf? t.handle = some gfn
    · rw [if_pos reached]
      cases own : t.isFor gfn with
      | true =>
        rw [own, Bool.toNat_true] at less
        omega
      | false =>
        have misled : c.misleads? t = some gfn := Option.filter_eq_some_iff.mpr ⟨reached, by rw [own]; rfl⟩
        have once : (c.misleads? t).toList.count gfn = 1 := by rw [misled]; simp
        omega
    · rw [if_neg reached]
      omega
  · change (c.session.step host (.release t.handle)).2.cached? gfn = some d at found
    obtain ⟨e, before, handle⟩ := Session.release_found found
    have fits := covered.bounded gfn e before
    have less := fewer (·.isForAt gfn e.handle)
    have refs := c.session.refs_release host t.handle gfn
    rw [Session.refs_of_found before, Session.refs_of_found found] at refs
    rw [refs, handle]
    change _ ≤ (c.tickets.erase t).countP (·.isForAt gfn e.handle)
    by_cases same : t.handle = e.handle
    · rw [if_pos ((links t.handle gfn).mpr ⟨e, before, same.symm⟩)]
      have one : (t.isForAt gfn e.handle).toNat ≤ 1 := Bool.toNat_le _
      omega
    · have other : t.isForAt gfn e.handle = false := by simp [Ticket.isForAt, same]
      rw [other, Bool.toNat_false] at less
      omega

/-- Nobody has a ticket for a page whose handle is released without one, so the page has no reference to
lose. -/
theorem Covered.stray {c : Custody World Driver Probe Page} {h : Handle} (covered : c.Covered)
    (links : ∀ h gfn, c.session.gfnOf? h = some gfn ↔ ∃ e, c.session.cached? gfn = some e ∧ e.handle = h)
    (unowed : ∀ t ∈ c.tickets, t.handle ≠ h) : (c.step host (.stray h)).Covered := by
  have same : ∀ gfn, (c.session.step host (.release h)).2.refs gfn = c.session.refs gfn := by
    intro gfn
    rw [Session.refs_release]
    split
    · next reached =>
      obtain ⟨e, found, handle⟩ := (links h gfn).mp reached
      have none : c.tickets.countP (·.isForAt gfn e.handle) = 0 :=
        List.countP_eq_zero.mpr fun t member => by simp [Ticket.isForAt, handle, unowed t member]
      have fits := covered.bounded gfn e found
      rw [Session.refs_of_found found]
      omega
    · rfl
  refine ⟨fun gfn => ?_, fun gfn d found => ?_⟩
  · change _ ≤ (c.session.step host (.release h)).2.refs gfn + _
    rw [same gfn]
    exact covered.covered gfn
  · change (c.session.step host (.release h)).2.cached? gfn = some d at found
    obtain ⟨e, before, handle⟩ := Session.release_found found
    have refs := same gfn
    rw [Session.refs_of_found found, Session.refs_of_found before] at refs
    rw [refs, handle]
    exact covered.bounded gfn e before

theorem step_session (c : Custody World Driver Probe Page) (deed : Deed World Driver Probe) :
    (c.step host deed).session = (c.session.step host deed.op).2 := by
  cases deed with
  | ask op =>
    unfold step
    dsimp only
    split <;> rfl
  | giveBack | stray => rfl

theorem Reach.imp {c : Custody World Driver Probe Page} {world : World}
    {allowed allowed' : Custody World Driver Probe Page → Deed World Driver Probe → Prop}
    (reach : Reach host allowed world c) (weaker : ∀ c deed, allowed c deed → allowed' c deed) :
    Reach host allowed' world c := by
  induction reach with
  | start => exact .start
  | reorder _ present same ih => exact ih.reorder present same
  | step deed _ permitted ih => exact ih.step deed (weaker _ deed permitted)

theorem Allows.mapsApart {c : Custody World Driver Probe Page} {deed : Deed World Driver Probe}
    (permitted : c.Allows host deed) :
    c.session.MapsApart host deed.op := by
  cases deed with
  | ask op => exact permitted.2
  | giveBack | stray => trivial

theorem Reach.reached {c : Custody World Driver Probe Page} {world : World} (reach : Reach host (Allows host) world c) :
    ∃ past, Session.Reach host (Session.MapsApart host) world past c.session := by
  induction reach with
  | start => exact ⟨[], .start⟩
  | reorder _ present same ih =>
    obtain ⟨past, run⟩ := ih
    exact ⟨past, run.reorder present same⟩
  | step deed _ permitted ih =>
    obtain ⟨past, run⟩ := ih
    rw [step_session]
    exact ⟨_, run.step deed.op permitted.mapsApart⟩

/-- The tickets are covered along every run whose pages are mapped apart. -/
theorem Reach.covered {c : Custody World Driver Probe Page} {world : World} (reach : Reach host (Allows host) world c) :
    c.Covered := by
  induction reach with
  | start => exact ⟨fun _ => Nat.zero_le _, nofun⟩
  | @reorder c cache store _ present same ih =>
    have cached : ∀ gfn, store.find? gfn = c.session.cached? gfn := by
      intro gfn
      rw [Session.cached?, present]
      exact same.find?_eq gfn
    refine ⟨fun gfn => ?_, fun gfn e found => ih.bounded gfn e ((cached gfn).symm.trans found)⟩
    have refs : Session.refs { c.session with cache := some { cache with store } } gfn = c.session.refs gfn :=
      congrArg (fun e => (e.map (·.refs.toNat)).getD 0) (cached gfn)
    rw [refs]
    exact ih.covered gfn
  | @step c deed before permitted ih =>
    obtain ⟨past, run⟩ := before.reached
    cases deed with
    | ask op => exact ih.ask run.linked permitted.1
    | giveBack t => exact ih.giveBack run.gfnOf?_iff permitted
    | stray h => exact ih.stray run.gfnOf?_iff permitted

end Custody

end ForeignPages
