import ForeignPages.Proofs.Tickets

namespace ForeignPages

variable {World Driver Probe Page : Type} {host : Host World Driver Probe Page}

namespace Custody

/-- Every page is there that somebody has a ticket for, and counts these tickets. -/
def Keeps (c : Custody World Driver Probe Page) : Prop :=
  ∀ t ∈ c.tickets, t.late = false → ∃ e ∈ c.session.cached? t.gfn, e.refs.toNat = c.tickets.countP (·.isFor t.gfn)

/-- What callers can rely on who keep their tickets, however late others give back theirs. -/
structure LateReleases (host : Host World Driver Probe Page) (c : Custody World Driver Probe Page) : Prop where
  /-- A page that was reached by none but its own releases is there as long as somebody has a ticket for
  it, under the handle on the ticket. -/
  kept : ∀ t ∈ c.tickets, t.late = false → t.gfn ∉ c.misled →
    ∃ e, c.session.cached? t.gfn = some e ∧ e.handle = t.handle ∧ e.refs ≠ 0
  counted : ∀ gfn e, c.session.cached? gfn = some e → gfn ∉ c.misled → e.refs.toNat = c.tickets.countP (·.isFor gfn)
  /-- Every other release costs the page that it reaches one reference at most. -/
  covered : ∀ gfn, c.tickets.countP (·.isFor gfn) ≤ c.session.refs gfn + c.misled.count gfn
  /-- A ticket reaches another page only if that has the handle now. Without such a page, giving the ticket
  back late changes nothing. -/
  ignored : ∀ t ∈ c.tickets, (∀ gfn e, c.session.cached? gfn = some e → e.handle ≠ t.handle) →
    (c.step host (.giveBack t)).session = c.session

/-- A page that was reached by none but its own releases counts its tickets, all of which have its handle. -/
theorem Covered.exact {c : Custody World Driver Probe Page} {gfn : Gfn} {e : Entry Page} (covered : c.Covered)
    (found : c.session.cached? gfn = some e) (spared : gfn ∉ c.misled) : e.refs.toNat = c.tickets.countP (·.isFor gfn) ∧
      ∀ t ∈ c.tickets, t.isFor gfn = true → t.handle = e.handle := by
  have lower := covered.covered gfn
  rw [List.count_eq_zero.mpr spared, Session.refs_of_found found] at lower
  have upper := covered.bounded gfn e found
  have split := List.countP_eq_countP_filter_add c.tickets (·.isFor gfn) fun t => decide (t.handle = e.handle)
  rw [List.countP_filter, List.countP_filter] at split
  have agree : (c.tickets.countP fun t => t.isFor gfn && decide (t.handle = e.handle)) =
      c.tickets.countP (·.isForAt gfn e.handle) := rfl
  refine ⟨by omega, fun t member own => ?_⟩
  have none : (c.tickets.countP fun t => t.isFor gfn && !decide (t.handle = e.handle)) = 0 := by omega
  have excluded := List.countP_eq_zero.mp none t member
  simpa [own] using excluded

/-- The holder of a ticket keeps the page unless a late release took its reference. -/
theorem Covered.kept {c : Custody World Driver Probe Page} {t : Ticket} (covered : c.Covered) (member : t ∈ c.tickets)
    (fresh : t.late = false) (spared : t.gfn ∉ c.misled) :
    ∃ e, c.session.cached? t.gfn = some e ∧ e.handle = t.handle ∧ e.refs ≠ 0 := by
  have own : t.isFor t.gfn = true := by simp [Ticket.isFor, fresh]
  have some : 0 < c.tickets.countP (·.isFor t.gfn) := List.countP_pos_iff.mpr ⟨t, member, own⟩
  have lower := covered.covered t.gfn
  rw [List.count_eq_zero.mpr spared] at lower
  cases found : c.session.cached? t.gfn with
  | none =>
    rw [Session.refs_of_missing found] at lower
    omega
  | some e =>
    obtain ⟨counted, handles⟩ := covered.exact found spared
    refine ⟨e, rfl, (handles t member own).symm, fun zero => ?_⟩
    rw [zero, UInt32.toNat_zero] at counted
    omega

/-- A late release costs at most one reference, and only of the page that has its handle now. -/
theorem Reach.late_releases {c : Custody World Driver Probe Page} {world : World}
    (reach : Reach host (Allows host) world c) : c.LateReleases host where
  kept _ member fresh spared := reach.covered.kept member fresh spared
  counted _ _ found spared := (reach.covered.exact found spared).1
  covered := reach.covered.covered
  ignored t _ unused := by
    obtain ⟨past, run⟩ := reach.reached
    exact Session.release_unknown (run.linked.gfnOf?_eq_none unused)

/-- Drivers that leave an address alone as long as it stands on a late ticket. -/
def Careful (host : Host World Driver Probe Page) (c : Custody World Driver Probe Page)
    (deed : Deed World Driver Probe) : Prop :=
  c.Allows host deed ∧ c.session.Heeds (fun m gfn => ∀ room page, m.Answers host gfn room page →
    ∀ t ∈ c.tickets, t.late = true → host.address page ≠ t.handle) deed.op

/-- The handle on a late ticket stays unknown as long as no page is mapped to its address. -/
theorem Careful.unknown {c : Custody World Driver Probe Page} {world : World} {op : Op World Driver Probe}
    {past : List (Op World Driver Probe × Reply)} {t : Ticket}
    (run : Session.Reach host (Session.MapsApart host) world past c.session) (careful : c.Careful host (.ask op))
    (lasts : op.expires (c.session.step host op).1 = false) (member : t ∈ c.tickets) (late : t.late = true)
    (unknown : c.session.gfnOf? t.handle = none) : (c.session.step host op).2.gfnOf? t.handle = none := by
  have next := run.step op careful.1.2
  refine next.linked.gfnOf?_eq_none fun gfn d found handle => ?_
  cases before : c.session.cached? gfn with
  | some e =>
    have same := (Session.refs_step run.linked careful.1.1 lasts gfn).2 e d before found
    cases unknown.symm.trans ((run.gfnOf?_iff t.handle gfn).mpr ⟨e, before, same.symm.trans handle⟩)
  | none =>
    have indexed : ∀ cache, c.session.cache = some cache → cache.store.Indexed := fun _ present => run.indexed present
    obtain ⟨cache, holder, room, present, asks, answers⟩ := Session.step_maps indexed before found
    obtain ⟨after, present', stored⟩ := Session.cached?_eq_some.mp found
    have addressed := (Session.sustains_of_cache next.linked present').2.addressed gfn d stored
    have elsewhere := careful.2.calm asks present room d.page answers t member late
    exact elsewhere (addressed.symm.trans handle)

/-- Under drivers that do not reuse an address that is still out, nobody loses a reference. -/
theorem Reach.unmisled {c : Custody World Driver Probe Page} {world : World}
    (reach : Reach host (Careful host) world c) :
    c.misled = [] ∧ ∀ t ∈ c.tickets, t.late = true → c.session.gfnOf? t.handle = none := by
  induction reach with
  | start => exact ⟨rfl, nofun⟩
  | reorder _ present same ih =>
    obtain ⟨unmisled, unknown⟩ := ih
    refine ⟨unmisled, fun t member late => ?_⟩
    have before := unknown t member late
    rw [Session.gfnOf?, present] at before
    exact (same.gfnOf?_eq t.handle).trans before
  | @step c deed before careful ih =>
    obtain ⟨unmisled, unknown⟩ := ih
    have allowed : Reach host (Allows host) world c := before.imp fun _ _ careful => careful.1
    obtain ⟨past, run⟩ := allowed.reached
    cases deed with
    | ask op =>
      have next := run.step op careful.1.2
      unfold Custody.step
      dsimp only
      split
      · next expires =>
        refine ⟨rfl, fun t _ _ => next.linked.gfnOf?_eq_none fun gfn d found => ?_⟩
        cases (Session.fresh_of_expires expires gfn).symm.trans found
      · next expires =>
        refine ⟨unmisled, fun t member late => ?_⟩
        rcases List.mem_append.mp member with new | old
        · cases late.symm.trans (Op.late_of_mem_tickets new)
        · exact careful.unknown run (Bool.eq_false_iff.mpr expires) old late (unknown t old late)
    | giveBack t =>
      refine ⟨?_, fun other member late => ?_⟩
      · have own : c.misleads? t = none := by
          refine Option.eq_none_iff_forall_ne_some.mpr fun gfn misled => ?_
          obtain ⟨reached, foreign⟩ := Option.filter_eq_some_iff.mp misled
          cases late : t.late with
          | true => cases (unknown t careful.1 late).symm.trans reached
          | false =>
            have spared : t.gfn ∉ c.misled := by rw [unmisled]; exact List.not_mem_nil
            obtain ⟨e, found, handle, _⟩ := allowed.covered.kept careful.1 late spared
            cases ((run.gfnOf?_iff t.handle t.gfn).mpr ⟨e, found, handle⟩).symm.trans reached
            simp [Ticket.isFor, late] at foreign
        change (c.misleads? t).toList ++ c.misled = []
        rw [own, unmisled]
        rfl
      · change (c.session.step host (.release t.handle)).2.gfnOf? other.handle = none
        rw [Session.release_gfnOf?]
        exact unknown other (List.mem_of_mem_erase member) late
    | stray h =>
      refine ⟨unmisled, fun t member late => ?_⟩
      change (c.session.step host (.release h)).2.gfnOf? t.handle = none
      rw [Session.release_gfnOf?]
      exact unknown t member late

/-- While drivers are careful, no release goes astray, and every page is there that somebody has a ticket
for. -/
theorem Reach.keeps {c : Custody World Driver Probe Page} {world : World} (reach : Reach host (Careful host) world c) :
    c.Keeps := by
  obtain ⟨unmisled, _⟩ := reach.unmisled
  have allowed : Reach host (Allows host) world c := reach.imp fun _ _ careful => careful.1
  intro t member fresh
  have spared : t.gfn ∉ c.misled := by rw [unmisled]; exact List.not_mem_nil
  obtain ⟨e, found, _, _⟩ := allowed.covered.kept member fresh spared
  exact ⟨e, found, (allowed.covered.exact found spared).1⟩

/-- Deeds one after another. -/
def run (host : Host World Driver Probe Page) (c : Custody World Driver Probe Page)
    (deeds : List (Deed World Driver Probe)) : Custody World Driver Probe Page :=
  deeds.foldl (step host) c

/-- Every deed is allowed when its turn comes. -/
def Permits (host : Host World Driver Probe Page) (c : Custody World Driver Probe Page) :
    List (Deed World Driver Probe) → Prop
  | [] => True
  | deed :: rest => c.Allows host deed ∧ (c.step host deed).Permits host rest

theorem Reach.run {c : Custody World Driver Probe Page} {world : World} (reach : Reach host (Allows host) world c)
    {deeds : List (Deed World Driver Probe)} (permitted : c.Permits host deeds) :
    Reach host (Allows host) world (c.run host deeds) := by
  induction deeds generalizing c with
  | nil => exact reach
  | cons deed rest ih => exact ih (reach.step deed permitted.1) permitted.2

instance (c : Custody World Driver Probe Page) : (deed : Deed World Driver Probe) → Decidable (c.Allows host deed)
  | .ask op => inferInstanceAs (Decidable (op.releases? = none ∧ c.session.Heeds _ op))
  | .giveBack t => inferInstanceAs (Decidable (t ∈ c.tickets))
  | .stray h => inferInstanceAs (Decidable (∀ t ∈ c.tickets, t.handle ≠ h))

instance (c : Custody World Driver Probe Page) :
    (deeds : List (Deed World Driver Probe)) → Decidable (c.Permits host deeds)
  | [] => .isTrue trivial
  | deed :: rest =>
    have := instDecidablePermits (c.step host deed) rest
    inferInstanceAs (Decidable (c.Allows host deed ∧ (c.step host deed).Permits host rest))

/-- Deeds after which a page has the address of one that a former driver had mapped. The former page is given
back late, and by that the present one loses the reference of its own ticket. -/
def sharedAddress : List (Deed Nat Unit Unit) :=
  [.ask (.create (some ())), .ask (.acquire ⟨1⟩), .ask (.bind ()), .ask (.acquire ⟨2⟩), .ask (.acquire ⟨2⟩),
    .giveBack ⟨⟨1⟩, ⟨4096⟩, true⟩]

/-- The late ticket took one of the two references to the page. -/
theorem late_releases_sharedAddress :
    ((run cramped ⟨.start 0, [], []⟩ sharedAddress).session.refs ⟨2⟩,
      (run cramped ⟨.start 0, [], []⟩ sharedAddress).misled) = (1, [⟨2⟩]) ∧
      (run cramped ⟨.start 0, [], []⟩ sharedAddress).LateReleases cramped := by
  have permitted : Permits cramped ⟨.start 0, [], []⟩ sharedAddress := by decide
  exact ⟨by decide, Reach.late_releases (Reach.start.run permitted)⟩

/-- An outside in which the number of a page says where it lies: there is room for sixty-four. -/
def folded : Host Unit Unit Unit Nat where
  pageSize _ _ := 4096
  map _ gfn _ _ := (.ok gfn.number.toNat, ())
  unmap _ _ := ()
  address page := ⟨UInt64.ofNat (4096 * (page % 64 + 1))⟩
  size _ _ := 4096
  byte _ _ _ := 0
  write _ _ _ _ := ()
  probe _ _ _ _ := (.ok true, ())
  standardProbe := ()
  release _ := .error (.plain .notFound)

/-- Deeds on a full cache. One of its pages has the address of one that a former driver had mapped, and is
evicted once that one was given back. -/
def lateOnFull : List (Deed Unit Unit Unit) :=
  [.ask (.create (some ())), .ask (.setLimit 50), .ask (.acquire ⟨64⟩), .ask (.bind ())] ++
    (List.range 50).map (fun n => .ask (.acquire ⟨UInt64.ofNat n⟩)) ++
    [.giveBack ⟨⟨64⟩, folded.address 64, true⟩, .ask (.acquire ⟨50⟩)]

/-- Not every page stays for which somebody has a ticket: one of them is not even cached any more. -/
theorem held_page_lost : ¬ ∀ c : Custody Unit Unit Unit Nat, Reach folded (Allows folded) () c → c.Keeps := by
  intro keeps
  have permitted : Permits folded ⟨.start (), [], []⟩ lateOnFull := by decide +kernel
  have lost : ⟨⟨0⟩, folded.address 0, false⟩ ∈ (run folded ⟨.start (), [], []⟩ lateOnFull).tickets ∧
      (run folded ⟨.start (), [], []⟩ lateOnFull).session.cached? ⟨0⟩ = none := by decide +kernel
  obtain ⟨e, found, _⟩ := keeps _ (Reach.start.run permitted) _ lost.1 rfl
  cases lost.2.symm.trans found

end Custody

end ForeignPages
