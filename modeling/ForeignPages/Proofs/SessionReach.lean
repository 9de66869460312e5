import ForeignPages.Session
import ForeignPages.Proofs.Acquired
import ForeignPages.Proofs.Released

namespace ForeignPages

variable {World Driver Probe Page : Type}

/-- Stores that differ at most in the order in which their indices are gone through. -/
structure Store.Reordered (s t : Store Page) : Prop where
  byGfn : s.byGfn.Reordered t.byGfn
  byHandle : s.byHandle.Reordered t.byHandle

namespace Store.Reordered

theorem find?_eq {s t : Store Page} (same : s.Reordered t) (gfn : Gfn) :
    t.find? gfn = s.find? gfn := same.byGfn.find?_eq gfn

theorem gfnOf?_eq {s t : Store Page} (same : s.Reordered t) (h : Handle) :
    t.gfnOf? h = s.gfnOf? h := same.byHandle.find?_eq h

theorem entries_perm {s t : Store Page} (same : s.Reordered t) : s.entries.Perm t.entries := same.byGfn.values_perm

theorem indexed {s t : Store Page} (same : s.Reordered t) (indexed : s.Indexed) : t.Indexed where
  keyed gfn e found := indexed.keyed gfn e (by rwa [same.find?_eq] at found)
  apart gfn other e f atGfn atOther := by
    rw [same.find?_eq] at atGfn atOther
    exact indexed.apart gfn other e f atGfn atOther
  known h := by simp only [same.gfnOf?_eq, same.find?_eq, indexed.known h]

end Store.Reordered

namespace Session

/-- The cached page with a number. -/
def cached? (s : Session World Driver Probe Page) (gfn : Gfn) : Option (Entry Page) :=
  s.cache.bind fun cache => cache.store.find? gfn

/-- The page that a handle leads to. -/
def gfnOf? (s : Session World Driver Probe Page) (h : Handle) : Option Gfn :=
  s.cache.bind fun cache => cache.store.gfnOf? h

theorem close_cache (host : Host World Driver Probe Page) (s : Session World Driver Probe Page) :
    (s.close host).cache = none := by
  unfold close dropGuards
  cases s.cache <;> rfl

theorem resume_machine {s : Session World Driver Probe Page} {cache : Cache Driver Probe Page}
    (present : s.cache = some cache) : s.resume (s.machine cache) = s := by
  unfold resume machine
  rw [← present]

/-- The cache that there is gets configured, or nothing happens. -/
theorem configure_cases (s : Session World Driver Probe Page)
    (work : Machine World Driver Probe Page → Reply × Machine World Driver Probe Page) :
    (∃ cache, s.cache = some cache ∧
      s.configure work = ((work (s.machine cache)).1, s.resume (work (s.machine cache)).2)) ∨
    ∃ misuse, s.configure work = (.misused misuse, s) := by
  unfold configure onCache
  split
  · cases present : s.cache with
    | none => exact .inr ⟨_, rfl⟩
    | some cache => exact .inl ⟨cache, rfl, rfl⟩
  · exact .inr ⟨_, rfl⟩

/-- A page is cached exactly when there is a cache and its store has the page. -/
theorem cached?_eq_some {s : Session World Driver Probe Page} {gfn : Gfn} {e : Entry Page} :
    s.cached? gfn = some e ↔ ∃ cache, s.cache = some cache ∧ cache.store.find? gfn = some e :=
  Option.bind_eq_some_iff

/-- The sessions that a run can lead to, with the operations that were performed and the replies
to them, the newest first. Every operation has to be an allowed one. Faults are replies like
others, and between any two operations the indices may come to be gone through in another order. -/
inductive Reach (host : Host World Driver Probe Page)
    (allowed : Session World Driver Probe Page → Op World Driver Probe → Prop) (world : World) :
    List (Op World Driver Probe × Reply) → Session World Driver Probe Page → Prop
  | start : Reach host allowed world [] (.start world)
  | reorder {past : List (Op World Driver Probe × Reply)} {s : Session World Driver Probe Page}
      {cache : Cache Driver Probe Page} {store : Store Page} : Reach host allowed world past s →
      s.cache = some cache → cache.store.Reordered store →
      Reach host allowed world past { s with cache := some { cache with store } }
  | step {past : List (Op World Driver Probe × Reply)} {s : Session World Driver Probe Page}
      (op : Op World Driver Probe) : Reach host allowed world past s → allowed s op →
      Reach host allowed world ((op, (s.step host op).1) :: past) (s.step host op).2

variable {host : Host World Driver Probe Page}

/-- A condition on the acquisitions of a run, one by one. -/
def Heeds (calm : Machine World Driver Probe Page → Gfn → Prop) (s : Session World Driver Probe Page) :
    Op World Driver Probe → Prop
  | .acquire gfn => ∀ cache, s.cache = some cache → calm (s.machine cache) gfn
  | .get gfn _ => ∀ cache, s.cache = some cache → calm (s.machine cache) gfn
  | _ => True

theorem heeds_of_always {calm : Machine World Driver Probe Page → Gfn → Prop}
    (s : Session World Driver Probe Page) (op : Op World Driver Probe) (always : ∀ m gfn, calm m gfn) :
    s.Heeds calm op := by
  cases op with
  | acquire gfn => exact fun _ _ => always _ gfn
  | get gfn _ => exact fun _ _ => always _ gfn
  | _ => trivial

end Session

/-- The guards that an acquisition hands out. -/
def Outcome.guards (gfn : Gfn) : Holder → Outcome Lease → List Guard
  | .guard, .done lease => [⟨gfn, lease.handle, lease.size⟩]
  | _, _ => []

/-- Two machines of which none has other pages, another driver, another clock or other dealings
with its outside than the other. -/
structure Machine.Retuned (m n : Machine World Driver Probe Page) : Prop where
  store : n.cache.store = m.cache.store
  driver : n.cache.driver = m.cache.driver
  clock : n.cache.clock = m.cache.clock
  journal : n.journal = m.journal

/-- What has to be shown of a property of caches with their live guards for it to hold in every
session, and of a journal for it to hold while there is no cache. Every acquisition is known to
meet the condition that the run promises for it. -/
structure Lasting (host : Host World Driver Probe Page)
    (calm : Machine World Driver Probe Page → Gfn → Prop)
    (P : Machine World Driver Probe Page → List Guard → Prop)
    (Q : List (Act Driver Probe Page) → Prop) : Prop where
  start : Q []
  unbound : ∀ world counters journal, Q journal → P ⟨.unbound host, world, counters, journal⟩ []
  guards : ∀ {m live live'}, P m live → live.Perm live' → P m live'
  reorder : ∀ {m live store}, P m live → m.cache.store.Reordered store → P (m.withStore store) live
  retune : ∀ {m n live}, P m live → m.Retuned n → P n live
  bind : ∀ {m} driver, m.cache.store.Indexed → P m [] → P (m.bind host driver) []
  destroy : ∀ {m}, m.cache.store.Indexed → P m [] → Q (m.destroy host).journal
  acquire : ∀ {m live} gfn holder, m.cache.store.Indexed → calm m gfn → P m live →
    P (m.acquire host gfn holder).2 ((m.acquire host gfn holder).1.guards gfn holder ++ live)
  release : ∀ {m live} h, m.cache.store.Indexed → P m live → P (m.release h).2 live
  releaseGuard : ∀ {m g live}, m.cache.store.Indexed → P m (g :: live) → P (m.releaseGuard g.gfn).2 live

/-- The property holds of the cache of a session, or of its journal if it has no cache. -/
def Session.Sustains (P : Machine World Driver Probe Page → List Guard → Prop)
    (Q : List (Act Driver Probe Page) → Prop) (s : Session World Driver Probe Page) : Prop :=
  match s.cache with
  | none => s.guards.values = [] ∧ Q s.journal
  | some cache => cache.store.Indexed ∧ P (s.machine cache) s.guards.values

theorem Session.sustains_of_cache {P : Machine World Driver Probe Page → List Guard → Prop}
    {Q : List (Act Driver Probe Page) → Prop} {s : Session World Driver Probe Page} {cache : Cache Driver Probe Page}
    (held : s.Sustains P Q) (present : s.cache = some cache) :
    cache.store.Indexed ∧ P (s.machine cache) s.guards.values := by
  simpa only [Sustains, present] using held

/-- In a session that keeps its indices together, only handles of cached pages lead anywhere. -/
theorem Session.Sustains.gfnOf?_eq_none {P : Machine World Driver Probe Page → List Guard → Prop}
    {Q : List (Act Driver Probe Page) → Prop} {s : Session World Driver Probe Page} {h : Handle}
    (held : s.Sustains P Q) (nobody : ∀ gfn e, s.cached? gfn = some e → e.handle ≠ h) : s.gfnOf? h = none := by
  refine Option.not_isSome_iff_eq_none.mp fun isKnown => ?_
  obtain ⟨gfn, known⟩ := Option.isSome_iff_exists.mp isKnown
  obtain ⟨cache, present, known⟩ := Option.bind_eq_some_iff.mp known
  have indexed := (sustains_of_cache held present).1
  obtain ⟨other, e, found, handle⟩ := (indexed.known h).mp (Option.isSome_of_eq_some known)
  exact nobody other e (cached?_eq_some.mpr ⟨cache, present, found⟩) handle

namespace Machine

variable {host : Host World Driver Probe Page}

theorem choosePolicy_store (m : Machine World Driver Probe Page) :
    (m.choosePolicy host).cache.store = m.cache.store := by
  rw [choosePolicy_cache]

theorem bind_store (m : Machine World Driver Probe Page) (driver : Driver) :
    (m.bind host driver).cache.store = .empty := by
  change ((m.clear host).choosePolicy host).cache.store = .empty
  rw [choosePolicy_store, clear_cache]

/-- An acquisition keeps the indices together, also one that runs into a known handle. -/
theorem Acquired.indexed {m : Machine World Driver Probe Page} {gfn : Gfn} {holder : Holder}
    {outcome : Outcome Lease} {cache : Cache Driver Probe Page}
    (acquired : m.Acquired host gfn holder outcome cache) (indexed : m.cache.store.Indexed) :
    cache.store.Indexed := by
  cases acquired with
  | failed _ roomy =>
    obtain ⟨gfns, rfl, _⟩ := roomy
    exact indexed.removeAll gfns
  | touched found _ _ =>
    refine indexed.change fun e again => ?_
    cases Option.some.inj (found.symm.trans again)
    exact ⟨rfl, rfl⟩
  | pinned found _ room =>
    refine indexed.change fun e again => ?_
    cases Option.some.inj (found.symm.trans again)
    exact ⟨(Entry.pin?_keeps room).1, (Entry.pin?_keeps room).2.1⟩
  | placed answers _ unknown =>
    obtain ⟨gfns, roomy, _⟩ := answers.shrinks indexed
    have kept : _ := indexed.removeAll gfns
    have missing := answers.missing indexed
    rw [roomy] at unknown missing ⊢
    exact kept.insert_of_new unknown missing
  | aliased answers _ known =>
    obtain ⟨gfns, roomy, _⟩ := answers.shrinks indexed
    have kept : _ := indexed.removeAll gfns
    rw [roomy] at known ⊢
    exact kept.insert_of_known known

theorem write_retuned (m : Machine World Driver Probe Page) (g : Guard) (offset : Nat)
    (bytes : List UInt8) : m.Retuned (m.write host g offset bytes).2 := by
  unfold write
  split <;> exact ⟨rfl, rfl, rfl, rfl⟩

end Machine

namespace Lasting

/-- Work on the cache sustains the facts when it keeps them on the machine, with the store still indexed. -/
theorem onCache {P : Machine World Driver Probe Page → List Guard → Prop} {Q : List (Act Driver Probe Page) → Prop}
    {s : Session World Driver Probe Page}
    {work : Machine World Driver Probe Page → Reply × Machine World Driver Probe Page} (held : s.Sustains P Q)
    (keeps : ∀ cache, s.cache = some cache → cache.store.Indexed → P (s.machine cache) s.guards.values →
      (work (s.machine cache)).2.cache.store.Indexed ∧ P (work (s.machine cache)).2 s.guards.values) :
    (s.onCache work).2.Sustains P Q := by
  unfold Session.onCache
  split
  · exact held
  · next cache present =>
    simp only [Session.Sustains, present] at held
    exact keeps cache present held.1 held.2

/-- A setting is made with no guard alive only, so it need not keep the facts with one. -/
theorem configure {P : Machine World Driver Probe Page → List Guard → Prop} {Q : List (Act Driver Probe Page) → Prop}
    {s : Session World Driver Probe Page}
    {work : Machine World Driver Probe Page → Reply × Machine World Driver Probe Page} (held : s.Sustains P Q)
    (keeps : ∀ m : Machine World Driver Probe Page, m.cache.store.Indexed → P m [] → (work m).2.cache.store.Indexed ∧
      P (work m).2 []) :
    (s.configure work).2.Sustains P Q := by
  unfold Session.configure
  split
  · next none =>
    have nobody : s.guards.values = [] := List.map_eq_nil_iff.mpr (List.length_eq_zero_iff.mp none)
    refine onCache held fun cache _ indexed kept => ?_
    rw [nobody] at kept ⊢
    exact keeps _ indexed kept
  · exact held

/-- An access through a guard changes no entry, so it sustains whatever survives retuning. -/
theorem onGuard {host : Host World Driver Probe Page} {calm : Machine World Driver Probe Page → Gfn → Prop}
    {P : Machine World Driver Probe Page → List Guard → Prop} {Q : List (Act Driver Probe Page) → Prop}
    {s : Session World Driver Probe Page}
    {work : Guard → Machine World Driver Probe Page → Reply × Machine World Driver Probe Page}
    (lasting : Lasting host calm P Q) (held : s.Sustains P Q) (name : String)
    (retunes : ∀ g (m : Machine World Driver Probe Page), m.Retuned (work g m).2) :
    (s.onGuard name work).2.Sustains P Q := by
  unfold Session.onGuard
  split
  · exact held
  · next g _ =>
    refine onCache held fun cache _ indexed kept => ?_
    have retuned := retunes g (s.machine cache)
    exact ⟨retuned.store ▸ indexed, lasting.retune kept retuned⟩

/-- Dropping the live guards one after another ends with the facts about no guard. -/
theorem releaseGuards {host : Host World Driver Probe Page} {calm : Machine World Driver Probe Page → Gfn → Prop}
    {P : Machine World Driver Probe Page → List Guard → Prop} {Q : List (Act Driver Probe Page) → Prop}
    (lasting : Lasting host calm P Q) (live : List Guard) {m : Machine World Driver Probe Page}
    (indexed : m.cache.store.Indexed) (kept : P m live) :
    (live.foldl (fun m g => (m.releaseGuard g.gfn).2) m).cache.store.Indexed ∧
      P (live.foldl (fun m g => (m.releaseGuard g.gfn).2) m) [] := by
  induction live generalizing m with
  | nil => exact ⟨indexed, kept⟩
  | cons g rest ih =>
    exact ih ((m.releaseGuard_recounts g.gfn).indexed indexed) (lasting.releaseGuard indexed kept)

theorem close {host : Host World Driver Probe Page} {calm : Machine World Driver Probe Page → Gfn → Prop}
    {P : Machine World Driver Probe Page → List Guard → Prop} {Q : List (Act Driver Probe Page) → Prop}
    {s : Session World Driver Probe Page} (lasting : Lasting host calm P Q) (held : s.Sustains P Q) :
    (s.close host).cache = none ∧ (s.close host).guards.values = [] ∧ Q (s.close host).journal := by
  unfold Session.close Session.dropGuards
  cases present : s.cache with
  | none =>
    simp only [Session.Sustains, present] at held
    exact ⟨rfl, rfl, held.2⟩
  | some cache =>
    simp only [Session.Sustains, present] at held
    obtain ⟨indexed, kept⟩ := lasting.releaseGuards s.guards.values held.1 held.2
    exact ⟨rfl, rfl, lasting.destroy indexed kept⟩

theorem create {host : Host World Driver Probe Page} {calm : Machine World Driver Probe Page → Gfn → Prop}
    {P : Machine World Driver Probe Page → List Guard → Prop} {Q : List (Act Driver Probe Page) → Prop}
    {s : Session World Driver Probe Page} (lasting : Lasting host calm P Q) (held : s.Sustains P Q)
    (driver : Option Driver) :
    (s.create host driver).Sustains P Q := by
  obtain ⟨_, nobody, closed⟩ := lasting.close held
  have fresh := lasting.unbound (s.close host).world (s.close host).counters _ closed
  cases driver with
  | none =>
    change _ ∧ P _ (s.close host).guards.values
    rw [nobody]
    exact ⟨.empty, fresh⟩
  | some driver =>
    change _ ∧ P _ (s.close host).guards.values
    rw [nobody]
    refine ⟨?_, lasting.bind driver .empty fresh⟩
    rw [Machine.bind_store]
    exact .empty

theorem setOptions {host : Host World Driver Probe Page} {calm : Machine World Driver Probe Page → Gfn → Prop}
    {P : Machine World Driver Probe Page → List Guard → Prop} {Q : List (Act Driver Probe Page) → Prop}
    {s : Session World Driver Probe Page} (lasting : Lasting host calm P Q) (held : s.Sustains P Q)
    (options : Options) :
    (s.setOptions host options).2.Sustains P Q := by
  unfold Session.setOptions
  split
  · next none =>
    have nobody : s.guards.values = [] := List.map_eq_nil_iff.mpr (List.length_eq_zero_iff.mp none)
    split
    · exact held
    · next cache present =>
      simp only [Session.Sustains, present, nobody] at held
      unfold Machine.withOptions Cache.setLimit
      by_cases small : options.limit < minLimit
      · rw [if_pos small]
        exact ⟨nobody, lasting.destroy held.1 held.2⟩
      · rw [if_neg small]
        change _ ∧ P _ s.guards.values
        rw [nobody]
        exact ⟨held.1, lasting.retune held.2 ⟨rfl, rfl, rfl, rfl⟩⟩
  · exact held

theorem get {host : Host World Driver Probe Page} {calm : Machine World Driver Probe Page → Gfn → Prop}
    {P : Machine World Driver Probe Page → List Guard → Prop} {Q : List (Act Driver Probe Page) → Prop}
    {s : Session World Driver Probe Page} (lasting : Lasting host calm P Q) (held : s.Sustains P Q) {gfn : Gfn}
    (heeded : ∀ cache, s.cache = some cache → calm (s.machine cache) gfn) (name : String) :
    (s.get host gfn name).2.Sustains P Q := by
  unfold Session.get
  split
  · exact held
  · next cache present =>
    simp only [Session.Sustains, present] at held
    obtain ⟨indexed, kept⟩ := held
    have acquired := lasting.acquire gfn .guard indexed (heeded cache present) kept
    have indexed' := (Machine.acquire_acquired host (m := s.machine cache) indexed gfn .guard).indexed indexed
    split
    · next lease m run =>
      rw [run] at acquired indexed'
      change P m (⟨gfn, lease.handle, lease.size⟩ :: s.guards.values) at acquired
      cases taken : s.guards.find? name with
      | none =>
        refine ⟨indexed', ?_⟩
        change P m (s.guards.insert name _).values
        rwa [Index.values_insert, Index.erase_of_missing taken]
      | some old =>
        refine ⟨(m.releaseGuard_recounts old.gfn).indexed indexed', lasting.releaseGuard (g := old) indexed' ?_⟩
        refine lasting.guards acquired ?_
        exact ((Index.values_perm_erase taken).cons _).trans (.swap ..)
    · next e m run =>
      rw [run] at acquired indexed'
      exact ⟨indexed', acquired⟩
    · next fault m run =>
      rw [run] at acquired indexed'
      exact ⟨indexed', acquired⟩

theorem dropGuard {host : Host World Driver Probe Page} {calm : Machine World Driver Probe Page → Gfn → Prop}
    {P : Machine World Driver Probe Page → List Guard → Prop} {Q : List (Act Driver Probe Page) → Prop}
    {s : Session World Driver Probe Page} (lasting : Lasting host calm P Q) (held : s.Sustains P Q) (name : String) :
    (s.dropGuard name).2.Sustains P Q := by
  unfold Session.dropGuard
  split
  · exact held
  · next g taken =>
    cases present : s.cache with
    | none =>
      simp only [Session.Sustains, present] at held
      have owned := Index.values_perm_erase taken
      rw [held.1] at owned
      exact absurd owned.length_eq (by simp)
    | some cache =>
      simp only [Session.Sustains, present] at held
      have dropped := lasting.releaseGuard held.1 (lasting.guards held.2 (Index.values_perm_erase taken))
      simp only [Session.onCache]
      exact ⟨(Machine.releaseGuard_recounts _ g.gfn).indexed held.1, dropped⟩

/-- One operation sustains what lasts, provided the page it acquires is calm. -/
theorem step {host : Host World Driver Probe Page} {calm : Machine World Driver Probe Page → Gfn → Prop}
    {P : Machine World Driver Probe Page → List Guard → Prop} {Q : List (Act Driver Probe Page) → Prop}
    {s : Session World Driver Probe Page} (lasting : Lasting host calm P Q) (held : s.Sustains P Q)
    (op : Op World Driver Probe) (heeded : s.Heeds calm op) : (s.step host op).2.Sustains P Q := by
  have retuned : ∀ {m n : Machine World Driver Probe Page} {live}, m.Retuned n →
      m.cache.store.Indexed → P m live → n.cache.store.Indexed ∧ P n live :=
    fun tuned indexed kept => ⟨tuned.store ▸ indexed, lasting.retune kept tuned⟩
  cases op with
  | create driver => exact lasting.create held driver
  | discard =>
    obtain ⟨gone, nobody, closed⟩ := lasting.close held
    simp only [Session.step, Session.Sustains, gone]
    exact ⟨nobody, closed⟩
  | bind driver =>
    refine configure held fun m indexed kept => ⟨?_, lasting.bind driver indexed kept⟩
    rw [Machine.bind_store]
    exact .empty
  | setKernel | setPolicy | setProbe => exact configure held fun m => retuned ⟨rfl, rfl, rfl, rfl⟩
  | setCounting counting =>
    refine configure held fun m => retuned ?_
    cases counting <;> exact ⟨rfl, rfl, rfl, rfl⟩
  | setOptions options => exact lasting.setOptions held options
  | setLimit limit =>
    refine onCache held fun cache _ indexed kept => ?_
    unfold Cache.setLimit
    by_cases small : limit < minLimit
    · rw [if_pos small]; exact ⟨indexed, kept⟩
    · rw [if_neg small]; exact ⟨indexed, lasting.retune (m := s.machine cache) kept ⟨rfl, rfl, rfl, rfl⟩⟩
  | acquire gfn =>
    refine onCache held fun cache present indexed kept => ⟨?_, ?_⟩
    · exact (Machine.acquire_acquired host (m := s.machine cache) indexed gfn .handle).indexed indexed
    · exact lasting.acquire gfn .handle indexed (heeded cache present) kept
  | release h =>
    exact onCache held fun cache _ indexed kept =>
      ⟨(Machine.release_recounts _ h).indexed indexed, lasting.release h indexed kept⟩
  | get gfn name => exact lasting.get held heeded name
  | dropGuard name => exact lasting.dropGuard held name
  | read | readWord | readHeader => exact lasting.onGuard held _ fun _ _ => ⟨rfl, rfl, rfl, rfl⟩
  | write name offset bytes => exact lasting.onGuard held name fun g m => m.write_retuned g offset bytes
  | writeWord name offset value =>
    exact lasting.onGuard held name fun g m => m.write_retuned g offset (Layout.word64.encode value)
  | writeHeader name offset value =>
    exact lasting.onGuard held name fun g m => m.write_retuned g offset (Header.layout.encode value)
  | outside change =>
    obtain ⟨cache, guards, world, counters, journal⟩ := s
    cases cache with
    | none => exact held
    | some cache => exact ⟨held.1, lasting.retune held.2 ⟨rfl, rfl, rfl, rfl⟩⟩

/-- Along every allowed run the facts are sustained: the start has them and every step keeps them. -/
theorem reach {host : Host World Driver Probe Page} {calm : Machine World Driver Probe Page → Gfn → Prop}
    {P : Machine World Driver Probe Page → List Guard → Prop} {Q : List (Act Driver Probe Page) → Prop}
    {s : Session World Driver Probe Page} (lasting : Lasting host calm P Q)
    {allowed : Session World Driver Probe Page → Op World Driver Probe → Prop} {world : World}
    (heeding : ∀ s op, allowed s op → s.Heeds calm op) {past : List (Op World Driver Probe × Reply)}
    (reach : Session.Reach host allowed world past s) :
    s.Sustains P Q := by
  induction reach with
  | start => exact ⟨rfl, lasting.start⟩
  | reorder previous present same ih =>
    simp only [Session.Sustains, present] at ih
    exact ⟨same.indexed ih.1, lasting.reorder ih.2 same⟩
  | step op previous permitted ih => exact lasting.step ih op (heeding _ op permitted)

/-- What lasts through every acquisition holds in every session, whatever operations are allowed. -/
theorem always {host : Host World Driver Probe Page} {P : Machine World Driver Probe Page → List Guard → Prop}
    {Q : List (Act Driver Probe Page) → Prop} {s : Session World Driver Probe Page}
    (lasting : Lasting host (fun _ _ => True) P Q)
    {allowed : Session World Driver Probe Page → Op World Driver Probe → Prop} {world : World}
    {past : List (Op World Driver Probe × Reply)} (reach : Session.Reach host allowed world past s) :
    s.Sustains P Q :=
  lasting.reach (fun s op _ => s.heeds_of_always op fun _ _ => trivial) reach

end Lasting

end ForeignPages
