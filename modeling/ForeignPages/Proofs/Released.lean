import ForeignPages.Release
import ForeignPages.Proofs.StoreEntries

namespace ForeignPages

variable {World Driver Probe Page : Type}

/-- A cache in which at most the reference counters of one page are others than before. -/
def Cache.Recounts (c d : Cache Driver Probe Page) : Prop :=
  d = c ∨ ∃ gfn f, d = { c with store := c.store.change gfn f } ∧
    ∀ e : Entry Page, ∃ refs guards, f e = { e with refs, guards }

namespace Cache.Recounts

theorem driver_eq {c d : Cache Driver Probe Page} (recounts : c.Recounts d) : d.driver = c.driver := by
  rcases recounts with rfl | ⟨_, _, rfl, _⟩ <;> rfl

/-- A page keeps everything but its counters. -/
theorem find?_eq {c d : Cache Driver Probe Page} (recounts : c.Recounts d) (gfn : Gfn) :
    d.store.find? gfn = c.store.find? gfn ∨
      ∃ e refs guards, c.store.find? gfn = some e ∧ d.store.find? gfn = some { e with refs, guards } := by
  rcases recounts with rfl | ⟨other, f, rfl, keeps⟩
  · exact .inl rfl
  · rw [Store.find?_change]
    split
    · cases found : c.store.find? gfn with
      | none => exact .inl rfl
      | some e =>
        obtain ⟨refs, guards, same⟩ := keeps e
        exact .inr ⟨e, refs, guards, rfl, congrArg some same⟩
    · exact .inl rfl

theorem indexed {c d : Cache Driver Probe Page} (recounts : c.Recounts d) (indexed : c.store.Indexed) :
    d.store.Indexed := by
  rcases recounts with rfl | ⟨_, f, rfl, keeps⟩
  · exact indexed
  · refine indexed.change fun e _ => ?_
    obtain ⟨refs, guards, same⟩ := keeps e
    rw [same]
    exact ⟨rfl, rfl⟩

theorem pages_eq {c d : Cache Driver Probe Page} (recounts : c.Recounts d) :
    d.store.entries.map (·.page) = c.store.entries.map (·.page) := by
  rcases recounts with rfl | ⟨_, f, rfl, keeps⟩
  · rfl
  · refine Index.map_values_change Entry.page fun e _ => ?_
    obtain ⟨refs, guards, same⟩ := keeps e
    rw [same]

end Cache.Recounts

namespace Machine

/-- A release changes one counter of one page, or nothing. -/
theorem release_recounts (m : Machine World Driver Probe Page) (h : Handle) :
    m.cache.Recounts (m.release h).2.cache := by
  unfold release
  split
  · exact .inl rfl
  · next gfn _ =>
    split
    · exact .inl rfl
    · split
      · split <;> exact .inl rfl
      · exact .inr ⟨gfn, _, rfl, fun e => ⟨e.refs - 1, e.guards, rfl⟩⟩

/-- So does a guard that is dropped. -/
theorem releaseGuard_recounts (m : Machine World Driver Probe Page) (gfn : Gfn) :
    m.cache.Recounts (m.releaseGuard gfn).2.cache := by
  unfold releaseGuard
  split
  · exact .inl rfl
  · split
    · exact .inl rfl
    · exact .inr ⟨gfn, _, rfl, fun e => ⟨e.refs, e.guards - 1, rfl⟩⟩

end Machine

end ForeignPages
