import ForeignPages.Cache

namespace ForeignPages.Machine

variable {World Driver Probe Page : Type}

/-- Gives back one reference through a handle. A handle that leads to no cached page is ignored. -/
def release (m : Machine World Driver Probe Page) (h : Handle) :
    Outcome Unit × Machine World Driver Probe Page :=
  match m.cache.store.gfnOf? h with
  | none => (.done (), m)
  | some gfn => match m.cache.store.find? gfn with
    | none => (.done (), m)
    | some e =>
      if e.refs = 0 then
        if e.guards = 0 then (.broken (.overReleased e.gfn), m)
        else (.done (), m.tell (.releasedUnreferenced e.gfn e.guards.toNat))
      else
        (.done (), m.withStore (m.cache.store.change gfn fun e => { e with refs := e.refs - 1 }))

/-- Gives back the reference of a guard. -/
def releaseGuard (m : Machine World Driver Probe Page) (gfn : Gfn) :
    Outcome Unit × Machine World Driver Probe Page :=
  match m.cache.store.find? gfn with
  | none => (.done (), m)
  | some e =>
    if e.guards = 0 then (.broken (.guardMissing gfn), m)
    else
      (.done (), m.withStore (m.cache.store.change gfn fun e => { e with guards := e.guards - 1 }))

end ForeignPages.Machine
