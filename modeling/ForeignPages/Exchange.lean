import ForeignPages.Frame
import ForeignPages.Options
import ForeignPages.Protection
import ForeignPages.Residency
import ForeignPages.Value

namespace ForeignPages

def Gfn.ofValue? (v : Value) : Option Gfn := v.word64?.map (⟨·⟩)

def Gfn.toValue (g : Gfn) : Value := .ofNat g.number.toNat

def Handle.ofValue? (v : Value) : Option Handle := v.word64?.map (⟨·⟩)

def Handle.toValue (h : Handle) : Value := .ofNat h.address.toNat

def Protection.ofValue? (v : Value) : Option Protection := v.text?.bind ofList?

def Protection.toValue (p : Protection) : Value := .text p.list

/-- A policy is its name, alone or as the one field of a record that holds nothing. -/
def Residency.ofValue? : Value → Option Residency
  | .text name => ofName? name
  | .record [(name, .null)] => ofName? name
  | _ => none

def Residency.toValue (policy : Residency) : Value := .text policy.name

/-- Both numbers of a version have to be there. -/
def KernelVersion.ofValue? : Value → Option KernelVersion
  | .list [major, minor] => do return ⟨← major.word32?, ← minor.word32?⟩
  | .record fields => do
    let major ← (Value.record fields).field? "major"
    let minor ← (Value.record fields).field? "minor"
    return ⟨← major.word32?, ← minor.word32?⟩
  | _ => none

def KernelVersion.toValue (v : KernelVersion) : Value :=
  .record [("major", .ofNat v.major.toNat), ("minor", .ofNat v.minor.toNat)]

namespace Options

def limitOf? : Option Value → Option Nat
  | some v => v.below? UInt64.size
  | none => some defaultLimit

def logMapFailuresOf? : Option Value → Option Bool
  | some v => v.flag?
  | none => some false

/-- Every option that is missing has its default. -/
def ofValue? : Value → Option Options
  | .list items =>
    if items.length ≤ 2 then do
      return ⟨← limitOf? items[0]?, ← logMapFailuresOf? items[1]?⟩
    else none
  | .record fields => do
    return ⟨← limitOf? ((Value.record fields).field? "limit"),
      ← logMapFailuresOf? ((Value.record fields).field? "log_map_failures")⟩
  | _ => none

def toValue (o : Options) : Value :=
  .record [("limit", .ofNat o.limit), ("log_map_failures", .flag o.logMapFailures)]

end Options

end ForeignPages
