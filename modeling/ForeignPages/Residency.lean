import ForeignPages.KernelVersion

namespace ForeignPages

/-- The policy for pages that were just mapped. Hosts before version 4 report success even for pages
that they could not populate, and touching such a page is fatal. -/
inductive Residency
  /-- A successful mapping is trusted. -/
  | trust
  /-- Every new mapping is probed. -/
  | probe
deriving DecidableEq, Inhabited

namespace Residency

def name : Residency → String
  | trust => "Trust"
  | probe => "Probe"

def ofName? (s : String) : Option Residency := [trust, probe].find? (·.name = s)

/-- The first major version whose mappings are trusted. -/
def trustedMajor : UInt32 := 4

/-- The policy for a host kernel. A kernel of unknown version is trusted. -/
def forKernel : Option KernelVersion → Residency
  | some version => if version.major < trustedMajor then probe else trust
  | none => trust

end Residency

end ForeignPages
