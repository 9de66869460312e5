import ForeignPages.Bench.Run
import ForeignPages.Image.Session
import ForeignPages.Main
import ForeignPages.Proofs.Churn
import ForeignPages.Proofs.Diagnostics
import ForeignPages.Proofs.FailedAcquisition
import ForeignPages.Proofs.Faultless
import ForeignPages.Proofs.GuardMemory
import ForeignPages.Proofs.GuardSafety
import ForeignPages.Proofs.HeldPages
import ForeignPages.Proofs.ImageIsolation
import ForeignPages.Proofs.KnownHandles
import ForeignPages.Proofs.LateReleases
import ForeignPages.Proofs.PageBound
import ForeignPages.Proofs.ReadOnlyImages
import ForeignPages.Proofs.ReferenceTotals
import ForeignPages.Proofs.ReleaseText
import ForeignPages.Proofs.ResidencyGate
import ForeignPages.Proofs.ScanReport
import ForeignPages.Proofs.Transparency
import ForeignPages.Proofs.TypedAccesses
import ForeignPages.Region
