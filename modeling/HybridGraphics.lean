import HybridGraphics.FileTree.Contents
import HybridGraphics.Proofs.Decision.Grounds
import HybridGraphics.Proofs.Decision.SameGrounds
import HybridGraphics.Proofs.Decision.StaleFragments
import HybridGraphics.Proofs.Decision.WellFormed
import HybridGraphics.Proofs.KernelModule.Truthful
import HybridGraphics.Proofs.Pci.Apart
import HybridGraphics.Proofs.Pci.BoundedWalk
import HybridGraphics.Proofs.Pci.Collected
import HybridGraphics.Proofs.Pci.Connectors
import HybridGraphics.Proofs.Run.ChangeSignal
import HybridGraphics.Proofs.Run.Convergence
import HybridGraphics.Proofs.Run.DamagedSnapshot
import HybridGraphics.Proofs.Run.DriverLoads
import HybridGraphics.Proofs.Run.DriverOption
import HybridGraphics.Proofs.Run.FallBack
import HybridGraphics.Proofs.Run.FragmentsMatch
import HybridGraphics.Proofs.Run.OffloadingMarker
import HybridGraphics.Proofs.Run.Restoring
import HybridGraphics.Proofs.Run.SelectedCard
import HybridGraphics.Proofs.Run.SessionSafety
import HybridGraphics.Proofs.RuntimePm.Gates
import HybridGraphics.Proofs.Snapshot.Grammar
import HybridGraphics.Proofs.Snapshot.Lossless
import HybridGraphics.Proofs.System.Unloading
import HybridGraphics.Run.Run
import HybridGraphics.System.Host
import HybridGraphics.System.Rehearsal
import HybridGraphics.Proofs.Fragment.Recognised
import HybridGraphics.Proofs.KernelModule.CardMarks
import HybridGraphics.Proofs.KernelModule.BlacklistLines
import HybridGraphics.Proofs.System.DryRun
