import HybridGraphics.Architecture
import HybridGraphics.Pci.Scan
import HybridGraphics.Snapshot.Store

/-!
# Why a run gives up

A run ends early only if it cannot tell what machine it is on: which
architecture, which cards, or which cards the last boot had. Whatever fails
after the decision is reported and gone past.
-/

namespace HybridGraphics.Run

inductive Error where
  | architecture (cause : Architecture.Error)
  | scan (cause : Pci.ScanError)
  | listing (file : Path) (cause : Fault)
  | snapshot (cause : Snapshot.Error)
  deriving DecidableEq, Repr

namespace Error

/-- The error and what it was caused by, outermost first. -/
def chain : Error → List String
  | architecture cause => "unable to determine the system architecture" :: cause.chain
  | scan cause => "unable to scan for graphics devices" :: cause.chain
  | listing file cause =>
    ["unable to read the PCI listing at " ++ Text.quote file.text, cause.message]
  | snapshot cause => "unable to record the graphics devices of this boot" :: cause.chain

end Error

end HybridGraphics.Run
