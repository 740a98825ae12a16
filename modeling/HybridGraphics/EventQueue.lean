import HybridGraphics.World

/-!
# Pending device events

While the device manager still works through its events, a queue file exists.
Driver bindings and the primary display flag can be trusted once it is gone. A
run waits a limited time and goes on regardless, so that a stuck queue does not
keep the machine from starting. Nothing else changes the tree meanwhile, so a
queue that is there stays there.
-/

namespace HybridGraphics.EventQueue

/-- True if no events are pending. -/
def settled (queue : Path) (t : FileTree) : Noted Bool := do
  if t.has queue then
    Noted.warn "udev did not settle; continuing anyway"
    return false
  else
    return true

end HybridGraphics.EventQueue
