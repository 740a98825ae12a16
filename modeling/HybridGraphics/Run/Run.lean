import HybridGraphics.Decision.Decide
import HybridGraphics.EventQueue
import HybridGraphics.Run.Apply
import HybridGraphics.Run.Gather

/-!
# A run

One arbitration, from start to end: unless the kernel command line says not to,
wait for pending device events, gather the situation, decide, and carry the
decision out. The result is the mode the machine was left in.
-/

namespace HybridGraphics.Run

variable {σ : Type}

/-- Decides on a situation and carries the decision out. -/
def arbitrate (config : Config) (actions : Actions σ) (triplet : String) (s : Situation) :
    Act σ Mode := do
  let decision := Decision.decide s
  Act.look fun _ => ⟨(), decision.remarks⟩
  Act.info s!"Selected mode: {decision.mode.text}"
  execute config actions triplet decision

/-- A run on a machine that has not been opted out. -/
def runEnabled (config : Config) (actions : Actions σ) : Act σ (Except Error Mode) := do
  if config.deviceListing.isNone then
    let _ ← Act.look (EventQueue.settled config.eventQueue)
  match ← Architecture.triplet config.architecture with
  | .error cause => return .error (.architecture cause)
  | .ok triplet =>
    match ← gather config actions triplet with
    | .error cause => return .error cause
    | .ok situation => return .ok (← arbitrate config actions triplet situation)

/-- Runs once, and yields the mode the machine was left in. -/
def run (config : Config) (actions : Actions σ) : Act σ (Except Error Mode) := do
  if Probe.optedOut config.kernelCommandLine (← get).tree then
    Act.info s!"Disabled by the {Probe.kernelOptOut} kernel parameter. Nothing to do"
    return .ok .noAction
  else
    runEnabled config actions

end HybridGraphics.Run
