import HybridGraphics.Decision.Situation
import HybridGraphics.KernelModule.Unload
import HybridGraphics.Run.CarryOut
import HybridGraphics.RuntimePm.Control

/-!
# Applying effects

What each effect of a decision does to the machine, and how it can fail. An
effect that fails is reported as an error and counts as not done.
-/

namespace HybridGraphics.Run

variable {σ : Type}

/-! ## How an effect fails -/

inductive EffectError where
  | fragment (cause : Fragment.Error)
  | kernelModule (cause : KernelModule.Error)
  | runtimePm (cause : RuntimePm.Error)
  | policy (cause : Policy.WriteError)
  | writeMarker (file : Path) (cause : Fault)
  | removeMarker (file : Path) (cause : Fault)
  | pxScript (cause : Fault)
  deriving DecidableEq, Repr

namespace EffectError

/-- The error and what it was caused by, outermost first. -/
def chain : EffectError → List String
  | fragment cause => cause.chain
  | kernelModule cause => cause.chain
  | runtimePm cause => cause.chain
  | policy cause => cause.chain
  | writeMarker file cause => [s!"failed to write {file.text}", cause.message]
  | removeMarker file cause => [s!"failed to remove {file.text}", cause.message]
  | pxScript cause => ["amdgpu-pro-px failed", cause.message]

end EffectError

/-! ## What an effect does -/

/-- What the offloading marker holds. -/
def markerText : List Char := "ON\n".toList

/-- Leaves the offloading marker, or takes it away. -/
def setOffloadingMarker (config : Config) (required : Bool) : Act σ (Except EffectError Unit) := do
  let file := config.offloadingMarker
  if config.dryRun then
    Act.info s!"dry run: leaving {file.text} as is"
    return .ok ()
  else if required then
    return (← Act.writeText file markerText).mapError (.writeMarker file)
  else
    return ((← Act.removeFile file).map fun _ => ()).mapError (.removeMarker file)

/-- Does what an effect calls for. -/
def apply (config : Config) (actions : Actions σ) (triplet : String) :
    Effect → Act σ (Except EffectError Unit)
  | .writeOutputClass device => do
    return (← Fragment.writeOutputClass config triplet device).mapError .fragment
  | .writeServerLayout => do
    return (← Fragment.writeServerLayout config).mapError .fragment
  | .removeFragment fragment => do
    return ((← Fragment.remove config fragment).map fun _ => ()).mapError .fragment
  | .loadModule name => do
    return (← KernelModule.load actions name none).mapError .kernelModule
  | .unloadNvidiaStack => do
    return (← KernelModule.unloadNvidiaStack config actions).mapError .kernelModule
  | .setRuntimePm device enabled eligibility onBus => do
    return (← RuntimePm.setRuntimePm config actions device enabled eligibility onBus).mapError
      .runtimePm
  | .persistPolicy policy => do
    return (← Policy.write config.policyFile policy).mapError .policy
  | .setOffloadingMarker required => setOffloadingMarker config required
  | .runPxScript setting => do
    return (← actions.runPxScript config.pxScript setting).mapError .pxScript

/-! ## A whole decision -/

/-- Does what an effect calls for, and reports a failure. True if it was done. -/
def attempt (config : Config) (actions : Actions σ) (triplet : String) (effect : Effect) :
    Act σ Bool := do
  match ← apply config actions triplet effect with
  | .ok () => return true
  | .error cause =>
    Act.error (explained cause.chain)
    return false

/-- Removes a fragment, and reports a failure. -/
def discard (config : Config) (fragment : Fragment) : Act σ Unit := do
  match ← Fragment.remove config fragment with
  | .ok _ => pure ()
  | .error cause => Act.error (explained cause.chain)

/-- Leaves the X server to the integrated card, without any fragment. -/
def fallBack (config : Config) : Act σ Unit := do
  Act.warn "unable to enable the discrete GPU; falling back to integrated only"
  discard config .outputClass
  discard config .serverLayout

/-- Carries a decision out on this machine. -/
def execute (config : Config) (actions : Actions σ) (triplet : String) (d : Decision) :
    Act σ Mode :=
  carryOut (attempt config actions triplet) (fallBack config) d

end HybridGraphics.Run
