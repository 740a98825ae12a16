import HybridGraphics.Actions
import HybridGraphics.Fragment
import HybridGraphics.Policy
import HybridGraphics.RuntimePm.Eligibility

/-!
# What a decision is made on, and what it is

A `Situation` is everything the decision may depend on, gathered before it is
made. A `Decision` is the operating mode to reach and the effects that reach it,
in order; the remarks are what there is to say about how it came about.
-/

namespace HybridGraphics

open Pci (Device)

/-! ## Modes and effects -/

/-- The graphics stack that a run leaves active. -/
inductive Mode where
  | discreteOnly
  | integratedOnly
  | primeOn
  | primeOnDemand
  | powerXpress (setting : PxMode)
  | noAction
  deriving DecidableEq, Repr

namespace Mode

def text : Mode → String
  | discreteOnly => "discrete only"
  | integratedOnly => "integrated only"
  | primeOn => "PRIME on"
  | primeOnDemand => "PRIME on-demand"
  | powerXpress setting => s!"PowerXpress ({setting.text})"
  | noAction => "no action"

/-- True for the modes in which the X server uses the NVIDIA card. -/
def isPrime : Mode → Bool
  | primeOn | primeOnDemand => true
  | _ => false

end Mode

/-- A change that a decision calls for. -/
inductive Effect where
  | writeOutputClass (device : Device)
  | writeServerLayout
  | removeFragment (fragment : Fragment)
  | loadModule (name : String)
  /-- Unloads the NVIDIA companions and then the driver. -/
  | unloadNvidiaStack
  /-- Switches runtime power management; a card known only by its mark is not on the bus. -/
  | setRuntimePm (device : Device) (enabled : Bool) (eligibility : Eligibility) (onBus : Bool)
  | persistPolicy (policy : Policy)
  | setOffloadingMarker (required : Bool)
  | runPxScript (setting : PxMode)
  deriving DecidableEq, Repr

namespace Effect

/-- True for the effects without which the discrete card cannot be used. -/
def enablesDiscrete : Effect → Bool
  | writeOutputClass _ | writeServerLayout | loadModule _ => true
  | _ => false

end Effect

/-! ## Situations -/

/-- Which drivers are loaded, were loaded, or could be. -/
structure DriverStates where
  nvidiaLoaded : Bool := false
  /-- Loaded earlier, but no longer. -/
  nvidiaUnloaded : Bool := false
  nvidiaBlacklisted : Bool := false
  nvidiaAvailable : Bool := false
  nouveauLoaded : Bool := false
  amdgpuLoaded : Bool := false
  amdgpuUnloaded : Bool := false
  /-- The proprietary variant carries a version. -/
  amdgpuVersioned : Bool := false
  radeonLoaded : Bool := false
  deriving DecidableEq, Repr

/-- Everything a decision may depend on. -/
structure Situation where
  devices : List Device := []
  hasChanged : Bool := false
  /-- There was no snapshot of an earlier boot. -/
  firstBoot : Bool := false
  lastBootHadIntel : Bool := false
  requiresOffloading : Bool := false
  /-- The marker that the last run left. -/
  offloadingWasRequired : Bool := false
  policy : Policy := .off
  driverMajor : Option Nat := none
  drivers : DriverStates := {}
  outputClass : FragmentState := .missing
  serverLayout : FragmentState := .missing
  eligibility : Eligibility := {}
  /-- A card that has left the bus and is known by its mark. -/
  residualDiscrete : Option Device := none
  pxScriptAvailable : Bool := false
  deriving DecidableEq, Repr

/-- The first driver series that supports render offload. -/
def onDemandMinDriver : Nat := 450

namespace Situation

/-- True if a vendor's proprietary and open drivers are loaded side by side. -/
def driverConflict (s : Situation) : Bool :=
  (s.drivers.nvidiaLoaded && s.drivers.nouveauLoaded)
    || (s.drivers.amdgpuVersioned && s.drivers.amdgpuLoaded && s.drivers.radeonLoaded)

/-- True if fragments have to be generated anew. Changed hardware counts only once an
earlier boot has been recorded; a driver conflict always counts. -/
def changed (s : Situation) : Bool := (s.hasChanged && !s.firstBoot) || s.driverConflict

/-- True if the NVIDIA driver may be used beside the integrated card's. -/
def primeCapable (s : Situation) : Bool :=
  s.requiresOffloading && !s.drivers.nouveauLoaded && !s.drivers.nvidiaBlacklisted
    && (s.drivers.nvidiaLoaded || s.drivers.nvidiaAvailable)

/-- True unless the driver is known to be too old for render offload. -/
def onDemandCapable (s : Situation) : Bool :=
  match s.driverMajor with
  | some major => onDemandMinDriver ≤ major
  | none => true

end Situation

structure Decision where
  mode : Mode
  effects : List Effect := []
  remarks : List Note := []
  deriving DecidableEq, Repr

end HybridGraphics
