import HybridGraphics.Decision.Situation

/-!
# The decision

`decide` maps a situation onto the operating mode and the effects that reach it.
It is a plain function: it looks at nothing but the situation and does nothing.

A single card leaves little choice, except that an NVIDIA card that was powered
off is brought back if the operator wants it, and that PowerXpress is reset when
its other card has gone. With several cards, the firmware's primary one and the
first other one count: an Intel or AMD card beside an NVIDIA one is PRIME, by
the operator's policy; beside a proprietary AMD one it is PowerXpress; anything
else is `muxed`, where the loaded driver wins.

Every decision but no action ends in the offloading marker, by which the next
run knows what this one needed.
-/

namespace HybridGraphics

open Pci (Device Vendor)

namespace Decision

def noAction : Decision := { mode := .noAction }

/-- The decision after a remark on what led to it. -/
def remarking (level : Level) (text : String) (d : Decision) : Decision :=
  { d with remarks := ⟨level, text⟩ :: d.remarks }

/-! ## The ways to configure the machine -/

/-- Removes both fragments, where they are present. -/
def removeFragments (s : Situation) : List Effect :=
  (if s.outputClass.isPresent then [.removeFragment .outputClass] else [])
    ++ (if s.serverLayout.isPresent then [.removeFragment .serverLayout] else [])

def integratedOnly (s : Situation) : Decision :=
  { mode := .integratedOnly, effects := removeFragments s }

/-- Several cards without a hybrid configuration: whichever driver is loaded wins. -/
def muxed (s : Situation) : Decision :=
  let discreteDriver := s.drivers.nvidiaLoaded
    || (s.drivers.amdgpuLoaded && s.drivers.amdgpuVersioned)
  { mode := if discreteDriver then .discreteOnly else .integratedOnly
    effects := removeFragments s }

/-- Runs the PowerXpress script. -/
def powerXpress (setting : PxMode) : Decision :=
  { mode := .powerXpress setting, effects := [.runPxScript setting] }

def runtimePm (s : Situation) (discrete : Device) (enabled : Bool) : Effect :=
  .setRuntimePm discrete enabled s.eligibility (s.devices.any (·.sameIdentity discrete))

/-- Loads the NVIDIA driver, if it is not loaded. -/
def loadDriver (s : Situation) : List Effect :=
  if s.drivers.nvidiaLoaded then [] else [.loadModule "nvidia"]

/-- The NVIDIA card drives every output. -/
def primeOn (s : Situation) (discrete : Device) (before : List Effect) : Decision :=
  { mode := .primeOn
    effects := before
      ++ (if s.outputClass != .current || s.changed then [.writeOutputClass discrete] else [])
      ++ (if s.serverLayout.isPresent then [.removeFragment .serverLayout] else [])
      ++ runtimePm s discrete false :: loadDriver s }

/-- The NVIDIA card renders for single programs. -/
def primeOnDemand (s : Situation) (discrete : Device) : Decision :=
  { mode := .primeOnDemand
    effects := (if s.serverLayout != .current || s.changed then [.writeServerLayout] else [])
      ++ (if s.outputClass.isPresent then [.removeFragment .outputClass] else [])
      ++ runtimePm s discrete true :: loadDriver s }

/-- The NVIDIA card is not used, and its driver goes. -/
def primeOff (s : Situation) (discrete : Device) : Decision :=
  { mode := .integratedOnly
    effects := removeFragments s
      ++ (if s.drivers.nvidiaLoaded then [.unloadNvidiaStack] else [])
      ++ [runtimePm s discrete true] }

/-- An NVIDIA card beside an integrated one, by the operator's policy. -/
def prime (s : Situation) (discrete : Device) : Decision :=
  match s.policy with
  | .off => primeOff s discrete
  | .on => primeOn s discrete []
  | .onDemand =>
    if s.onDemandCapable then primeOnDemand s discrete
    else
      let major := s.driverMajor.getD 0
      (primeOn s discrete [.persistPolicy .on]).remarking .info
        s!"NVIDIA driver {major} does not support on-demand offload; falling back to PRIME on"

/-! ## One card -/

/-- The NVIDIA card to bring back, if one was powered off and the operator wants it. -/
def restorable? (s : Situation) : Option Device :=
  if s.offloadingWasRequired && s.drivers.nvidiaUnloaded && s.policy != .off then
    s.residualDiscrete.filter (·.vendor == Vendor.nvidia)
  else none

/-- An Intel card alone. -/
def singleIntel (s : Situation) : Decision :=
  match restorable? s with
  | some discrete =>
    (prime s discrete).remarking .info "The discrete NVIDIA GPU was powered off. Restoring PRIME"
  | none =>
    if s.offloadingWasRequired && s.drivers.amdgpuUnloaded && s.pxScriptAvailable then
      powerXpress .reset
    else integratedOnly s

/-- A card alone that is no integrated one. -/
def discreteOnly (s : Situation) : Decision :=
  { mode := .discreteOnly
    effects := if s.serverLayout.isPresent then [.removeFragment .serverLayout] else [] }

/-- An AMD card alone. -/
def singleAmd (s : Situation) : Decision :=
  if s.drivers.amdgpuVersioned && s.lastBootHadIntel && s.pxScriptAvailable then powerXpress .reset
  else discreteOnly s

def singleCard (s : Situation) (device : Device) : Decision :=
  if device.vendor = Vendor.intel then singleIntel s
  else if device.vendor = Vendor.amd then singleAmd s
  else if device.vendor = Vendor.nvidia then discreteOnly s
  else
    let vendor := String.ofList (Text.hexPadded 4 device.vendor.toNat)
    noAction.remarking .warn s!"unsupported vendor {vendor}"

/-! ## Several cards -/

/-- The PowerXpress setting for a policy. -/
def pxSetting : Policy → PxMode
  | .on => .performance
  | .off | .onDemand => .powerSaving

/-- The firmware's primary card and the first other one. -/
def hybrid (s : Situation) (boot discrete : Device) : Decision :=
  if (boot.vendor = Vendor.intel || boot.vendor = Vendor.amd) && boot.vendor != discrete.vendor then
    if discrete.vendor = Vendor.nvidia && s.primeCapable then prime s discrete
    else if discrete.vendor = Vendor.amd && s.drivers.amdgpuVersioned && s.pxScriptAvailable
        && s.requiresOffloading then
      powerXpress (pxSetting s.policy)
    else muxed s
  else muxed s

def multipleCards (s : Situation) : Decision :=
  match s.devices.find? (·.bootVga), s.devices.find? (!·.bootVga) with
  | some boot, some discrete => hybrid s boot discrete
  | _, _ => (muxed s).remarking .warn "no boot VGA device among multiple GPUs"

/-! ## The decision -/

/-- The decision before the marker is added to it. -/
def choose (s : Situation) : Decision :=
  match s.devices with
  | [] => noAction
  | [device] => singleCard s device
  | _ => multipleCards s

/-- A decision that takes action also sets the offloading marker, last. -/
def withMarker (s : Situation) (d : Decision) : Decision :=
  if d.mode = .noAction then d
  else { d with effects := d.effects ++ [.setOffloadingMarker s.requiresOffloading] }

/-- The operating mode for a situation, and the effects that reach it. -/
def decide (s : Situation) : Decision := withMarker s (choose s)

end Decision

end HybridGraphics
