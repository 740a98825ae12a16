import HybridGraphics.Config
import HybridGraphics.Pci.ConfigSpace
import HybridGraphics.Probe
import HybridGraphics.RuntimePm.Database
import HybridGraphics.RuntimePm.KernelVersion

/-!
# Who may power down at runtime

Runtime D3 lets a discrete NVIDIA card power down while the system runs. It is
supported on a new enough kernel, if an override file says so or if the machine
is a laptop whose card the driver lists for it, or which can at least be woken
from D3hot. Whether it is enabled already, the running driver says.

Each gate is looked at only if the ones before it leave the answer open, which
the report shows.
-/

namespace HybridGraphics

/-- Whether runtime D3 may be used for a card, and whether it is in use. -/
structure Eligibility where
  supported : Bool := false
  currentlyEnabled : Bool := false
  deriving DecidableEq, Repr, Inhabited

namespace RuntimePm

open Pci (Address Capability)

/-- Chassis types of portable machines. -/
def laptopChassis : List Nat := [8, 9, 10, 14, 31, 32]

/-- The feature of the chips that runtime D3 works on. -/
def runtimePmFeature : String := "runtimepm"

/-! ## The driver's list -/

/-- The lists of supported cards that a driver series may have, the desktop one first. -/
def databaseFiles (config : Config) (driverMajor : Option Nat) : List Path :=
  match driverMajor with
  | none => []
  | some major =>
    ["", "-server"].map fun variant =>
      config.driverDocs.below [s!"nvidia-driver-{major}" ++ variant, "supported-gpus.json"]

/-- Whether a list has the card with the feature. -/
def chipSupports (chips : List Chip) (model : UInt16) : Noted Bool := do
  match findChip? chips model with
  | some chip =>
    let supported := chip.features.contains runtimePmFeature.toList
    let name := String.ofList chip.name
    let id := String.ofList chip.id
    Noted.info s!"{name} ({id}) supports runtimepm? {yesNo supported}"
    return supported
  | none =>
    let shown := String.ofList (Text.hexPadded 4 model.toNat)
    Noted.warn s!"{shown} is not in the supported GPU list"
    return false

/-- Whether the driver lists the card. Only the first list there is counts. -/
def isListed (config : Config) (driverMajor : Option Nat) (model : UInt16) (t : FileTree) :
    Noted Bool := do
  match (databaseFiles config driverMajor).find? t.has with
  | none =>
    Noted.warn "no supported-gpus.json found for the installed NVIDIA driver"
    return false
  | some file =>
    match t.read file with
    | .error cause =>
      Noted.warn s!"failed to parse {file.text}: {cause.message}"
      return false
    | .ok content =>
      match parseChips? content with
      | none =>
        Noted.warn s!"failed to parse {file.text}: no list of supported GPUs"
        return false
      | some chips => chipSupports chips model

/-! ## The machine and its kernel -/

/-- Whether the chassis is that of a laptop. -/
def isLaptop (config : Config) (t : FileTree) : Noted Bool := do
  match (Probe.firstLine config.chassisType t).bind Text.readDecimal32? with
  | some chassis =>
    let laptop := laptopChassis.contains chassis
    Noted.info s!"Chassis type {chassis} is a laptop? {yesNo laptop}"
    return laptop
  | none =>
    Noted.warn s!"unable to read chassis type from {config.chassisType.text}"
    return false

/-- Whether the kernel knows runtime D3. -/
def kernelSupports (config : Config) (t : FileTree) : Noted Bool := do
  match (Probe.firstLine config.kernelRelease t).bind KernelVersion.ofRelease? with
  | some version => return version.atLeast .firstWithRuntimeD3
  | none =>
    Noted.warn "unable to determine the kernel version"
    return false

/-! ## What the driver does already -/

/-- What follows the label in a line that begins with it, blanks aside. -/
def afterLabel? (label line : List Char) : Option (List Char) :=
  let line := Text.trim line
  if label.isPrefixOf line then some (line.drop label.length) else none

/-- Whether the driver's account of a card's power says that runtime D3 is on. -/
def statusEnabled (text : List Char) : Bool :=
  match (Text.lines text).findSome? (afterLabel? "Runtime D3 status:".toList) with
  | some status => "enabled".toList.isPrefixOf (Text.lowerAscii (Text.trim status))
  | none => false

/-- Whether runtime D3 is in use for a card. -/
def currentlyEnabled (config : Config) (address : Address) (t : FileTree) : Bool :=
  match t.readText ((config.driverCards.child address.text).child "power") with
  | .ok text => statusEnabled text
  | .error _ => false

/-! ## The gates together -/

/-- Whether the card is one for runtime D3, the kernel aside. -/
def cardSupports (config : Config) (driverMajor : Option Nat) (model : UInt16)
    (capability : Capability) (t : FileTree) : Noted Bool := do
  if t.has config.runtimePmOverride then
    Noted.info s!"Runtime D3 override found at {config.runtimePmOverride.text}"
    return true
  else
    -- the chassis is looked at only for a card that could be used
    let listed ← isListed config driverMajor model t
    if listed then isLaptop config t
    else if capability.d3hot then
      let shown := String.ofList (Text.hexPadded 4 model.toNat)
      Noted.info s!"{shown} is not listed for runtimepm; falling back to D3hot support"
      isLaptop config t
    else return false

/-- Whether runtime D3 may be used for a card, and whether it is in use. -/
def resolve (config : Config) (driverMajor : Option Nat) (address : Address) (model : UInt16)
    (capability : Capability) (t : FileTree) : Noted Eligibility := do
  let card ← cardSupports config driverMajor model capability t
  let supported ← if card then kernelSupports config t else pure false
  let currentlyEnabled := currentlyEnabled config address t
  Noted.info s!"Is RTD3 supported? {yesNo supported}"
  Noted.info s!"Is RTD3 enabled? {yesNo currentlyEnabled}"
  return { supported, currentlyEnabled }

end RuntimePm

end HybridGraphics
