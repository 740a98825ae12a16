import HybridGraphics.Actions
import HybridGraphics.Config
import HybridGraphics.RuntimePm.Eligibility
import HybridGraphics.Text.Quoted

/-!
# Switching runtime power management

A card's `power/control` attribute lets the kernel power it down (`auto`) or
keeps it on (`on`). Switching on also installs an option for the driver, if the
card is eligible and the driver has it off; switching off removes that option.
A card that has left the bus has no attribute to write.
-/

namespace HybridGraphics.RuntimePm

open Pci (Device)

inductive Error where
  | control (file : Path) (cause : Fault)
  | snippet (file : Path) (cause : Fault)
  deriving DecidableEq, Repr

namespace Error

/-- The error and what it was caused by, outermost first. -/
def chain : Error → List String
  | control file cause =>
    ["failed to set runtime power control at " ++ Text.quote file.text, cause.message]
  | snippet file cause =>
    ["failed to update the runtime PM modprobe snippet at " ++ Text.quote file.text,
      cause.message]

end Error

/-! ## What is written where -/

/-- The option that turns the driver's dynamic power management on. -/
def driverOption : String := "options nvidia \"NVreg_DynamicPowerManagement=0x02\"\n"

/-- The attribute that controls a card's power. -/
def controlFile (config : Config) (device : Device) : Path :=
  config.pciDevices.below [device.address.text, "power", "control"]

/-- What the attribute is set to. -/
def controlValue (enabled : Bool) : String := if enabled then "auto\n" else "on\n"

variable {σ : Type}

/-! ## Switching -/

/-- Sets the attribute of a card that is on the bus. -/
def setControl (config : Config) (actions : Actions σ) (device : Device) (enabled onBus : Bool) :
    Act σ (Except Error Unit) := do
  let file := controlFile config device
  if onBus then
    match ← actions.writeAttribute file (controlValue enabled) with
    | .ok () => return .ok ()
    | .error cause => return .error (.control file cause)
  else
    Act.info s!"{device.address} is not on the bus. Leaving {file.text} alone"
    return .ok ()

/-- Installs the driver's option. -/
def installOption (config : Config) : Act σ (Except Error Unit) := do
  let file := config.runtimePmSnippet
  Act.info s!"Enabling dynamic power management in {file.text}"
  match ← Act.writeText file driverOption.toList with
  | .ok () => return .ok ()
  | .error cause => return .error (.snippet file cause)

/-- Removes the driver's option. -/
def removeOption (config : Config) : Act σ (Except Error Unit) := do
  let file := config.runtimePmSnippet
  match ← Act.removeFile file with
  | .ok true =>
    Act.info s!"Removed {file.text}"
    return .ok ()
  | .ok false => return .ok ()
  | .error cause => return .error (.snippet file cause)

/-- Installs or removes the driver's option, as far as that is called for. -/
def setOption (config : Config) (enabled : Bool) (eligibility : Eligibility) :
    Act σ (Except Error Unit) :=
  if enabled then
    if eligibility.supported && !eligibility.currentlyEnabled then installOption config
    else return .ok ()
  else removeOption config

/-- Switches runtime power management of a card on or off. -/
def setRuntimePm (config : Config) (actions : Actions σ) (device : Device) (enabled : Bool)
    (eligibility : Eligibility) (onBus : Bool) : Act σ (Except Error Unit) := do
  match ← setControl config actions device enabled onBus with
  | .error cause => return .error cause
  | .ok () => setOption config enabled eligibility

end HybridGraphics.RuntimePm
