import HybridGraphics.Pci.Attribute
import HybridGraphics.Pci.ConfigSpace
import HybridGraphics.Pci.Connectors
import HybridGraphics.Text.Quoted

/-!
# Scanning the bus

The kernel shows every PCI device as a directory. A scan goes through them in
ascending order of name and judges each by its own files: `identify` keeps a
directory of the display class with a bus address for a name, readable vendor
and model, and a driver other than the ones that reserve a device for a guest.
What is kept is then looked at more closely by `inspect`, up to ten devices.

Directories that do not qualify are reported and left out. Only a directory that
cannot be listed, a malformed attribute or a driver without a name ends the scan.
-/

namespace HybridGraphics.Pci

/-- The devices of this boot, and the power states of the discrete NVIDIA ones. -/
structure Scan where
  devices : List Device := []
  capabilities : List (Address × Capability) := []
  deriving DecidableEq, Repr

inductive ScanError where
  | unreadable (dir : Path) (cause : Fault)
  | malformedAttribute (device : Path)
  | namelessDriver (device : Path)
  deriving DecidableEq, Repr

namespace ScanError

/-- The error and what it was caused by, outermost first. -/
def chain : ScanError → List String
  | unreadable dir cause =>
    ["failed to read the PCI device directory " ++ Text.quote dir.text, cause.message]
  | malformedAttribute device => ["malformed attribute of " ++ Text.quote device.text]
  | namelessDriver device => ["nameless driver of " ++ Text.quote device.text]

end ScanError

/-! ## Judging one directory -/

/-- The class of display controllers. -/
def displayClass : Nat := 0x03

/-- Drivers that reserve a device for a guest instead of the host. -/
def passthroughDrivers : List FileName := ["pci-stub", "pciback"]

namespace Scan

/-- The power states found for an address, none if it was not looked at. -/
def capabilityOf (s : Scan) (a : Address) : Capability :=
  match s.capabilities.find? (·.1 == a) with
  | some (_, capability) => capability
  | none => {}

/-- Exactly `1` and a newline mark the firmware's primary display device. -/
def isBootVga (t : FileTree) (device : Path) : Bool :=
  match t.read (device.child "boot_vga") with
  | .ok content => content == [0x31, 0x0a]
  | .error _ => false

/-- The name of the driver that a device is bound to, if it is bound to one. Only the
root of the tree has no name. -/
def boundDriver (t : FileTree) (device : Path) : Except ScanError (Option FileName) :=
  match t.locate .look (device.child "driver") with
  | .error _ => .ok none
  | .ok place =>
    if (t.find? place).isNone then .ok none
    else
      match place.getLast? with
      | some name => .ok (some name)
      | none => .error (.namelessDriver device)

/-- The vendor and model of a device. Of two errors the vendor's is given, except
that a malformed attribute always is. -/
def readIds (t : FileTree) (device : Path) : Except AttributeError (Vendor × UInt16) :=
  match readAttribute t (device.child "vendor") 0xffff,
      readAttribute t (device.child "device") 0xffff with
  | .ok vendor, .ok model => .ok (UInt16.ofNat vendor, UInt16.ofNat model)
  -- both attributes are read before either is judged
  | .error .malformed, _ => .error .malformed
  | _, .error .malformed => .error .malformed
  | .error cause, _ => .error cause
  | _, .error cause => .error cause

/-- The driver check of a device that is otherwise a candidate. -/
def checkDriver (t : FileTree) (place : Path) (device : Device) :
    Noted (Except ScanError (Option Device)) := do
  match boundDriver t place with
  | .error cause => return .error cause
  | .ok none =>
    Noted.warn "The device is not bound to any driver. Skipping..."
    return .ok none
  | .ok (some driver) =>
    if passthroughDrivers.contains driver then
      Noted.info s!"{device.address} is bound to {driver}. Skipping..."
      return .ok none
    else
      return .ok (some device)

/-- The candidate in a directory of the display class. -/
def identifyDisplay (t : FileTree) (place : Path) (name : FileName) :
    Noted (Except ScanError (Option Device)) := do
  match Address.parse? name.toList with
  | none =>
    Noted.warn s!"{name}: not a PCI bus address"
    return .ok none
  | some address =>
    match readIds t place with
    | .error .malformed => return .error (.malformedAttribute place)
    | .error cause =>
      Noted.warn s!"{address}: unable to read vendor and device ids: {cause.message}"
      return .ok none
    | .ok (vendor, model) =>
      let bootVga := isBootVga t place
      let vendorDigits := String.ofList (Text.hex vendor.toNat)
      let modelDigits := String.ofList (Text.hex model.toNat)
      Noted.info s!"Vendor/Device Id: {vendorDigits}:{modelDigits}"
      Noted.info s!"BusID \"{address.xorg}\""
      Noted.info s!"Is boot vga? {yesNo bootVga}"
      checkDriver t place { vendor, model, address, bootVga }

/-- The display device in a directory entry, if it is one for this system to use. -/
def identify (t : FileTree) (place : Path) (name : FileName) :
    Noted (Except ScanError (Option Device)) := do
  if !t.hasDir place then
    Noted.warn s!"skipping {place.text}: not a device directory"
    return .ok none
  else
    match readAttribute t (place.child "class") 0xffffffff with
    | .error .malformed => return .error (.malformedAttribute place)
    | .error cause =>
      Noted.warn s!"{name}: unable to read class: {cause.message}"
      return .ok none
    | .ok code =>
      -- below the class stand subclass and programming interface, a byte each
      if code / 0x10000 = displayClass then identifyDisplay t place name
      else return .ok none

/-! ## Looking closer at what is kept -/

/-- The power states that configuration space tells of, none if it cannot be read. -/
def readCapability (t : FileTree) (place : Path) (address : Address) : Noted Capability := do
  match ← ConfigSpace.ofFile (place.child "config") t with
  | .ok space =>
    let (capability, _) ← ConfigSpace.powerManagement space
    return capability
  | .error cause =>
    Noted.error s!"{address}: can't read PCI configuration space: {cause.message}"
    return {}

/-- True for the devices whose power states matter. -/
def isDiscreteNvidia (d : Device) : Bool := !d.bootVga && d.vendor == Vendor.nvidia

/-- Adds a device to the scan, with what its directory tells beyond its identity. -/
def inspect (t : FileTree) (place : Path) (s : Scan) (device : Device) : Noted Scan := do
  let capabilities ←
    if isDiscreteNvidia device then do
      let capability ← readCapability t place device.address
      let d3hot := yesNo capability.d3hot
      let d3cold := yesNo capability.d3cold
      Noted.info s!"Does {device.address} support D3hot? {d3hot}. D3cold? {d3cold}"
      pure (s.capabilities ++ [(device.address, capability)])
    else pure s.capabilities
  let outputs ← connectedOutputs place t
  return ⟨s.devices ++ [{ device with outputs }], capabilities⟩

/-! ## The scan -/

/-- Adds the devices in the named entries, in order, as far as there is room. -/
def collect (t : FileTree) (dir : Path) : List FileName → Scan → Noted (Except ScanError Scan)
  | [], s => pure (.ok s)
  | name :: rest, s => do
    let place := dir.child name
    match ← identify t place name with
    | .error cause => return .error cause
    | .ok none => collect t dir rest s
    | .ok (some device) =>
      if s.devices.length = maxDevices then
        Noted.warn s!"too many devices. Max supported {maxDevices}. Ignoring the rest."
        return .ok s
      else
        collect t dir rest (← inspect t place s device)

end Scan

/-- The display devices beneath a directory of PCI devices. -/
def scan (dir : Path) (t : FileTree) : Noted (Except ScanError Scan) :=
  match t.listSorted dir with
  | .error cause => pure (.error (.unreadable dir cause))
  | .ok names => Scan.collect t dir names {}

end HybridGraphics.Pci
