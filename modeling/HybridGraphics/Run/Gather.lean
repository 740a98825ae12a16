import HybridGraphics.Decision.Situation
import HybridGraphics.KernelModule.Blacklist
import HybridGraphics.KernelModule.Mark
import HybridGraphics.Run.Error

/-!
# Gathering the situation

`gather` reads everything a decision depends on: the cards, the snapshot of the
last boot, the drivers, the operator's policy, the fragments on disk. On the way
it records the cards of this boot, which is the only change it makes; whatever
can end a run early comes before that or is that.

The card that runtime power management and the fragments are about is the first
NVIDIA card that is not the firmware's primary one, of those on the bus and then
of the one known by its mark.
-/

namespace HybridGraphics.Run

open Pci (Device Vendor Scan)

variable {σ : Type}

/-! ## The cards -/

/-- The cards from a listing in the format of a snapshot. -/
def readListing (file : Path) (t : FileTree) : Noted (Except Error Scan) := do
  match t.read file with
  | .error cause => return .error (.listing file cause)
  | .ok content =>
    match ← Snapshot.parse content with
    | .error cause => return .error (.listing file cause)
    | .ok devices => return .ok { devices }

/-- The cards of this boot. -/
def findDevices (config : Config) (t : FileTree) : Noted (Except Error Scan) := do
  match config.deviceListing with
  | some file => readListing file t
  | none => return (← Pci.scan config.pciDevices t).mapError .scan

def hasVendor (vendor : Vendor) (devices : List Device) : Bool :=
  devices.any (·.vendor == vendor)

/-- Says which vendors' cards there are. -/
def reportDevices (devices : List Device) : Act σ Unit := do
  if devices.length = 1 then Act.info "Single card detected"
  Act.info s!"Has amd? {yesNo (hasVendor Vendor.amd devices)}"
  Act.info s!"Has intel? {yesNo (hasVendor Vendor.intel devices)}"
  Act.info s!"Has nvidia? {yesNo (hasVendor Vendor.nvidia devices)}"

/-! ## What boots leave for each other -/

/-- True if the firmware's primary card has a display, unless the configuration says otherwise. -/
def needsOffloading (config : Config) (devices : List Device) : Bool :=
  match config.requiresOffloading with
  | some given => given
  | none =>
    match devices.find? (·.bootVga) with
    | some boot => boot.outputs == .connected
    | none => false

/-- True if the last run left the offloading marker. -/
def neededOffloading (config : Config) (t : FileTree) : Bool :=
  match Probe.firstLine config.offloadingMarker t with
  | some marker => Text.lowerAscii marker == "on".toList
  | none => false

/-- The cards of the last boot; those of this boot take their place. -/
def recordDevices (config : Config) (devices : List Device) :
    Act σ (Except Snapshot.Error (List Device × Snapshot.Status)) := do
  match ← Snapshot.load config.lastSnapshot with
  | .error cause => return .error cause
  | .ok last =>
    match ← Snapshot.save config.newSnapshot devices with
    | .error cause => return .error cause
    | .ok () => return .ok last

/-! ## The drivers -/

/-- Whether a module is loaded, said in the report. -/
def reportLoaded (actions : Actions σ) (name : String) : Act σ Bool := do
  let loaded ← KernelModule.isLoaded actions name
  Act.info s!"Is {name} loaded? {yesNo loaded}"
  return loaded

/-- The states of the graphics drivers. -/
def driverStates (config : Config) (actions : Actions σ) (devices : List Device) :
    Act σ DriverStates := do
  let nvidiaLoaded ← reportLoaded actions "nvidia"
  let nouveauLoaded ← reportLoaded actions "nouveau"
  let amdgpuLoaded ← reportLoaded actions "amdgpu"
  let radeonLoaded ← reportLoaded actions "radeon"
  let nvidiaUnloaded ← KernelModule.wasUnloaded config actions "nvidia"
  let amdgpuUnloaded ← KernelModule.wasUnloaded config actions "amdgpu"
  let nvidiaBlacklisted ← Act.look (KernelModule.isBlacklisted config "nvidia")
  Act.info s!"Is nvidia blacklisted? {yesNo nvidiaBlacklisted}"
  let nvidiaAvailable ← if nvidiaLoaded then pure true else actions.moduleAvailable "nvidia"
  Act.info s!"Is nvidia available? {yesNo nvidiaAvailable}"
  let amdgpuVersioned ←
    if amdgpuLoaded || hasVendor Vendor.amd devices then actions.moduleVersioned "amdgpu"
    else pure false
  Act.info s!"Is amdgpu versioned? {yesNo amdgpuVersioned}"
  return { nvidiaLoaded, nvidiaUnloaded, nvidiaBlacklisted, nvidiaAvailable, nouveauLoaded,
           amdgpuLoaded, amdgpuUnloaded, amdgpuVersioned, radeonLoaded }

/-- The series of the NVIDIA driver: its version up to the first dot. -/
def driverMajor (config : Config) (t : FileTree) : Option Nat := do
  let version ← Probe.firstLine config.driverVersion t
  let major ← (Text.pieces (· == '.') version).head?
  Text.readDecimal32? major

/-! ## The situation -/

/-- The card that PRIME is about. -/
def discreteCard (devices : List Device) (residual : Option Device) : Option Device :=
  (devices ++ residual.toList).find? fun d => d.vendor == Vendor.nvidia && !d.bootVga

/-- What the tree says once the cards and drivers are known. -/
def situationOf (config : Config) (triplet : String) (scan : Scan)
    (last : List Device × Snapshot.Status) (offloadingWasRequired : Bool)
    (drivers : DriverStates) (t : FileTree) : Noted Situation := do
  let policy ← Policy.read config.policyFile t
  let driverMajor := driverMajor config t
  match driverMajor with
  | some major => Noted.info s!"NVIDIA driver series {major}"
  | none => pure ()
  let residualDiscrete :=
    if scan.devices.length = 1 then KernelModule.residualCard config Vendor.nvidia t else none
  let discrete := discreteCard scan.devices residualDiscrete
  let eligibility ← match discrete with
    | some d =>
      RuntimePm.resolve config driverMajor d.address d.model (scan.capabilityOf d.address) t
    | none => pure {}
  let outputClass ← Fragment.outputClassState config triplet discrete t
  let serverLayout ← Fragment.serverLayoutState config t
  return {
    devices := scan.devices
    hasChanged := Snapshot.differs last.1 scan.devices
    firstBoot := last.2 == .created
    lastBootHadIntel := hasVendor Vendor.intel last.1
    requiresOffloading := needsOffloading config scan.devices
    offloadingWasRequired, policy, driverMajor, drivers, outputClass, serverLayout, eligibility
    residualDiscrete
    pxScriptAvailable := t.has config.pxScript }

/-- Reads the situation, given the cards. -/
def gatherFor (config : Config) (actions : Actions σ) (triplet : String) (scan : Scan) :
    Act σ (Except Error Situation) := do
  let devices := scan.devices
  reportDevices devices
  Act.info s!"Does it require offloading? {yesNo (needsOffloading config devices)}"
  let offloadingWasRequired := neededOffloading config (← get).tree
  -- the last boot's cards are read before this boot's take their place
  match ← recordDevices config devices with
  | .error cause => return .error (.snapshot cause)
  | .ok last =>
    Act.info s!"Has the system changed? {yesNo (Snapshot.differs last.1 devices)}"
    if last.2 == .created then Act.info "First boot with this device snapshot"
    let drivers ← driverStates config actions devices
    return .ok (← Act.look
      (situationOf config triplet scan last offloadingWasRequired drivers))

/-- Reads the situation, and records the cards of this boot. -/
def gather (config : Config) (actions : Actions σ) (triplet : String) :
    Act σ (Except Error Situation) := do
  match ← Act.look (findDevices config) with
  | .error cause => return .error cause
  | .ok scan => gatherFor config actions triplet scan

end HybridGraphics.Run
