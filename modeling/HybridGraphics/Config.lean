import HybridGraphics.FileTree.Path

/-!
# Configuration

Every path and switch a run consults, fixed before it starts. `Config.standard`
is the installed system. `Config.rootedAt` puts each file directly beneath one
directory instead, so that a whole machine can be laid out there and a run
rehearsed without touching anything else. The optional fields stand in for an
answer that would otherwise be looked up.
-/

namespace HybridGraphics

structure Config where
  /-- Reports what would be done to the system instead of doing it. -/
  dryRun : Bool := false
  /-- The snapshot of the last boot. -/
  lastSnapshot : Path
  /-- Where the snapshot of this boot goes, usually the same file. -/
  newSnapshot : Path
  offloadingMarker : Path
  /-- A snapshot to take the devices from, instead of scanning the bus. -/
  deviceListing : Option Path := none
  requiresOffloading : Option Bool := none
  moduleAvailable : Option Bool := none
  /-- Takes every module to carry a version. -/
  moduleVersioned : Bool := false
  architecture : Option String := none
  /-- The kernel's table of loaded modules. -/
  moduleTable : Path
  modprobeDirs : List Path
  /-- Holds the marks an earlier boot left about drivers and cards. -/
  detectionDir : Path
  policyFile : Path
  driverVersion : Path
  outputClassDir : Path
  serverLayoutDir : Path
  runtimePmSnippet : Path
  runtimePmOverride : Path
  /-- Holds a directory of documentation for each driver series. -/
  driverDocs : Path
  /-- Holds a directory for each card the driver runs. -/
  driverCards : Path
  chassisType : Path
  kernelRelease : Path
  pciDevices : Path
  eventQueue : Path
  kernelCommandLine : Path
  pxScript : Path
  /-- Display servers that may hold on to the driver, in the order they are looked for. -/
  displayServers : List String
  /-- The account that the login screen's display server runs as. -/
  sessionUser : String
  deriving DecidableEq, Repr

namespace Config

/-- The installed system. -/
def standard : Config :=
  let place (names : List FileName) : Path := { base := "/", names }
  { lastSnapshot := place ["var", "lib", "pop-gpu-manager", "last_gfx_boot"]
    newSnapshot := place ["var", "lib", "pop-gpu-manager", "last_gfx_boot"]
    offloadingMarker := place ["var", "lib", "pop-gpu-manager", "requires_offloading"]
    moduleTable := place ["proc", "modules"]
    modprobeDirs := [place ["etc", "modprobe.d"], place ["lib", "modprobe.d"]]
    detectionDir := place ["run"]
    policyFile := place ["etc", "prime-discrete"]
    driverVersion := place ["sys", "module", "nvidia", "version"]
    outputClassDir := place ["usr", "share", "X11", "xorg.conf.d"]
    serverLayoutDir := place ["etc", "X11", "xorg.conf.d"]
    runtimePmSnippet := place ["lib", "modprobe.d", "nvidia-runtimepm.conf"]
    runtimePmOverride := place ["etc", "u-d-c-nvidia-runtimepm-override"]
    driverDocs := place ["usr", "share", "doc"]
    driverCards := place ["proc", "driver", "nvidia", "gpus"]
    chassisType := place ["sys", "devices", "virtual", "dmi", "id", "chassis_type"]
    kernelRelease := place ["proc", "sys", "kernel", "osrelease"]
    pciDevices := place ["sys", "bus", "pci", "devices"]
    eventQueue := place ["run", "udev", "queue"]
    kernelCommandLine := place ["proc", "cmdline"]
    pxScript := place ["opt", "amdgpu-pro", "bin", "amdgpu-pro-px"]
    displayServers := ["Xorg", "Xwayland"]
    sessionUser := "gdm" }

/-- Every file directly beneath one directory. -/
def rootedAt (root : String) : Config :=
  let place (name : FileName) : Path := { base := root, names := [name] }
  { lastSnapshot := place "last_gfx_boot"
    newSnapshot := place "last_gfx_boot"
    offloadingMarker := place "requires_offloading"
    architecture := some "amd64"
    moduleTable := place "modules"
    modprobeDirs := [place "modprobe.d"]
    detectionDir := place "run"
    policyFile := place "prime-discrete"
    driverVersion := place "nvidia-version"
    outputClassDir := place "xorg.conf.d"
    serverLayoutDir := place "etc-xorg.conf.d"
    runtimePmSnippet := place "nvidia-runtimepm.conf"
    runtimePmOverride := place "runtimepm-override"
    driverDocs := place "doc"
    driverCards := place "nvidia-gpus"
    chassisType := place "chassis_type"
    kernelRelease := place "osrelease"
    pciDevices := place "pci-devices"
    eventQueue := place "udev-queue"
    kernelCommandLine := place "cmdline"
    pxScript := place "amdgpu-pro-px"
    displayServers := ["Xorg"]
    sessionUser := "gdm" }

end Config

end HybridGraphics
