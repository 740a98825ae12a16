import HybridGraphics.Pci.Address

/-!
# Display devices

What a run knows of a graphics card, and which of it makes two sightings the
same card in the same place: everything but its connectors, since a monitor that
is plugged in does not change the hardware.
-/

namespace HybridGraphics.Pci

/-- A vendor's number on the PCI bus. -/
abbrev Vendor := UInt16

namespace Vendor

def amd : Vendor := 0x1002

def intel : Vendor := 0x8086

def nvidia : Vendor := 0x10de

end Vendor

/-- Whether any connector of a card has a display attached. -/
inductive Outputs where
  | unknown
  | disconnected
  | connected
  deriving DecidableEq, Repr, Inhabited

/-- A display-class device as one boot sees it. -/
structure Device where
  vendor : Vendor := 0
  model : UInt16 := 0
  address : Address := default
  /-- The firmware's primary display device. -/
  bootVga : Bool := false
  outputs : Outputs := .unknown
  deriving DecidableEq, Repr, Inhabited

namespace Device

/-- True for two sightings of one card in one place and role. -/
def sameIdentity (a b : Device) : Bool :=
  a.bootVga == b.bootVga && a.vendor == b.vendor && a.model == b.model && a.address == b.address

theorem sameIdentity_iff (a b : Device) :
    a.sameIdentity b = true ↔
      { a with outputs := .unknown } = { b with outputs := .unknown } := by
  cases a
  cases b
  simp [sameIdentity]
  grind

end Device

/-- How many devices one boot takes into account. -/
def maxDevices : Nat := 10

end HybridGraphics.Pci
