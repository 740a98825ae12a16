import HybridGraphics.Text.Blank
import HybridGraphics.Text.Numeral

/-!
# PCI bus addresses

An address is what tells one device from another, within a boot and across
boots. It is read in the form the kernel names device directories by,
`dddd:bb:ss.f`, and written in that form and in the one the X server's
configuration takes, `PCI:bus@domain:slot:func` with decimal numbers.
-/

namespace HybridGraphics.Pci

structure Address where
  domain : UInt16
  bus : UInt8
  slot : UInt8
  func : UInt8
  deriving DecidableEq, Repr, Inhabited

namespace Address

/-- The numbers of an address, in the order they are written. -/
def ofFields? (domain bus slot func : List Char) : Option Address := do
  let domain ← Text.readHex16? domain
  let bus ← Text.readHex8? bus
  let slot ← Text.readHex8? slot
  let func ← Text.readHex8? func
  some { domain, bus, slot, func }

/-- Reads `dddd:bb:ss.f`, with blanks around it allowed. -/
def parse? (text : List Char) : Option Address := do
  let (domain, rest) ← Text.splitAtFirst ':' (Text.trim text)
  let (bus, rest) ← Text.splitAtFirst ':' rest
  let (slot, func) ← Text.splitAtFirst '.' rest
  ofFields? domain bus slot func

def chars (a : Address) : List Char :=
  Text.hexPadded 4 a.domain.toNat ++ ':' :: Text.hexPadded 2 a.bus.toNat
    ++ ':' :: Text.hexPadded 2 a.slot.toNat ++ '.' :: Text.hex a.func.toNat

/-- The form that names a device directory. -/
def text (a : Address) : String := String.ofList a.chars

def xorgChars (a : Address) : List Char :=
  "PCI:".toList ++ Text.decimal a.bus.toNat ++ '@' :: Text.decimal a.domain.toNat
    ++ ':' :: Text.decimal a.slot.toNat ++ ':' :: Text.decimal a.func.toNat

/-- The form of the X server's configuration. -/
def xorg (a : Address) : String := String.ofList a.xorgChars

instance : ToString Address := ⟨text⟩

end Address

end HybridGraphics.Pci
