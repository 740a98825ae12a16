import HybridGraphics.Config
import HybridGraphics.KernelModule.Listing
import HybridGraphics.Pci.Device

/-!
# Marks of earlier boots

Earlier in the boot, marks are left in the detection directory: an empty file
for every driver that was seen loaded, and one for every discrete card, named
for its address, vendor and model. A card that has since been powered off and
left the bus is known by its mark alone.
-/

namespace HybridGraphics.KernelModule

open Pci (Device Address Vendor)

/-! ## Drivers -/

/-- The mark of a driver that was seen loaded. -/
def loadedMark (config : Config) (name : String) : Path :=
  config.detectionDir.below (Path.components ("u-d-c-" ++ name ++ "-was-loaded"))

variable {σ : Type}

/-- True if a driver was seen loaded and no longer is. -/
def wasUnloaded (config : Config) (actions : Actions σ) (name : String) : Act σ Bool := do
  let unloaded ←
    if (← get).tree.has (loadedMark config name) then
      pure !(← isLoaded actions name)
    else pure false
  Act.info s!"Was {name} unloaded? {yesNo unloaded}"
  return unloaded

/-! ## Cards -/

/-- How the mark of a card begins. -/
def cardMarkStart : List Char := "u-d-c-gpu-".toList

/-- The mark of a card. -/
def cardMark (address : Address) (vendor : Vendor) (model : UInt16) : FileName :=
  String.ofList (cardMarkStart ++ address.chars ++ "-0x".toList
    ++ Text.hexPadded 4 vendor.toNat ++ "-0x".toList ++ Text.hexPadded 4 model.toNat)

/-- A hexadecimal number after its base mark. -/
def readMarkedHex? : List Char → Option UInt16
  | '0' :: 'x' :: digits => Text.readHex16? digits
  | _ => none

/-- The card that a mark stands for. The address is all that precedes the last two dashes. -/
def parseCardMark? (name : FileName) : Option Device := do
  let rest ← if cardMarkStart.isPrefixOf name.toList then
    some (name.toList.drop cardMarkStart.length) else none
  -- the fields are cut off from the end, read backwards
  let (model, rest) ← Text.splitAtFirst '-' rest.reverse
  let (vendor, address) ← Text.splitAtFirst '-' rest
  let model ← readMarkedHex? model.reverse
  let vendor ← readMarkedHex? vendor.reverse
  let address ← Address.parse? address.reverse
  some { vendor, model, address }

/-- The card of a vendor whose mark comes first in ascending order of name. -/
def residualCard (config : Config) (vendor : Vendor) (t : FileTree) : Option Device :=
  match t.listSorted config.detectionDir with
  | .ok names => (names.filterMap parseCardMark?).find? (·.vendor == vendor)
  | .error _ => none

end HybridGraphics.KernelModule
