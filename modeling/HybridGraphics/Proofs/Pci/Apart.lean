import HybridGraphics.Proofs.FileTree.Changes
import HybridGraphics.Proofs.Fragment.Recognised
import HybridGraphics.Proofs.Run.Readings
import HybridGraphics.RuntimePm.Control

/-!
# Devices apart by their addresses

An address is the identity of a device, and what is kept for a device is kept under a rendering of
its address: the attribute that controls its power and the file in which the driver tells of it under
the one that names directories, the fragment generated for it under the one of the X server. Both
renderings can be told apart as well as the addresses themselves
(`HybridGraphics.Proofs.Pci.Address`), so nothing that is kept for one device is ever taken for
another's (`address_tells_devices_apart`).
-/

namespace HybridGraphics.Pci

open RuntimePm (controlFile powerFile)

variable {config : Config}

/-- Addresses with the same text are the same. -/
theorem Address.text_inj {a b : Address} : a.text = b.text ↔ a = b := Address.text_injective.eq_iff

/-- So are addresses that the display server is told of in the same way. -/
theorem Address.xorg_inj {a b : Address} : a.xorg = b.xorg ↔ a = b := by
  unfold xorg
  rw [String.ofList_inj, xorgChars_injective.eq_iff]

/-- Devices in different places have different attributes of power control. -/
theorem controlFile_text_inj {d d' : Device} :
    (controlFile config d).text = (controlFile config d').text ↔ d.address = d'.address := by
  unfold controlFile
  rw [Path.text_below_inj, Address.text_inj]

/-- The driver tells of the power of cards in different places in different files. -/
theorem powerFile_text_inj {a b : Address} :
    (powerFile config a).text = (powerFile config b).text ↔ a = b := by
  have hbelow : ∀ a, powerFile config a = config.driverCards.below [a.text, "power"] := by
    intro a
    simp [powerFile, Path.child, Path.below]
  rw [hbelow, hbelow, Path.text_below_inj, Address.text_inj]

/-- What is looked up for a device is told by the entries of its own address alone: it is in the first of
these. -/
theorem capabilityOf_eq (s : Scan) (a : Address) :
    s.capabilityOf a =
      ((s.capabilities.filter (·.1 == a)).head?.map Prod.snd).getD {} := by
  unfold Scan.capabilityOf
  rw [List.head?_filter]
  cases s.capabilities.find? (·.1 == a) with
  | none => rfl
  | some entry => rfl

/-- The text of an address reads back, blanks around it or not, and addresses are told apart by either
of their renderings. So are the devices: by the paths of their power control and of their power state,
by what a scan has found for them, and by the fragments generated for them. -/
theorem address_tells_devices_apart :
    (∀ (a : Address) (before after : List Char), (∀ c ∈ before, Text.isBlank c = true) →
      (∀ c ∈ after, Text.isBlank c = true) →
        Address.parse? (before ++ a.text.toList ++ after) = some a) ∧
    (∀ a b : Address, (a.text = b.text ↔ a.xorg = b.xorg) ∧ (a.xorg = b.xorg ↔ a = b)) ∧
    (∀ (config : Config) (d d' : Device),
      (controlFile config d).text = (controlFile config d').text ↔ d.address = d'.address) ∧
    (∀ (config : Config) (a b : Address),
      (powerFile config a).text = (powerFile config b).text ↔ a = b) ∧
    (∀ (s : Scan) (a : Address), s.capabilityOf a =
      ((s.capabilities.filter (·.1 == a)).head?.map Prod.snd).getD {}) ∧
    (∀ (triplet triplet' : String) (d d' : Device),
      Fragment.outputClassText triplet d = Fragment.outputClassText triplet' d' →
        d.address = d'.address) := by
  refine ⟨fun a before after hbefore hafter => ?read, fun a b => ⟨?forms, Address.xorg_inj⟩,
    fun config d d' => controlFile_text_inj, fun config a b => powerFile_text_inj,
    capabilityOf_eq, fun triplet triplet' d d' h => (Fragment.outputClassText_inj.mp h).2.2.2⟩
  case read => rw [Address.parse?_surrounded hbefore hafter, Address.parse?_text]
  case forms => rw [Address.text_inj, Address.xorg_inj]

end HybridGraphics.Pci
