import HybridGraphics.Pci.Device
import HybridGraphics.World

/-!
# Connectors

Whether a display is attached to a card is read from the `status` files beneath
`drm/cardN/cardN-*` in its device directory. `connectorStatuses` collects the
ones that can be read; the answer is a matter of whether any of them says
`connected` and whether there is one at all, so it does not depend on the order
in which the directories are listed.
-/

namespace HybridGraphics.Pci

/-- The names in a directory, none if it cannot be listed. -/
def namesIn (t : FileTree) (p : Path) : List FileName := (t.list p).toOption.getD []

/-- The connectors of a device whose status can be read, with their status. -/
def connectorStatuses (t : FileTree) (device : Path) : List (Path × List Char) :=
  let drm := device.child "drm"
  ((namesIn t drm).filter ("card".toList.isPrefixOf ·.toList)).flatMap fun card =>
    let own := (namesIn t (drm.child card)).filter ((card.toList ++ ['-']).isPrefixOf ·.toList)
    own.filterMap fun connector =>
      let place := (drm.child card).child connector
      match t.readText (place.child "status") with
      | .ok status => some (place, Text.trim status)
      | .error _ => none

/-- Whether a display is attached to any connector of a device. -/
def connectedOutputs (device : Path) (t : FileTree) : Noted Outputs :=
  let statuses := connectorStatuses t device
  match statuses.find? (·.2 == "connected".toList) with
  | some (place, _) => do
    Noted.debug s!"{place.text} is connected"
    return .connected
  | none => return if statuses.isEmpty then .unknown else .disconnected

end HybridGraphics.Pci
