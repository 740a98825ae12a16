import HybridGraphics.Pci.Connectors
import HybridGraphics.Proofs.FileTree.Reordered

/-!
# What the connectors say

Whether a display is attached to a card is asked of all its connectors at once. `Shows` is what
counts as an answer: an entry under a card's own directory, named after the card, with a status that
can be read. Everything else beneath the device is passed over, and that is all that
`mem_connectorStatuses` says of the two loops that look for it.

The answer is then one of three (`connected_outputs_faithful`). It is settled by what is shown and
by nothing else, so that neither the order of the entries nor what lies among them enters it.
-/

namespace HybridGraphics.Pci

variable {t : FileTree} {device : Path}

/-- A connector of the device has a status that can be read, and it is this text. -/
structure Shows (t : FileTree) (device : Path) (card connector : FileName) (status : List Char) :
    Prop where
  cardListed : ∃ names, t.list (device.child "drm") = .ok names ∧ card ∈ names
  cardNamed : "card".toList <+: card.toList
  connectorListed : ∃ names, t.list ((device.child "drm").child card) = .ok names ∧ connector ∈ names
  /-- It is named after the card whose directory it is in. -/
  connectorNamed : card.toList ++ ['-'] <+: connector.toList
  readable :
    t.readText ((((device.child "drm").child card).child connector).child "status") = .ok status

/-- A status says that a display is attached. -/
def SaysConnected (status : List Char) : Prop := Text.trim status = "connected".toList

/-- The names in a directory are those listed, and there are none where nothing can be listed. -/
theorem mem_namesIn {p : Path} {name : FileName} :
    name ∈ namesIn t p ↔ ∃ names, t.list p = .ok names ∧ name ∈ names := by
  unfold namesIn
  cases t.list p with
  | ok names => simp [Except.toOption]
  | error cause => simp [Except.toOption]

/-- The statuses that are collected are the ones that are shown, without the blanks around them. -/
theorem mem_connectorStatuses {place : Path} {trimmed : List Char} :
    (place, trimmed) ∈ connectorStatuses t device ↔
      ∃ card connector status, Shows t device card connector status ∧
        place = ((device.child "drm").child card).child connector ∧ trimmed = Text.trim status := by
  unfold connectorStatuses
  simp only [List.mem_flatMap, List.mem_filterMap, List.mem_filter, mem_namesIn,
    List.isPrefixOf_iff_prefix]
  constructor
  · rintro ⟨card, ⟨hcard, hcardNamed⟩, connector, ⟨hconnector, hnamed⟩, hstatus⟩
    split at hstatus
    next status hread =>
      cases hstatus
      exact ⟨card, connector, status, ⟨hcard, hcardNamed, hconnector, hnamed, hread⟩, rfl, rfl⟩
    next => cases hstatus
  · rintro ⟨card, connector, status, hshows, rfl, rfl⟩
    refine ⟨card, ⟨hshows.cardListed, hshows.cardNamed⟩, connector,
      ⟨hshows.connectorListed, hshows.connectorNamed⟩, ?_⟩
    rw [hshows.readable]

/-- The answer is one of three, by what was collected. -/
theorem value_connectedOutputs :
    (connectedOutputs device t).value =
      if ∃ found ∈ connectorStatuses t device, found.2 = "connected".toList then .connected
      else if connectorStatuses t device = [] then .unknown
      else .disconnected := by
  unfold connectedOutputs
  simp only
  split
  next place trimmed hfind =>
    have hsays := List.find?_some hfind
    rw [if_pos ⟨_, List.mem_of_find?_eq_some hfind, beq_iff_eq.mp hsays⟩]
    rfl
  next hfind =>
    have hnone : ¬ ∃ found ∈ connectorStatuses t device, found.2 = "connected".toList :=
      fun ⟨found, hmem, hsays⟩ => List.find?_eq_none.mp hfind found hmem (beq_iff_eq.mpr hsays)
    rw [if_neg hnone, Noted.value_pure]
    simp only [List.isEmpty_iff]

/-- A display is attached if one of the statuses says so. -/
theorem connectedOutputs_eq_connected_iff :
    (connectedOutputs device t).value = .connected ↔
      ∃ card connector status, Shows t device card connector status ∧ SaysConnected status := by
  have hcollected : (∃ found ∈ connectorStatuses t device, found.2 = "connected".toList) ↔
      ∃ card connector status, Shows t device card connector status ∧ SaysConnected status := by
    constructor
    · rintro ⟨⟨place, trimmed⟩, hmem, hsays⟩
      obtain ⟨card, connector, status, hshows, -, htrim⟩ := mem_connectorStatuses.mp hmem
      exact ⟨card, connector, status, hshows, htrim.symm.trans hsays⟩
    · rintro ⟨card, connector, status, hshows, hsays⟩
      exact ⟨_, mem_connectorStatuses.mpr ⟨card, connector, status, hshows, rfl, rfl⟩, hsays⟩
  rw [← hcollected, value_connectedOutputs]
  split
  next h => exact iff_of_true rfl h
  next h => exact iff_of_false (by split <;> simp) h

/-- Nothing is known of a device that shows no status. -/
theorem connectedOutputs_eq_unknown_iff :
    (connectedOutputs device t).value = .unknown ↔
      ∀ card connector status, ¬ Shows t device card connector status := by
  have hcollected : connectorStatuses t device = [] ↔
      ∀ card connector status, ¬ Shows t device card connector status := by
    rw [List.eq_nil_iff_forall_not_mem]
    constructor
    · exact fun h card connector status hshows =>
        h _ (mem_connectorStatuses.mpr ⟨card, connector, status, hshows, rfl, rfl⟩)
    · rintro h ⟨place, trimmed⟩ hmem
      obtain ⟨card, connector, status, hshows, -, -⟩ := mem_connectorStatuses.mp hmem
      exact h card connector status hshows
  rw [← hcollected, value_connectedOutputs]
  split
  next h =>
    obtain ⟨found, hmem, -⟩ := h
    exact iff_of_false (by simp) (List.ne_nil_of_mem hmem)
  next => split <;> simp_all

/-- The answer depends on nothing but what is shown. -/
theorem connectedOutputs_congr {t' : FileTree} {device' : Path}
    (h : ∀ card connector status,
      Shows t' device' card connector status ↔ Shows t device card connector status) :
    (connectedOutputs device' t').value = (connectedOutputs device t).value := by
  have hconnected : (connectedOutputs device' t').value = .connected ↔
      (connectedOutputs device t).value = .connected := by
    rw [connectedOutputs_eq_connected_iff, connectedOutputs_eq_connected_iff]
    simp only [h]
  have hunknown : (connectedOutputs device' t').value = .unknown ↔
      (connectedOutputs device t).value = .unknown := by
    rw [connectedOutputs_eq_unknown_iff, connectedOutputs_eq_unknown_iff]
    simp only [h]
  generalize (connectedOutputs device' t').value = answer' at hconnected hunknown ⊢
  generalize (connectedOutputs device t).value = answer at hconnected hunknown ⊢
  cases answer <;> cases answer' <;> simp at hconnected hunknown ⊢

/-- What a connector shows does not depend on the order in which directories are listed. -/
theorem Shows.reordered {t' : FileTree} (h : FileTree.Reordered t t') {card connector : FileName}
    {status : List Char} (hshows : Shows t device card connector status) :
    Shows t' device card connector status := by
  have hlisted : ∀ {p : Path} {name : FileName}, (∃ names, t.list p = .ok names ∧ name ∈ names) →
      ∃ names, t'.list p = .ok names ∧ name ∈ names := by
    rintro p name ⟨names, hlist, hname⟩
    obtain ⟨names', hlist', hperm⟩ := FileTree.list_reordered h hlist
    exact ⟨names', hlist', hperm.mem_iff.mp hname⟩
  exact ⟨hlisted hshows.cardListed, hshows.cardNamed, hlisted hshows.connectorListed,
    hshows.connectorNamed, (FileTree.readText_reordered h _).trans hshows.readable⟩

/-- A display is attached if a connector shows that it is, none is if there are connectors that show
something and none of them does, and otherwise nothing is known. In whatever order directories are
listed the answer is the same, and so it is whatever else lies beneath the device. -/
theorem connected_outputs_faithful (t : FileTree) (device : Path) :
    ((connectedOutputs device t).value = .connected ↔
      ∃ card connector status, Shows t device card connector status ∧ SaysConnected status) ∧
    ((connectedOutputs device t).value = .disconnected ↔
      (∃ card connector status, Shows t device card connector status) ∧
        ∀ card connector status, Shows t device card connector status → ¬ SaysConnected status) ∧
    ((connectedOutputs device t).value = .unknown ↔
      ∀ card connector status, ¬ Shows t device card connector status) ∧
    (∀ t', FileTree.Reordered t t' →
      (connectedOutputs device t').value = (connectedOutputs device t).value) ∧
    ∀ t' device', (∀ card connector status,
        Shows t' device' card connector status ↔ Shows t device card connector status) →
      (connectedOutputs device' t').value = (connectedOutputs device t).value := by
  refine ⟨connectedOutputs_eq_connected_iff, ?disconnected, connectedOutputs_eq_unknown_iff,
    fun t' h => ?reordered, fun t' device' h => connectedOutputs_congr h⟩
  case disconnected =>
    have hthree : (connectedOutputs device t).value = .disconnected ↔
        (connectedOutputs device t).value ≠ .unknown ∧
          (connectedOutputs device t).value ≠ .connected := by
      cases (connectedOutputs device t).value <;> simp
    rw [hthree, Ne, Ne, connectedOutputs_eq_unknown_iff, connectedOutputs_eq_connected_iff]
    simp only [Classical.not_forall, Classical.not_not, not_exists, not_and]
  case reordered =>
    exact connectedOutputs_congr fun _ _ _ => ⟨Shows.reordered h.symm, Shows.reordered h⟩

end HybridGraphics.Pci
