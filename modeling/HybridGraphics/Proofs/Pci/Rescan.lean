import Mathlib.Data.List.Basic
import HybridGraphics.Pci.Scan
import HybridGraphics.Proofs.FileTree.Unmoved

/-!
# Scanning the bus again

A device is judged by its own directory, and by the driver that it is bound to, which is
told by a link that leads elsewhere. `SameDevice` says that two trees agree on these, and
then they show the same device (`identify_same`, `inspect_same`).

So two trees that agree on the directory of all devices show the same cards, with the same
power states and the same displays (`sameAnswer_scan`). The report may differ, since a file
that cannot be read may be refused for another cause.

The one way out of the directory would be an entry by the name that leads up, which no
machine lists; the lemmas ask for that.
-/

namespace HybridGraphics.Pci

open FileTree (SameBelow Unmoved)

variable {t t' : FileTree} {place : Path}

/-! ## One device -/

/-- The trees agree on the device in a directory. -/
structure SameDevice (place : Path) (t t' : FileTree) : Prop where
  own : SameBelow place t t'
  driver : Scan.boundDriver t' place = Scan.boundDriver t place

/-- An attribute reads alike, and is malformed in both trees or in neither. -/
theorem readAttribute_same {p : Path} (h : SameBelow p t t') (limit : Nat) :
    SameAnswer (readAttribute t p limit) (readAttribute t' p limit) ∧
      (readAttribute t p limit = .error .malformed ↔
        readAttribute t' p limit = .error .malformed) := by
  have ht := h.readText
  unfold readAttribute
  generalize t.readText p = x at ht ⊢
  generalize t'.readText p = y at ht ⊢
  cases ht with
  | ok text => exact ⟨.refl _, Iff.rfl⟩
  | error cause cause' => exact ⟨.error _ _, by simp⟩

theorem isBootVga_same (h : SameBelow place t t') :
    Scan.isBootVga t' place = Scan.isBootVga t place := by
  have hr := (h.child (show "boot_vga" ≠ ".." by decide)).read
  unfold Scan.isBootVga
  generalize t.read (place.child "boot_vga") = x at hr ⊢
  generalize t'.read (place.child "boot_vga") = y at hr ⊢
  cases hr <;> rfl

/-- Without links, a device is bound to a driver if there is an entry for one. -/
theorem boundDriver_eq (free : t.LinkFree) (down : (place.child "driver").Descends) :
    Scan.boundDriver t place =
      match t.entry (place.child "driver") with
      | .ok _ =>
        match (place.child "driver").place.getLast? with
        | some name => .ok (some name)
        | none => .error (.namelessDriver place)
      | .error _ => .ok none := by
  unfold Scan.boundDriver
  cases he : t.entry (place.child "driver") with
  | ok node =>
    obtain ⟨-, hf, -⟩ := (FileTree.entry_eq_ok_iff free down).mp he
    rw [FileTree.locate_of_entry free down he]
    show (if (t.find? (place.child "driver").place).isNone then _ else _) = _
    rw [hf]
    rfl
  | error cause =>
    cases hl : t.locate .look (place.child "driver") with
    | error cause' => rfl
    | ok found =>
      have hnone : t.find? found = none := by
        unfold FileTree.entry at he
        rw [hl] at he
        simp only [bind, Except.bind] at he
        split at he
        next => cases he
        next hf => exact hf
      simp only [hnone, Option.isNone_none, if_true]

theorem boundDriver_unmoved (h : Unmoved place t t') :
    Scan.boundDriver t' place = Scan.boundDriver t place := by
  have hd := h.child (show "driver" ≠ ".." by decide)
  have he := hd.entry
  rw [boundDriver_eq h.linkFree hd.descends, boundDriver_eq h.linkFree' hd.descends]
  generalize t.entry (place.child "driver") = x at he ⊢
  generalize t'.entry (place.child "driver") = y at he ⊢
  cases he <;> rfl

/-- Trees with the same entries in a device's directory agree on the device. -/
theorem SameDevice.of_unmoved (h : Unmoved place t t') : SameDevice place t t' :=
  ⟨h.sameBelow, boundDriver_unmoved h⟩

theorem readIds_same (h : SameBelow place t t') :
    SameAnswer (Scan.readIds t place) (Scan.readIds t' place) ∧
      (Scan.readIds t place = .error .malformed ↔
        Scan.readIds t' place = .error .malformed) := by
  have hv := readAttribute_same (h.child (show "vendor" ≠ ".." by decide)) 0xffff
  have hm := readAttribute_same (h.child (show "device" ≠ ".." by decide)) 0xffff
  unfold Scan.readIds
  generalize readAttribute t (place.child "vendor") 0xffff = v at hv ⊢
  generalize readAttribute t' (place.child "vendor") 0xffff = v' at hv ⊢
  generalize readAttribute t (place.child "device") 0xffff = m at hm ⊢
  generalize readAttribute t' (place.child "device") 0xffff = m' at hm ⊢
  obtain ⟨hv, hvm⟩ := hv
  obtain ⟨hm, hmm⟩ := hm
  cases hv with
  | ok vendor =>
    cases hm with
    | ok model => exact ⟨.refl _, Iff.rfl⟩
    | error cause cause' =>
      cases cause <;> cases cause' <;> simp at hmm <;> exact ⟨.error _ _, by simp⟩
  | error cause cause' =>
    cases hm with
    | ok model =>
      cases cause <;> cases cause' <;> simp at hvm <;> exact ⟨.error _ _, by simp⟩
    | error why why' =>
      cases cause <;> cases cause' <;> simp at hvm <;> cases why <;> cases why' <;>
        simp at hmm <;> exact ⟨.error _ _, by simp⟩

/-- Trees that agree on a device identify it in the same way. -/
theorem identifyDisplay_same (h : SameDevice place t t') (name : FileName) :
    (Scan.identifyDisplay t' place name).value = (Scan.identifyDisplay t place name).value := by
  have hids := readIds_same h.own
  unfold Scan.identifyDisplay
  cases Address.parse? name.toList with
  | none => rfl
  | some address =>
    simp only [isBootVga_same h.own]
    generalize Scan.readIds t place = x at hids ⊢
    generalize Scan.readIds t' place = y at hids ⊢
    obtain ⟨hids, hmal⟩ := hids
    cases hids with
    | ok ids =>
      unfold Scan.checkDriver
      simp only [Noted.value_bind, h.driver]
    | error cause cause' =>
      cases cause <;> cases cause' <;> simp at hmal <;> rfl

theorem identify_same (h : SameDevice place t t') (name : FileName) :
    (Scan.identify t' place name).value = (Scan.identify t place name).value := by
  have hclass := readAttribute_same (h.own.child (show "class" ≠ ".." by decide)) 0xffffffff
  unfold Scan.identify
  rw [h.own.hasDir]
  cases t.hasDir place with
  | false => rfl
  | true =>
    simp only [Bool.not_true, Bool.false_eq_true, if_false]
    generalize readAttribute t (place.child "class") 0xffffffff = x at hclass ⊢
    generalize readAttribute t' (place.child "class") 0xffffffff = y at hclass ⊢
    obtain ⟨hclass, hmal⟩ := hclass
    cases hclass with
    | ok code =>
      simp only
      split
      next => exact identifyDisplay_same h name
      next => rfl
    | error cause cause' =>
      cases cause <;> cases cause' <;> simp at hmal <;> rfl

/-! ## Power states and displays -/

theorem readCapability_same (h : SameBelow place t t') (address : Address) :
    (Scan.readCapability t' place address).value = (Scan.readCapability t place address).value := by
  have hr := (h.child (show "config" ≠ ".." by decide)).read
  unfold Scan.readCapability ConfigSpace.ofFile
  generalize t.read (place.child "config") = x at hr ⊢
  generalize t'.read (place.child "config") = y at hr ⊢
  cases hr <;> rfl

theorem namesIn_same {p : Path} (h : SameBelow p t t') : namesIn t' p = namesIn t p := by
  have hl := h.list
  unfold namesIn
  generalize t.list p = x at hl ⊢
  generalize t'.list p = y at hl ⊢
  cases hl <;> rfl

/-- A name that begins as a connector's or a card's does leads down. -/
theorem ne_up_of_isPrefixOf {c : Char} (hc : c ≠ '.') {start : List Char} {name : FileName}
    (h : (c :: start).isPrefixOf name.toList = true) : name ≠ ".." := by
  rintro rfl
  obtain ⟨rest, hr⟩ := List.isPrefixOf_iff_prefix.mp h
  rw [List.cons_append] at hr
  exact hc (List.cons.inj hr).1

theorem connectorStatuses_same (h : SameBelow place t t') :
    connectorStatuses t' place = connectorStatuses t place := by
  have hdrm := h.child (show "drm" ≠ ".." by decide)
  unfold connectorStatuses
  simp only [namesIn_same hdrm]
  refine List.flatMap_congr fun card hcard => ?_
  obtain ⟨-, hcard⟩ := List.mem_filter.mp hcard
  have hdir := hdrm.child (ne_up_of_isPrefixOf (by decide) hcard)
  rw [namesIn_same hdir]
  refine List.filterMap_congr fun connector hconnector => ?_
  obtain ⟨-, hconnector⟩ := List.mem_filter.mp hconnector
  have hname : connector ≠ ".." := by
    obtain ⟨c, cs, hc⟩ : ∃ c cs, card.toList = c :: cs := by
      cases hl : card.toList with
      | nil => rw [hl] at hcard; cases hcard
      | cons c cs => exact ⟨c, cs, rfl⟩
    rw [hc] at hcard hconnector
    have hdot : c ≠ '.' := by
      rintro rfl
      cases hcard
    exact ne_up_of_isPrefixOf hdot hconnector
  have hstatus := ((hdir.child hname).child (show "status" ≠ ".." by decide)).readText
  generalize t.readText _ = x at hstatus ⊢
  generalize t'.readText _ = y at hstatus ⊢
  cases hstatus <;> rfl

theorem connectedOutputs_same (h : SameBelow place t t') :
    connectedOutputs place t' = connectedOutputs place t := by
  unfold connectedOutputs
  rw [connectorStatuses_same h]

/-- A scan that has come to the device goes on in the same way. -/
theorem inspect_same (h : SameBelow place t t') (s : Scan) (device : Device) :
    (Scan.inspect t' place s device).value = (Scan.inspect t place s device).value := by
  unfold Scan.inspect
  split
  next => simp only [Noted.value_bind, readCapability_same h, connectedOutputs_same h]
  next => simp only [Noted.value_bind, connectedOutputs_same h]

/-! ## All devices -/

/-- So does one that takes in the entries of the directory one after the other, if none of their
names climbs. -/
theorem collect_unmoved {dir : Path} (h : Unmoved dir t t') :
    ∀ (names : List FileName) (s : Scan), ".." ∉ names →
      (Scan.collect t' dir names s).value = (Scan.collect t dir names s).value
  | [], _, _ => rfl
  | name :: rest, s, hup => by
    have hname : name ≠ ".." := fun he => hup (he ▸ List.mem_cons_self)
    have hplace := h.child hname
    have ih := fun s => collect_unmoved h rest s fun hm => hup (List.mem_cons_of_mem _ hm)
    unfold Scan.collect
    simp only [Noted.value_bind, identify_same (.of_unmoved hplace)]
    cases (Scan.identify t (dir.child name) name).value with
    | error cause => rfl
    | ok found =>
      cases found with
      | none => exact ih s
      | some device =>
        simp only
        split
        next => rfl
        next =>
          simp only [Noted.value_bind, inspect_same hplace.sameBelow]
          exact ih _

/-- Trees that agree on the directory of devices show the same cards. -/
theorem sameAnswer_scan {dir : Path} (h : Unmoved dir t t')
    (hup : ∀ names, t.list dir = .ok names → ".." ∉ names) :
    SameAnswer (scan dir t).value (scan dir t').value := by
  have hl := h.listSorted
  unfold scan
  cases hs : t.listSorted dir with
  | error cause =>
    rw [hs] at hl
    generalize t'.listSorted dir = y at hl ⊢
    cases hl
    exact .error _ _
  | ok names =>
    rw [hs] at hl
    generalize t'.listSorted dir = y at hl ⊢
    cases hl
    have hnames : ".." ∉ names := by
      unfold FileTree.listSorted at hs
      cases hd : t.list dir with
      | error cause => rw [hd] at hs; cases hs
      | ok listed =>
        rw [hd] at hs
        cases hs
        rw [FileTree.mem_sortNames]
        exact hup listed hd
    show SameAnswer (Scan.collect t dir names {}).value (Scan.collect t' dir names {}).value
    rw [collect_unmoved h names {} hnames]
    exact .refl _

end HybridGraphics.Pci
