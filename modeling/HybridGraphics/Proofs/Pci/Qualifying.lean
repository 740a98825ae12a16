import HybridGraphics.Proofs.Pci.Rescan
import HybridGraphics.Proofs.Text.Spelling

/-!
# Which directories show a device

`Qualifies` is the account of what a directory has to hold for the scan to take a device from it,
and of what is then known of the device. `Malformed` is the account of what ends the scan. They are
written down apart from the order in which the scan looks at the files, and `identify_eq_some_iff` and
`identify_error_iff` say that it comes to the same: these two, and passing an entry over, are all
that can happen.

Both speak of the entry's own directory and of its driver alone, so trees that agree there judge the
entry alike (`qualifies_same`).
-/

namespace HybridGraphics.Pci

open FileTree (SameBelow)

variable {t t' : FileTree} {place : Path} {name : FileName} {d : Device}

/-! ## What there is to be judged by -/

/-- A directory of the display class. -/
def ShowsDisplay (t : FileTree) (place : Path) : Prop :=
  t.hasDir place = true ∧
    ∃ code, readAttribute t (place.child "class") 0xffffffff = .ok code ∧
      code / 0x10000 = 0x03

/-- Vendor and model can be read, and are these. -/
def ShowsIds (t : FileTree) (place : Path) (vendor : Vendor) (model : UInt16) : Prop :=
  readAttribute t (place.child "vendor") 0xffff = .ok vendor.toNat ∧
    readAttribute t (place.child "device") 0xffff = .ok model.toNat

/-- The entry of this name shows a device for this system to use, and this is what is known of it. -/
structure Qualifies (t : FileTree) (place : Path) (name : FileName) (d : Device) : Prop where
  display : ShowsDisplay t place
  named : Address.parse? name.toList = some d.address
  ids : ShowsIds t place d.vendor d.model
  driver : ∃ driver, Scan.boundDriver t place = .ok (some driver) ∧ driver ≠ "pci-stub" ∧
    driver ≠ "pciback"
  bootVga : d.bootVga = true ↔ t.read (place.child "boot_vga") = .ok [0x31, 0x0a]
  outputs : d.outputs = (connectedOutputs place t).value

/-- Something that the entry of this name is judged by is malformed. -/
inductive Malformed (t : FileTree) (place : Path) (name : FileName) : Prop
  | code (dir : t.hasDir place = true)
      (h : readAttribute t (place.child "class") 0xffffffff = .error .malformed)
  | vendor (display : ShowsDisplay t place) (named : Address.parse? name.toList ≠ none)
      (h : readAttribute t (place.child "vendor") 0xffff = .error .malformed)
  | model (display : ShowsDisplay t place) (named : Address.parse? name.toList ≠ none)
      (h : readAttribute t (place.child "device") 0xffff = .error .malformed)
  | driver (display : ShowsDisplay t place) (named : Address.parse? name.toList ≠ none)
      (ids : ∃ vendor model, ShowsIds t place vendor model)
      (h : ∀ driver, Scan.boundDriver t place ≠ .ok driver)

/-! ## What the scan makes of it -/

/-- An attribute is read only if it is within its limit. -/
theorem readAttribute_le {p : Path} {limit n : Nat} (h : readAttribute t p limit = .ok n) :
    n ≤ limit := by
  unfold readAttribute attributeValue at h
  split at h
  next => cases h
  next =>
    split at h
    next => cases h
    next =>
      cases hr : Text.read 16 limit (Text.trim _) with
      | error cause => rw [hr] at h; cases h
      | ok m =>
        rw [hr] at h
        cases h
        exact (Text.read_eq_ok_iff.mp hr).2

/-- A device is reserved for a guest by one of two drivers. -/
theorem contains_passthroughDrivers {driver : FileName} :
    passthroughDrivers.contains driver = false ↔ driver ≠ "pci-stub" ∧ driver ≠ "pciback" := by
  rw [← Bool.not_eq_true, List.contains_iff_mem]
  unfold passthroughDrivers
  simp only [List.mem_cons, List.not_mem_nil, or_false, not_or, ne_eq]

/-- The primary card is the one whose attribute is the digit one and a newline. -/
theorem isBootVga_iff :
    Scan.isBootVga t place = true ↔ t.read (place.child "boot_vga") = .ok [0x31, 0x0a] := by
  unfold Scan.isBootVga
  cases t.read (place.child "boot_vga") with
  | error cause => simp
  | ok content => simp

/-- Vendor and model are what their attributes show, and both have to be readable. -/
theorem readIds_eq_ok_iff {vendor : Vendor} {model : UInt16} :
    Scan.readIds t place = .ok (vendor, model) ↔ ShowsIds t place vendor model := by
  unfold Scan.readIds ShowsIds
  constructor
  · intro h
    split at h
    next v m hv hm =>
      cases h
      have hvlt := readAttribute_le hv
      have hmlt := readAttribute_le hm
      rw [UInt16.toNat_ofNat', UInt16.toNat_ofNat', Nat.mod_eq_of_lt (by omega),
        Nat.mod_eq_of_lt (by omega)]
      exact ⟨hv, hm⟩
    all_goals cases h
  · rintro ⟨hv, hm⟩
    rw [hv, hm]
    simp only [UInt16.ofNat_toNat]

theorem readIds_malformed_iff :
    Scan.readIds t place = .error .malformed ↔
      readAttribute t (place.child "vendor") 0xffff = .error .malformed ∨
        readAttribute t (place.child "device") 0xffff = .error .malformed := by
  unfold Scan.readIds
  rcases readAttribute t (place.child "vendor") 0xffff with (_ | _ | _) | vendor <;>
    rcases readAttribute t (place.child "device") 0xffff with (_ | _ | _) | model <;> simp

/-- A directory of the display class is judged by more than its class. -/
theorem identify_of_display (h : ShowsDisplay t place) :
    (Scan.identify t place name).value = (Scan.identifyDisplay t place name).value := by
  obtain ⟨hdir, code, hclass, hcode⟩ := h
  have hcode : code / 0x10000 = displayClass := hcode
  unfold Scan.identify
  simp only [hdir, hclass, hcode, Bool.not_true, Bool.false_eq_true, if_false, if_true]

/-- What comes of any other entry. -/
theorem identify_of_not_display (h : ¬ ShowsDisplay t place) :
    (Scan.identify t place name).value = .ok none ∨
      (Scan.identify t place name).value = .error (.malformedAttribute place) ∧
        Malformed t place name := by
  unfold Scan.identify
  cases hdir : t.hasDir place with
  | false => exact .inl rfl
  | true =>
    simp only [Bool.not_true, Bool.false_eq_true, if_false]
    cases hclass : readAttribute t (place.child "class") 0xffffffff with
    | ok code =>
      have hcode : code / 0x10000 ≠ displayClass := fun hc => h ⟨hdir, code, hclass, hc⟩
      simp only [if_neg hcode]
      exact .inl rfl
    | error cause =>
      cases cause with
      | malformed => exact .inr ⟨rfl, .code hdir hclass⟩
      | unreadable cause => exact .inl rfl
      | notNumeral cause => exact .inl rfl

/-- What comes of a directory of the display class. -/
theorem identifyDisplay_cases (h : ShowsDisplay t place) :
    (Scan.identifyDisplay t place name).value = .ok none ∨
      (∃ device, (Scan.identifyDisplay t place name).value = .ok (some device) ∧
        device.outputs = .unknown ∧
          Qualifies t place name { device with outputs := (connectedOutputs place t).value }) ∨
      (∃ cause, (Scan.identifyDisplay t place name).value = .error cause) ∧
        Malformed t place name := by
  unfold Scan.identifyDisplay
  cases hname : Address.parse? name.toList with
  | none => exact .inl rfl
  | some address =>
    have hnamed : Address.parse? name.toList ≠ none := by simp [hname]
    simp only
    cases hids : Scan.readIds t place with
    | error cause =>
      cases cause with
      | malformed =>
        refine .inr (.inr ⟨⟨_, rfl⟩, ?_⟩)
        rcases readIds_malformed_iff.mp hids with hv | hm
        · exact .vendor h hnamed hv
        · exact .model h hnamed hm
      | unreadable cause => exact .inl rfl
      | notNumeral cause => exact .inl rfl
    | ok ids =>
      have hshows : ShowsIds t place ids.1 ids.2 := readIds_eq_ok_iff.mp hids
      unfold Scan.checkDriver
      simp only [Noted.value_bind]
      cases hdriver : Scan.boundDriver t place with
      | error cause =>
        exact .inr (.inr ⟨⟨_, rfl⟩, .driver h hnamed ⟨_, _, hshows⟩ (by simp [hdriver])⟩)
      | ok driver =>
        cases driver with
        | none => exact .inl rfl
        | some driver =>
          simp only
          split
          next => exact .inl rfl
          next hdriven =>
            refine .inr (.inl ⟨_, rfl, rfl, h, hname, hshows, ⟨driver, hdriver, ?_⟩, ?_, rfl⟩)
            · exact contains_passthroughDrivers.mp (Bool.eq_false_iff.mpr hdriven)
            · exact isBootVga_iff

/-- An entry that qualifies is identified as its device, but for the connectors. -/
theorem identify_of_qualifies (h : Qualifies t place name d) :
    (Scan.identify t place name).value = .ok (some { d with outputs := .unknown }) := by
  obtain ⟨driver, hdriver, hdriven⟩ := h.driver
  have hcontains := contains_passthroughDrivers.mpr hdriven
  have hvga : Scan.isBootVga t place = d.bootVga := by
    rw [Bool.eq_iff_iff, isBootVga_iff]
    exact h.bootVga.symm
  rw [identify_of_display h.display]
  unfold Scan.identifyDisplay
  simp only [h.named, readIds_eq_ok_iff.mpr h.ids]
  unfold Scan.checkDriver
  simp only [Noted.value_bind, hdriver, hcontains, hvga, Bool.false_eq_true, if_false,
    Noted.value_pure]

/-- A malformed entry fails to be identified. -/
theorem identify_of_malformed (h : Malformed t place name) :
    ∃ cause, (Scan.identify t place name).value = .error cause := by
  have hafter : ∀ {address : Address}, Address.parse? name.toList = some address →
      Scan.readIds t place = .error .malformed →
        (Scan.identifyDisplay t place name).value = .error (.malformedAttribute place) := by
    intro address hname hids
    unfold Scan.identifyDisplay
    simp only [hname, hids, Noted.value_pure]
  cases h with
  | code hdir h =>
    refine ⟨.malformedAttribute place, ?_⟩
    unfold Scan.identify
    simp only [hdir, h, Bool.not_true, Bool.false_eq_true, if_false, Noted.value_pure]
  | vendor display named h =>
    obtain ⟨address, hname⟩ := Option.ne_none_iff_exists'.mp named
    rw [identify_of_display display]
    exact ⟨_, hafter hname (readIds_malformed_iff.mpr (.inl h))⟩
  | model display named h =>
    obtain ⟨address, hname⟩ := Option.ne_none_iff_exists'.mp named
    rw [identify_of_display display]
    exact ⟨_, hafter hname (readIds_malformed_iff.mpr (.inr h))⟩
  | driver display named ids h =>
    obtain ⟨address, hname⟩ := Option.ne_none_iff_exists'.mp named
    obtain ⟨vendor, model, hids⟩ := ids
    rw [identify_of_display display]
    unfold Scan.identifyDisplay
    simp only [hname, readIds_eq_ok_iff.mpr hids, Noted.value_bind]
    unfold Scan.checkDriver
    cases hdriver : Scan.boundDriver t place with
    | ok driver => exact absurd hdriver (h driver)
    | error cause => exact ⟨cause, rfl⟩

/-- The scan takes a device from an entry just if the entry qualifies. -/
theorem identify_eq_some_iff {device : Device} :
    (Scan.identify t place name).value = .ok (some device) ↔
      device.outputs = .unknown ∧
        Qualifies t place name { device with outputs := (connectedOutputs place t).value } := by
  constructor
  · intro h
    by_cases hd : ShowsDisplay t place
    · rw [identify_of_display hd] at h
      rcases identifyDisplay_cases hd with h' | ⟨device', h', hq⟩ | ⟨⟨cause, h'⟩, -⟩
      · cases h.symm.trans h'
      · cases h.symm.trans h'
        exact hq
      · cases h.symm.trans h'
    · rcases identify_of_not_display hd with h' | ⟨h', -⟩ <;> cases h.symm.trans h'
  · rintro ⟨hunknown, hq⟩
    rw [identify_of_qualifies hq, ← hunknown]

/-- The scan ends at an entry just if the entry is malformed. -/
theorem identify_error_iff :
    (∃ cause, (Scan.identify t place name).value = .error cause) ↔ Malformed t place name := by
  constructor
  · rintro ⟨cause, h⟩
    by_cases hd : ShowsDisplay t place
    · rw [identify_of_display hd] at h
      rcases identifyDisplay_cases hd with h' | ⟨device, h', -⟩ | ⟨-, hm⟩
      · cases h.symm.trans h'
      · cases h.symm.trans h'
      · exact hm
    · rcases identify_of_not_display hd with h' | ⟨-, hm⟩
      · cases h.symm.trans h'
      · exact hm
  · exact identify_of_malformed

/-- Entries that the trees agree on are judged alike. -/
theorem qualifies_same (h : SameDevice place t t') :
    Qualifies t' place name d ↔ Qualifies t place name d := by
  have hto : ∀ t, Qualifies t place name d ↔
      (Scan.identify t place name).value = .ok (some { d with outputs := .unknown }) ∧
        d.outputs = (connectedOutputs place t).value := by
    intro t
    constructor
    · exact fun hq => ⟨identify_of_qualifies hq, hq.outputs⟩
    · rintro ⟨hid, houtputs⟩
      have hq := (identify_eq_some_iff.mp hid).2
      rwa [← houtputs] at hq
  rw [hto, hto, identify_same h, connectedOutputs_same h.own]

end HybridGraphics.Pci
