import HybridGraphics.Proofs.Config.Separate
import HybridGraphics.Proofs.Pci.Rescan
import HybridGraphics.Proofs.Run.Prepare

/-!
# What a run reads and never writes

`Config.consulted` lists the files and directories that a run only reads.
`ConsultedUnmoved` says that these are the same in two trees, and the lemmas go through
what a run makes of them: the opt-out, the cards, the driver's series, runtime power
management, the blacklist, the marks of earlier boots, the PowerXpress script. What is
made of them is the same in both trees.

A policy and an offloading marker are read from files that a run does write. They are
functions of the bytes there (`Policy.value_read`, `neededOffloading_of_marker`).
-/

namespace HybridGraphics

open Pci (Device Vendor Scan)
open FileTree (Unmoved)

/-- What the configuration only reads is the same in both trees. -/
def ConsultedUnmoved (config : Config) (t t' : FileTree) : Prop :=
  ∀ p ∈ config.consulted, Unmoved p t t'

theorem ConsultedUnmoved.trans {config : Config} {t t' t'' : FileTree}
    (h : ConsultedUnmoved config t t') (h' : ConsultedUnmoved config t' t'') :
    ConsultedUnmoved config t t'' :=
  fun p hp => (h p hp).trans (h' p hp)

variable {config : Config} {t t' : FileTree}

/-! ## Small questions -/

namespace Probe

/-- The first line of a text that reads alike is the same. -/
theorem firstLine_congr {p : Path} (h : SameAnswer (t.readText p) (t'.readText p)) :
    firstLine p t' = firstLine p t := by
  unfold firstLine
  generalize t.readText p = x at h ⊢
  generalize t'.readText p = y at h ⊢
  cases h <;> rfl

theorem mentions_congr {p : Path} (h : SameAnswer (t.readText p) (t'.readText p))
    (pattern : String) : mentions pattern p t' = mentions pattern p t := by
  unfold mentions
  generalize t.readText p = x at h ⊢
  generalize t'.readText p = y at h ⊢
  cases h <;> rfl

/-- Whether the run is opted out of stays. -/
theorem optedOut_unmoved (h : ConsultedUnmoved config t t') :
    optedOut config.kernelCommandLine t' = optedOut config.kernelCommandLine t :=
  mentions_congr (h _ (by simp [Config.consulted])).readText kernelOptOut

end Probe

/-! ## Modules -/

namespace KernelModule

/-- A file whose name has the extension of a modprobe file is one of the directory. -/
theorem ne_up_of_extension {name : FileName}
    (h : Path.extension? name = some "conf".toList) : name ≠ ".." := by
  rintro rfl
  revert h
  decide

/-- An entry of a modprobe directory blacklists the same modules. -/
theorem checkFile_unmoved {dir : Path} (h : Unmoved dir t t') (name : String)
    (entry : FileName) :
    (checkFile name dir t' entry).value = (checkFile name dir t entry).value := by
  unfold checkFile
  by_cases he : Path.extension? entry = some "conf".toList
  · simp only [he, bne_self_eq_false, Bool.false_eq_true, if_false]
    have ht := (h.child (ne_up_of_extension he)).readText
    generalize t.readText (dir.child entry) = x at ht ⊢
    generalize t'.readText (dir.child entry) = y at ht ⊢
    cases ht <;> rfl
  · have hne : (Path.extension? entry != some "conf".toList) = true := by simpa using he
    simp only [hne, if_true]

theorem checkDir_unmoved {dir : Path} (h : Unmoved dir t t') (name : String) :
    (checkDir name t' dir).value = (checkDir name t dir).value := by
  have hl := h.list
  unfold checkDir
  generalize t.list dir = x at hl ⊢
  generalize t'.list dir = y at hl ⊢
  cases hl with
  | ok entries =>
    simp only [Noted.value_findM?]
    exact congrArg (entries.findSome? ·) (funext fun entry => checkFile_unmoved h name entry)
  | error cause cause' => rfl

/-- The same modules are blacklisted. -/
theorem isBlacklisted_unmoved (h : ConsultedUnmoved config t t') (name : String) :
    (isBlacklisted config name t').value = (isBlacklisted config name t).value := by
  have hdirs : ∀ dir ∈ config.modprobeDirs, Unmoved dir t t' := fun dir hd =>
    h dir (by simp [Config.consulted, hd])
  simp only [isBlacklisted, Noted.value_bind, Noted.value_findM?, Noted.value_pure]
  congr 1
  generalize config.modprobeDirs = dirs at hdirs
  induction dirs with
  | nil => rfl
  | cons dir rest ih =>
    have ih := ih fun d hd => hdirs d (List.mem_cons_of_mem _ hd)
    rw [List.findSome?_cons, List.findSome?_cons,
      checkDir_unmoved (hdirs dir List.mem_cons_self), ih]

/-- The mark of a module that was loaded is there as before. -/
theorem has_loadedMark (h : ConsultedUnmoved config t t') {name : String}
    (hn : ".." ∉ Path.components ("u-d-c-" ++ name ++ "-was-loaded")) :
    t'.has (loadedMark config name) = t.has (loadedMark config name) :=
  ((h _ (by simp [Config.consulted])).below hn).has

theorem residualCard_unmoved (h : ConsultedUnmoved config t t') (vendor : Vendor) :
    residualCard config vendor t' = residualCard config vendor t := by
  have hl := (h config.detectionDir (by simp [Config.consulted])).listSorted
  unfold residualCard
  generalize t.listSorted config.detectionDir = x at hl ⊢
  generalize t'.listSorted config.detectionDir = y at hl ⊢
  cases hl <;> rfl

end KernelModule

/-! ## Runtime power management -/

namespace RuntimePm

theorem isListed_unmoved (h : ConsultedUnmoved config t t') (driverMajor : Option Nat)
    (model : UInt16) :
    (isListed config driverMajor model t').value = (isListed config driverMajor model t).value := by
  have hdocs := h config.driverDocs (by simp [Config.consulted])
  have hfiles : ∀ file ∈ databaseFiles config driverMajor, Unmoved file t t' := by
    intro file hf
    unfold databaseFiles at hf
    cases driverMajor with
    | none => cases hf
    | some major =>
      obtain ⟨variant, -, rfl⟩ := List.mem_map.mp hf
      refine hdocs.below fun hm => ?_
      rcases List.mem_cons.mp hm with hm | hm
      · -- the directory is named for the driver
        have hs := congrArg String.toList hm
        simp [toString] at hs
      · exact absurd hm (by decide)
  have hfind : (databaseFiles config driverMajor).find? t'.has =
      (databaseFiles config driverMajor).find? t.has := by
    generalize databaseFiles config driverMajor = files at hfiles
    induction files with
    | nil => rfl
    | cons file rest ih =>
      have ih := ih fun f hf => hfiles f (List.mem_cons_of_mem _ hf)
      rw [List.find?_cons, List.find?_cons, (hfiles file List.mem_cons_self).has, ih]
  unfold isListed
  rw [hfind]
  cases hf : (databaseFiles config driverMajor).find? t.has with
  | none => rfl
  | some file =>
    have hr := (hfiles file (List.mem_of_find?_eq_some hf)).read
    simp only
    generalize t.read file = x at hr ⊢
    generalize t'.read file = y at hr ⊢
    cases hr <;> rfl

theorem isLaptop_unmoved (h : ConsultedUnmoved config t t') :
    (isLaptop config t').value = (isLaptop config t).value := by
  have hline := Probe.firstLine_congr (h config.chassisType (by simp [Config.consulted])).readText
  unfold isLaptop
  rw [hline]

theorem kernelSupports_unmoved (h : ConsultedUnmoved config t t') :
    (kernelSupports config t').value = (kernelSupports config t).value := by
  have hline :=
    Probe.firstLine_congr (h config.kernelRelease (by simp [Config.consulted])).readText
  unfold kernelSupports
  rw [hline]

theorem address_ne_up (a : Pci.Address) : a.text ≠ ".." := by
  intro h
  have hs : ':' ∈ a.text.toList := by
    rw [Pci.Address.text, String.toList_ofList]
    simp [Pci.Address.chars]
  rw [h] at hs
  revert hs
  decide

/-- The file in which the driver tells of a card's power. -/
def powerFile (config : Config) (address : Pci.Address) : Path :=
  (config.driverCards.child address.text).child "power"

/-- Whether runtime D3 is in use is told by the driver's account of the card alone. -/
theorem currentlyEnabled_congr {address : Pci.Address}
    (h : SameAnswer (t.readText (powerFile config address))
      (t'.readText (powerFile config address))) :
    currentlyEnabled config address t' = currentlyEnabled config address t := by
  unfold powerFile at h
  unfold currentlyEnabled
  generalize t.readText _ = x at h ⊢
  generalize t'.readText _ = y at h ⊢
  cases h <;> rfl

theorem currentlyEnabled_unmoved (h : ConsultedUnmoved config t t') (address : Pci.Address) :
    currentlyEnabled config address t' = currentlyEnabled config address t := by
  have hcards := h config.driverCards (by simp [Config.consulted])
  exact currentlyEnabled_congr ((hcards.child (address_ne_up address)).child
    (show "power" ≠ ".." by decide)).readText

/-- A card is as eligible for runtime D3 as before. -/
theorem resolve_unmoved (h : ConsultedUnmoved config t t') (driverMajor : Option Nat)
    (address : Pci.Address) (model : UInt16) (capability : Pci.Capability) :
    (resolve config driverMajor address model capability t').value =
      (resolve config driverMajor address model capability t).value := by
  have hoverride := (h config.runtimePmOverride (by simp [Config.consulted])).has
  have hcard : (cardSupports config driverMajor model capability t').value =
      (cardSupports config driverMajor model capability t).value := by
    unfold cardSupports
    rw [hoverride]
    cases t.has config.runtimePmOverride with
    | true => rfl
    | false =>
      simp only [Bool.false_eq_true, if_false, Noted.value_bind, isListed_unmoved h]
      split
      next => exact isLaptop_unmoved h
      next =>
        split
        next => simp only [Noted.value_bind, isLaptop_unmoved h]
        next => rfl
  simp only [resolve, Noted.value_bind, hcard, currentlyEnabled_unmoved h]
  split
  next => simp only [Noted.value_bind, kernelSupports_unmoved h]
  next => rfl

end RuntimePm

/-! ## The situation -/

namespace Run

/-- The same cards are found, or the search for them fails again. -/
theorem findDevices_unmoved (h : ConsultedUnmoved config t t')
    (hup : ∀ names, t.list config.pciDevices = .ok names → ".." ∉ names) :
    SameAnswer (findDevices config t).value (findDevices config t').value := by
  unfold findDevices
  cases hd : config.deviceListing with
  | some file =>
    have hr := (h file (by simp [Config.consulted, hd])).read
    simp only [readListing]
    generalize t.read file = x at hr ⊢
    generalize t'.read file = y at hr ⊢
    cases hr with
    | ok content => exact .refl _
    | error cause cause' => exact .error _ _
  | none =>
    simp only [Noted.value_bind, Noted.value_pure]
    exact (Pci.sameAnswer_scan (h _ (by simp [Config.consulted])) hup).mapError _

theorem driverMajor_unmoved (h : ConsultedUnmoved config t t') :
    driverMajor config t' = driverMajor config t := by
  have hline :=
    Probe.firstLine_congr (h config.driverVersion (by simp [Config.consulted])).readText
  unfold driverMajor
  rw [hline]

theorem residualOf_unmoved (h : ConsultedUnmoved config t t') (devices : List Device) :
    residualOf config devices t' = residualOf config devices t := by
  unfold residualOf
  rw [KernelModule.residualCard_unmoved h]

/-- The card that PRIME is about is as eligible as before. -/
theorem eligibilityOf_unmoved (h : ConsultedUnmoved config t t') (scan : Scan) :
    eligibilityOf config scan t' = eligibilityOf config scan t := by
  unfold eligibilityOf
  rw [residualOf_unmoved h, driverMajor_unmoved h]
  cases discreteCard scan.devices (residualOf config scan.devices t) with
  | none => rfl
  | some d => exact RuntimePm.resolve_unmoved h _ _ _ _

theorem hasPxScript_unmoved (h : ConsultedUnmoved config t t') :
    t'.has config.pxScript = t.has config.pxScript :=
  (h _ (by simp [Config.consulted])).has

/-! ## Files that a run writes -/

end Run

namespace Policy

/-- The policy that the bytes of a file say. -/
def ofContent (content : Bytes) : Policy :=
  match Text.decode? content with
  | some text => ofText ((Text.lines text).head?.getD [])
  | none => off

/-- What is read in a policy file, whatever else stands in its place. -/
theorem value_read (p : Path) (t : FileTree) :
    (read p t).value =
      match t.read p with
      | .ok content => ofContent content
      | .error _ => off := by
  unfold read Probe.holdsBytes readContent FileTree.readText FileTree.read
  cases t.entry p with
  | error cause => rfl
  | ok node =>
    cases node with
    | dir entries => rfl
    | link target => rfl
    | file content runnable =>
      simp only [Noted.value_pure, bind, Except.bind]
      cases content with
      | nil => rfl
      | cons byte rest =>
        simp only [List.isEmpty_cons, Bool.not_false, if_true, ofContent]
        cases Text.decode? (byte :: rest) <;> rfl

theorem read_congr {p : Path} (h : SameAnswer (t.read p) (t'.read p)) :
    (read p t').value = (read p t).value := by
  rw [value_read, value_read]
  generalize t.read p = x at h ⊢
  generalize t'.read p = y at h ⊢
  cases h <;> rfl

/-- A policy reads back as it was written. -/
theorem ofContent_written (policy : Policy) :
    ofContent (Text.encode (policy.text.toList ++ ['\n'])) = policy := by
  unfold ofContent
  rw [Text.decode?_encode]
  cases policy <;> decide

end Policy

namespace Run

/-- The marker tells the next run that offloading was needed. -/
theorem neededOffloading_of_marker
    (h : t.read config.offloadingMarker = .ok (Text.encode markerText)) :
    neededOffloading config t = true := by
  have ht : t.readText config.offloadingMarker = .ok markerText := by
    unfold FileTree.readText
    rw [h]
    simp only [bind, Except.bind, Text.decode?_encode]
  unfold neededOffloading Probe.firstLine
  rw [ht]
  decide

end Run

end HybridGraphics
