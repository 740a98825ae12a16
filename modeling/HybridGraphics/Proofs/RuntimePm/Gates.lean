import HybridGraphics.Proofs.Run.Readings
import HybridGraphics.Proofs.System.Rehearsal
import HybridGraphics.Proofs.Text.Spelling

/-!
# The gates of runtime D3

Runtime D3 is supported where the kernel is new enough and either the override is there, or the
machine is a laptop and the card is listed or can be woken from D3hot. `Listed`, `OnLaptop` and
`KernelIsNew` are what each gate takes from the files it reads. The resolver looks at one gate after
another and reports as it goes; `eligibility_follows_gates` says that nothing but the gates decides.

The ids of a list are written loosely. `NamesModel` is the grammar they are read by, and a chip with
an id of any other form stands for no card, so it is passed over like a chip of another card
(`findChip?_eq_some_iff`).
-/

namespace HybridGraphics.RuntimePm

open Pci (Address Capability)

variable {config : Config} {t t' : FileTree} {model : UInt16} {driverMajor : Option Nat}

/-! ## The ids of a list -/

/-- The text, this many times over. -/
def repeated (times : Nat) (mark : List Char) : List Char := (List.replicate times mark).flatten

/-- The id is a numeral of the model, after any number of base marks. -/
def NamesModel (id : List Char) (model : UInt16) : Prop :=
  ∃ lower upper numeral, id = repeated lower ['0', 'x'] ++ (repeated upper ['0', 'X'] ++ numeral) ∧
    Text.HexNumeral numeral model.toNat

theorem repeated_succ (times : Nat) (mark : List Char) :
    repeated (times + 1) mark = mark ++ repeated times mark := rfl

/-- Only marks are dropped. -/
theorem eq_repeated_dropMarks (mark : List Char) :
    ∀ (times : Nat) (text : List Char), ∃ k, text = repeated k mark ++ dropMarks mark times text
  | 0, text => ⟨0, rfl⟩
  | times + 1, text => by
    unfold dropMarks
    split
    next h =>
      obtain ⟨rest, rfl⟩ := List.isPrefixOf_iff_prefix.mp h
      obtain ⟨k, hk⟩ := eq_repeated_dropMarks mark times rest
      rw [List.drop_left]
      refine ⟨k + 1, ?_⟩
      rw [repeated_succ, List.append_assoc, ← hk]
    next => exact ⟨0, rfl⟩

/-- All marks are dropped, as far as they are looked for. -/
theorem dropMarks_repeated {mark rest : List Char} (hrest : mark.isPrefixOf rest = false) :
    ∀ k times : Nat, k ≤ times → dropMarks mark times (repeated k mark ++ rest) = rest
  | 0, 0, _ => rfl
  | 0, times + 1, _ => by
    show (if mark.isPrefixOf rest then _ else rest) = rest
    rw [hrest]
    rfl
  | k + 1, times + 1, h => by
    have hprefix : mark.isPrefixOf (repeated (k + 1) mark ++ rest) = true := by
      rw [List.isPrefixOf_iff_prefix, repeated_succ, List.append_assoc]
      exact List.prefix_append _ _
    rw [dropMarks, if_pos hprefix, repeated_succ, List.append_assoc, List.drop_left]
    exact dropMarks_repeated hrest k times (Nat.le_of_succ_le_succ h)

theorem length_repeated_two (times : Nat) (a b : Char) :
    (repeated times [a, b]).length = 2 * times := by
  induction times with
  | zero => rfl
  | succ times ih =>
    rw [repeated_succ, List.length_append, ih, List.length_cons, List.length_singleton]
    omega

/-- An id is read as its model's number, and no other text is read as one. -/
theorem modelNumber?_eq_some_iff {id : List Char} :
    modelNumber? id = some model ↔ NamesModel id model := by
  unfold modelNumber?
  rw [Text.readHex16?_eq_some_iff]
  constructor
  · intro h
    obtain ⟨lower, hlower⟩ := eq_repeated_dropMarks ['0', 'x'] id.length id
    obtain ⟨upper, hupper⟩ := eq_repeated_dropMarks ['0', 'X']
      (dropMarks ['0', 'x'] id.length id).length (dropMarks ['0', 'x'] id.length id)
    exact ⟨lower, upper, _, hlower.trans (congrArg (_ ++ ·) hupper), h⟩
  · rintro ⟨lower, upper, numeral, rfl, h⟩
    -- a numeral holds no mark, so dropping stops where it begins
    have hlower : (['0', 'x'] : List Char).isPrefixOf numeral = false := by
      rw [Bool.eq_false_iff, ne_eq, List.isPrefixOf_iff_prefix]
      exact fun hp => h.not_mem (by decide) (by decide) (hp.subset (by simp : 'x' ∈ ['0', 'x']))
    have hupper : (['0', 'X'] : List Char).isPrefixOf numeral = false := by
      rw [Bool.eq_false_iff, ne_eq, List.isPrefixOf_iff_prefix]
      exact fun hp => h.not_mem (by decide) (by decide) (hp.subset (by simp : 'X' ∈ ['0', 'X']))
    have hrest : (['0', 'x'] : List Char).isPrefixOf (repeated upper ['0', 'X'] ++ numeral) =
        false := by
      cases upper with
      | zero => exact hlower
      | succ upper => rfl
    have hwithin : ∀ (times : Nat) (a b : Char) (rest : List Char),
        times ≤ (repeated times [a, b] ++ rest).length := by
      intro times a b rest
      rw [List.length_append, length_repeated_two]
      omega
    have hfirst := dropMarks_repeated hrest lower _
      (hwithin lower '0' 'x' (repeated upper ['0', 'X'] ++ numeral))
    have hsecond := dropMarks_repeated hupper upper _ (hwithin upper '0' 'X' numeral)
    show Text.HexNumeral (dropMarks ['0', 'X'] (dropMarks ['0', 'x'] _ _).length
      (dropMarks ['0', 'x'] _ _)) _
    rw [hfirst, hsecond]
    exact h

/-! ## The first chip of a model -/

/-- The chip stands for the model, and no chip before it does. -/
theorem findChip?_eq_some_iff {chips : List Chip} {chip : Chip} :
    findChip? chips model = some chip ↔
      ∃ before after, chips = before ++ chip :: after ∧ NamesModel chip.id model ∧
        ∀ other ∈ before, ¬ NamesModel other.id model := by
  unfold findChip?
  rw [List.find?_eq_some_iff_append]
  simp only [beq_iff_eq, modelNumber?_eq_some_iff, Bool.not_eq_eq_eq_not, Bool.not_true,
    beq_eq_false_iff_ne, ne_eq]
  constructor
  · rintro ⟨hchip, before, after, hsplit, hbefore⟩
    exact ⟨before, after, hsplit, hchip, hbefore⟩
  · rintro ⟨before, after, hsplit, hchip, hbefore⟩
    exact ⟨hchip, before, after, hsplit, hbefore⟩

/-! ## What each gate takes from its files -/

/-- The list that a driver series has in this variant. -/
def listFile (config : Config) (major : Nat) (variant : String) : Path :=
  config.driverDocs.below [s!"nvidia-driver-{major}" ++ variant, "supported-gpus.json"]

/-- The list that counts: the desktop one, or if that is not there the server one. -/
def countedList (config : Config) (t : FileTree) (major : Nat) : Path :=
  if t.has (listFile config major "") then listFile config major ""
  else listFile config major "-server"

/-- The driver lists the card: in the list that counts for its series, the first chip that stands for
the model has the feature. -/
inductive Listed (config : Config) (t : FileTree) (model : UInt16) : Option Nat → Prop
  | of {major : Nat} {content : Bytes} {before after : List Chip} {chip : Chip}
      (read : t.read (countedList config t major) = .ok content)
      (parsed : parseChips? content = some (before ++ chip :: after))
      (passed : ∀ other ∈ before, ¬ NamesModel other.id model)
      (names : NamesModel chip.id model)
      (feature : runtimePmFeature.toList ∈ chip.features) : Listed config t model (some major)

/-- The chassis type reads as one of a laptop's. -/
def OnLaptop (config : Config) (t : FileTree) : Prop :=
  ∃ chassis ∈ laptopChassis,
    (Probe.firstLine config.chassisType t).bind Text.readDecimal32? = some chassis

/-- The kernel's release reads as version 4.18 or a later one. -/
def KernelIsNew (config : Config) (t : FileTree) : Prop :=
  ∃ version, (Probe.firstLine config.kernelRelease t).bind KernelVersion.ofRelease? = some version ∧
    (4 < version.major ∨ version.major = 4 ∧ 18 ≤ version.minor)

/-- A list supports a model if the first chip that stands for it has the feature. -/
theorem value_chipSupports (chips : List Chip) :
    (chipSupports chips model).value = true ↔
      ∃ chip, findChip? chips model = some chip ∧ runtimePmFeature.toList ∈ chip.features := by
  unfold chipSupports
  cases findChip? chips model with
  | none => simp
  | some chip => simp

theorem has_of_read {p : Path} {content : Bytes} (h : t.read p = .ok content) : t.has p = true := by
  unfold FileTree.has
  unfold FileTree.read at h
  cases he : t.entry p with
  | error cause =>
    rw [he] at h
    cases h
  | ok node => rfl

/-- Of the lists of a driver series, the one that is looked into is the one that counts. -/
theorem find?_databaseFiles (major : Nat) :
    (databaseFiles config (some major)).find? t.has =
      if t.has (countedList config t major) then some (countedList config t major) else none := by
  show [listFile config major "", listFile config major "-server"].find? t.has = _
  unfold countedList
  rw [List.find?_cons, List.find?_cons]
  cases hdesktop : t.has (listFile config major "") with
  | true => simp [hdesktop]
  | false => cases hserver : t.has (listFile config major "-server") <;> simp [hserver]

/-- The card is looked up with success exactly if the driver lists it. -/
theorem isListed_iff :
    (isListed config driverMajor model t).value = true ↔ Listed config t model driverMajor := by
  cases driverMajor with
  | none =>
    constructor
    · intro h
      cases h
    · rintro ⟨⟩
  | some major =>
    have hlisted : Listed config t model (some major) ↔
        ∃ content chips, t.read (countedList config t major) = .ok content ∧
          parseChips? content = some chips ∧
            ∃ chip, findChip? chips model = some chip ∧
              runtimePmFeature.toList ∈ chip.features := by
      constructor
      · rintro ⟨hread, hparsed, hpassed, hnames, hfeature⟩
        exact ⟨_, _, hread, hparsed, _, findChip?_eq_some_iff.mpr ⟨_, _, rfl, hnames, hpassed⟩,
          hfeature⟩
      · rintro ⟨content, chips, hread, hparsed, chip, hfind, hfeature⟩
        obtain ⟨before, after, rfl, hnames, hpassed⟩ := findChip?_eq_some_iff.mp hfind
        exact .of hread hparsed hpassed hnames hfeature
    rw [hlisted]
    unfold isListed
    rw [find?_databaseFiles]
    by_cases hhas : t.has (countedList config t major) = true
    · rw [if_pos hhas]
      simp only
      cases hread : t.read (countedList config t major) with
      | error cause => simp
      | ok content =>
        simp only [Except.ok.injEq, exists_and_left, exists_eq_left']
        cases hparsed : parseChips? content with
        | none => simp
        | some chips => simpa using value_chipSupports chips
    · have hnone : ∀ content, t.read (countedList config t major) ≠ .ok content :=
        fun content h => hhas (has_of_read h)
      rw [if_neg hhas]
      simp [hnone]

theorem isLaptop_iff : (isLaptop config t).value = true ↔ OnLaptop config t := by
  unfold isLaptop OnLaptop
  cases (Probe.firstLine config.chassisType t).bind Text.readDecimal32? with
  | none => simp
  | some chassis => simp

/-- Versions are compared by their major number first. -/
theorem atLeast_iff {version : KernelVersion} :
    version.atLeast .firstWithRuntimeD3 = true ↔
      4 < version.major ∨ version.major = 4 ∧ 18 ≤ version.minor := by
  obtain ⟨major, minor, patch⟩ := version
  show (decide (4 < major) || (major == 4 && (decide (18 < minor) ||
    (minor == 18 && decide (0 ≤ patch))))) = true ↔ 4 < major ∨ major = 4 ∧ 18 ≤ minor
  simp only [Bool.or_eq_true, Bool.and_eq_true, decide_eq_true_eq, beq_iff_eq]
  omega

theorem kernelSupports_iff : (kernelSupports config t).value = true ↔ KernelIsNew config t := by
  unfold kernelSupports KernelIsNew
  cases (Probe.firstLine config.kernelRelease t).bind KernelVersion.ofRelease? with
  | none => simp
  | some version => simpa using atLeast_iff

/-! ## What the driver says -/

variable {address : Address} {capability : Capability} {line : List Char}

/-- The line tells the status of runtime D3, and this is what it says. -/
def TellsStatus (line status : List Char) : Prop :=
  Text.trim line = "Runtime D3 status:".toList ++ status

/-- The status begins with the word for enabled, in any case. -/
def BeginsEnabled (status : List Char) : Prop :=
  ∃ word rest, Text.trim status = word ++ rest ∧ Text.lowerAscii word = "enabled".toList

/-- The driver's account of the card can be read, and the first line in it that tells a status says
that runtime D3 is enabled. -/
def InUse (config : Config) (t : FileTree) (address : Address) : Prop :=
  ∃ text before line status after, t.readText (powerFile config address) = .ok text ∧
    Text.lines text = before ++ line :: after ∧
      (∀ other ∈ before, ∀ status, ¬ TellsStatus other status) ∧ TellsStatus line status ∧
        BeginsEnabled status

/-- What stands after the label in a line that begins with it, blanks aside, is the status that the
line tells. -/
theorem afterLabel?_eq_some_iff {status : List Char} :
    afterLabel? "Runtime D3 status:".toList line = some status ↔ TellsStatus line status := by
  unfold afterLabel? TellsStatus
  simp only
  by_cases hlabel : "Runtime D3 status:".toList <+: Text.trim line
  · obtain ⟨rest, hrest⟩ := hlabel
    rw [← hrest, if_pos (List.isPrefixOf_iff_prefix.mpr (List.prefix_append _ _)), List.drop_left,
      Option.some.injEq, List.append_cancel_left_eq]
  · rw [if_neg (mt List.isPrefixOf_iff_prefix.mp hlabel)]
    refine iff_of_false (fun h => by cases h) fun h => hlabel ?_
    rw [h]
    exact List.prefix_append _ _

/-- The beginning of a status is compared in lower case and without blanks around it. -/
theorem beginsEnabled_iff {status : List Char} :
    "enabled".toList.isPrefixOf (Text.lowerAscii (Text.trim status)) = true ↔
      BeginsEnabled status := by
  rw [List.isPrefixOf_iff_prefix]
  unfold BeginsEnabled
  constructor
  · intro h
    obtain ⟨after, hafter⟩ := h
    obtain ⟨word, rest, hsplit, hword, -⟩ := List.map_eq_append_iff.mp hafter.symm
    exact ⟨word, rest, hsplit, hword⟩
  · intro h
    obtain ⟨word, rest, hsplit, hword⟩ := h
    show _ <+: (Text.trim status).map Char.toLower
    rw [hsplit, List.map_append]
    exact hword ▸ List.prefix_append _ _

/-- A text is taken to say that runtime D3 is on by its first line that tells a status. -/
theorem statusEnabled_iff {text : List Char} :
    statusEnabled text = true ↔
      ∃ before line status after, Text.lines text = before ++ line :: after ∧
        (∀ other ∈ before, ∀ status, ¬ TellsStatus other status) ∧ TellsStatus line status ∧
          BeginsEnabled status := by
  have hnone : ∀ other, afterLabel? "Runtime D3 status:".toList other = none ↔
      ∀ status, ¬ TellsStatus other status := by
    intro other
    rw [Option.eq_none_iff_forall_ne_some]
    exact forall_congr' fun status => not_congr afterLabel?_eq_some_iff
  have hfirst : statusEnabled text = true ↔ ∃ status,
      (Text.lines text).findSome? (afterLabel? "Runtime D3 status:".toList) = some status ∧
        BeginsEnabled status := by
    unfold statusEnabled
    cases (Text.lines text).findSome? (afterLabel? "Runtime D3 status:".toList) with
    | none => simp
    | some status => simpa using beginsEnabled_iff
  rw [hfirst]
  simp only [List.findSome?_eq_some_iff, hnone, afterLabel?_eq_some_iff]
  constructor
  · intro h
    obtain ⟨status, ⟨before, line, after, hlines, hstatus, hbefore⟩, hword⟩ := h
    exact ⟨before, line, status, after, hlines, hbefore, hstatus, hword⟩
  · intro h
    obtain ⟨before, line, status, after, hlines, hbefore, hstatus, hword⟩ := h
    exact ⟨status, ⟨before, line, after, hlines, hstatus, hbefore⟩, hword⟩

/-- Runtime D3 is taken to be in use exactly if the driver's account of the card says so. -/
theorem currentlyEnabled_iff : currentlyEnabled config address t = true ↔ InUse config t address := by
  unfold currentlyEnabled InUse powerFile
  cases t.readText ((config.driverCards.child address.text).child "power") with
  | error cause => simp
  | ok text =>
    simp only [statusEnabled_iff, Except.ok.injEq, exists_and_left, exists_eq_left']

/-! ## The gates together -/

/-- A card is supported where that is forced, or on a laptop if the driver lists it or it has
D3hot. -/
theorem cardSupports_iff :
    (cardSupports config driverMajor model capability t).value = true ↔
      t.has config.runtimePmOverride = true ∨
        OnLaptop config t ∧ (Listed config t model driverMajor ∨ capability.d3hot = true) := by
  unfold cardSupports
  by_cases hoverride : t.has config.runtimePmOverride = true
  · rw [if_pos hoverride]
    simp [hoverride]
  · rw [if_neg hoverride, Noted.value_bind, ← isLaptop_iff, ← isListed_iff]
    cases (isListed config driverMajor model t).value with
    | true => simp [hoverride]
    | false =>
      cases capability.d3hot with
      | true => simp [hoverride]
      | false => simp [hoverride]

theorem value_resolve :
    (resolve config driverMajor address model capability t).value =
      { supported := (cardSupports config driverMajor model capability t).value &&
          (kernelSupports config t).value
        currentlyEnabled := currentlyEnabled config address t } := by
  simp only [resolve, Noted.value_bind]
  cases (cardSupports config driverMajor model capability t).value <;> rfl

/-- A card is eligible if the kernel is new enough and the card is supported. -/
theorem supported_iff :
    (resolve config driverMajor address model capability t).value.supported = true ↔
      KernelIsNew config t ∧ (t.has config.runtimePmOverride = true ∨
        OnLaptop config t ∧ (Listed config t model driverMajor ∨ capability.d3hot = true)) := by
  rw [value_resolve, Bool.and_eq_true, cardSupports_iff, kernelSupports_iff]
  exact and_comm

/-- Runtime D3 is supported just if the kernel is new enough and either the override is there, or the
machine is a laptop and the card is listed or can be woken from D3hot. So with the override the kernel
alone decides, and D3cold never does. Whether runtime D3 is in use already is told by the driver's
account of the card, by the first status in it, whatever the gates say. -/
theorem eligibility_follows_gates (config : Config) (driverMajor : Option Nat) (address : Address)
    (model : UInt16) (capability : Capability) (t : FileTree) :
    ((resolve config driverMajor address model capability t).value.supported = true ↔
      KernelIsNew config t ∧ (t.has config.runtimePmOverride = true ∨
        OnLaptop config t ∧ (Listed config t model driverMajor ∨ capability.d3hot = true))) ∧
    (∀ driverMajor' model' capability' t', t.has config.runtimePmOverride = true →
      t'.has config.runtimePmOverride = true →
        SameAnswer (t.readText config.kernelRelease) (t'.readText config.kernelRelease) →
          (resolve config driverMajor' address model' capability' t').value.supported =
            (resolve config driverMajor address model capability t).value.supported) ∧
    (∀ d3cold, resolve config driverMajor address model { capability with d3cold } t =
      resolve config driverMajor address model capability t) ∧
    (∀ driverMajor' model' capability' t',
      SameAnswer (t.readText (powerFile config address)) (t'.readText (powerFile config address)) →
        (resolve config driverMajor' address model' capability' t').value.currentlyEnabled =
          (resolve config driverMajor address model capability t).value.currentlyEnabled) ∧
    ((resolve config driverMajor address model capability t).value.currentlyEnabled = true ↔
      InUse config t address) := by
  refine ⟨supported_iff, ?override, fun d3cold => rfl, ?sameAccount, ?inUse⟩
  case override =>
    intro driverMajor' model' capability' t' h h' hrelease
    have hline := Probe.firstLine_congr hrelease
    rw [Bool.eq_iff_iff, supported_iff, supported_iff]
    unfold KernelIsNew
    simp only [h, h', hline, true_or]
  case sameAccount =>
    intro driverMajor' model' capability' t' hpower
    rw [value_resolve, value_resolve]
    exact currentlyEnabled_congr hpower
  case inUse =>
    rw [value_resolve]
    exact currentlyEnabled_iff

namespace Laptop

open HybridGraphics.Laptop (file)

/-- A list whose first two chips have ids that stand for no card, and in which another chip of the
same model follows the one that counts. -/
def list : String :=
  "[[[\"GA107\"], [\"0x11F91\"], [\"0x0001f91\", \"GTX 1650\", [\"runtimepm\"]], [\"1F91\"]]]"

/-- The files of a machine with this chassis, beside others. -/
def machine (chassis : String) (others : List (FileName × Node)) : FileTree :=
  ⟨[("m", .dir ([("chassis_type", file chassis), ("osrelease", file "5.15.0-76-generic\n"),
    ("doc", .dir [("nvidia-driver-470", .dir [("supported-gpus.json", file list)])])] ++ others))]⟩

def laptop : FileTree := machine "10\n" []

/-- An account in which another status follows the one that counts. -/
def account : String :=
  "Video Memory: Active\n Runtime D3 status:  ENABLED (fine)\nRuntime D3 status: Disabled\n"

/-- The laptop with the driver's account of the card. -/
def inUse : FileTree :=
  machine "10\n" [("nvidia-gpus", .dir [("0000:01:00.0", .dir [("power", file account)])])]

/-- The machine with the override. -/
def overridden (chassis : String) : FileTree := machine chassis [("runtimepm-override", file "")]

end Laptop

/-- On the laptop the card is listed, the chips before it standing for no card. With the override any
card may use runtime D3, whatever it promises, and on a desktop machine as well. What counts of the
driver's account is the first status, whichever case it is in. -/
theorem eligibility_follows_gates_laptop :
    (resolve HybridGraphics.Laptop.config (some 470) ⟨0, 1, 0, 0⟩ 0x1f91 {}
      Laptop.laptop).value.supported = true ∧
    (∀ driverMajor model capability,
      let e := (resolve HybridGraphics.Laptop.config driverMajor ⟨0, 1, 0, 0⟩ model capability
        (Laptop.overridden "3\n")).value
      e.supported = true ∧ e.currentlyEnabled = false) ∧
    (resolve HybridGraphics.Laptop.config (some 470) ⟨0, 1, 0, 0⟩ 0x1f91 {}
      Laptop.inUse).value.currentlyEnabled = true := by
  have hgates := eligibility_follows_gates HybridGraphics.Laptop.config (some 470) ⟨0, 1, 0, 0⟩
    0x1f91 {}
  refine ⟨?listed, ?overridden, ?inUse⟩
  case listed =>
    refine (hgates Laptop.laptop).1.mpr ⟨⟨⟨5, 15, 0⟩, by decide +kernel, by decide⟩,
      .inr ⟨?_, .inl ?_⟩⟩
    · exact ⟨10, by decide, by decide +kernel⟩
    · have hread : Laptop.laptop.read (countedList HybridGraphics.Laptop.config Laptop.laptop 470) =
          .ok (Text.encode Laptop.list.toList) :=
        eq_ok_of_toOption (by decide +kernel)
      have hparsed : parseChips? (Text.encode Laptop.list.toList) =
          some ([⟨"GA107".toList, [], []⟩, ⟨"0x11F91".toList, [], []⟩] ++
            ⟨"0x0001f91".toList, "GTX 1650".toList, ["runtimepm".toList]⟩ ::
              [⟨"1F91".toList, [], []⟩]) := by
        decide +kernel
      refine .of hread hparsed ?_ (modelNumber?_eq_some_iff.mp (by decide +kernel)) (by decide)
      simp only [← modelNumber?_eq_some_iff]
      decide +kernel
  case overridden =>
    intro driverMajor model capability e
    obtain ⟨hsupported, hsame, -, -, -⟩ := hgates (Laptop.overridden "10\n")
    obtain ⟨-, -, -, hinUse, -⟩ := hgates (Laptop.overridden "3\n")
    have hrelease : ∀ chassis ∈ ["10\n", "3\n"],
        (Laptop.overridden chassis).readText HybridGraphics.Laptop.config.kernelRelease =
          .ok "5.15.0-76-generic\n".toList := by
      decide +kernel
    constructor
    · rw [hsame driverMajor model capability (Laptop.overridden "3\n") (by decide +kernel)
        (by decide +kernel) ?_, hsupported]
      · exact ⟨⟨⟨5, 15, 0⟩, by decide +kernel, by decide⟩, .inl (by decide +kernel)⟩
      · rw [hrelease _ (by decide), hrelease _ (by decide)]
        exact .refl _
    · rw [hinUse driverMajor model capability _ (.refl _)]
      decide +kernel
  case inUse =>
    have hread : Laptop.inUse.readText (powerFile HybridGraphics.Laptop.config ⟨0, 1, 0, 0⟩) =
        .ok Laptop.account.toList := eq_ok_of_toOption (by decide +kernel)
    have hlines : Text.lines Laptop.account.toList = ["Video Memory: Active".toList] ++
        " Runtime D3 status:  ENABLED (fine)".toList :: ["Runtime D3 status: Disabled".toList] := by
      decide +kernel
    have hstatus : TellsStatus " Runtime D3 status:  ENABLED (fine)".toList
        "  ENABLED (fine)".toList := afterLabel?_eq_some_iff.mp (by decide +kernel)
    have hword : BeginsEnabled "  ENABLED (fine)".toList := beginsEnabled_iff.mp (by decide +kernel)
    refine (hgates Laptop.inUse).2.2.2.2.mpr
      ⟨_, _, _, _, _, hread, hlines, ?_, hstatus, hword⟩
    simp only [List.forall_mem_singleton, ← afterLabel?_eq_some_iff]
    intro status h
    have hnone : afterLabel? "Runtime D3 status:".toList "Video Memory: Active".toList = none := by
      decide +kernel
    cases hnone.symm.trans h

end HybridGraphics.RuntimePm
