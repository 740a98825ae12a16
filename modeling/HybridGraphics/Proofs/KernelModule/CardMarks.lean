import HybridGraphics.KernelModule.Mark
import HybridGraphics.Proofs.FileTree.Listing
import HybridGraphics.Proofs.Pci.Address
import HybridGraphics.Proofs.Text.ByteOrder
import HybridGraphics.Proofs.Text.Spelling
import HybridGraphics.Proofs.Text.Utf8

/-!
# The card that is known by its mark

What a mark says of a card is read from its end. `MarksCard` is the form of a name that is read at all
(`parseCardMark?_eq_some_iff`). Neither number holds a dash, so a name is cut in one way only, and the
mark of a card is read as that card (`parseCardMark?_cardMark`).

Of several marks of one vendor's cards the first in order counts. The machine lists names as bytes, in
any order, and not all of them need be text. `residualAmong` is the choice from such a listing:
the card of the least name, by its bytes, that marks one. Nothing else of the listing enters it.
-/

namespace HybridGraphics.KernelModule

open Pci (Address Device Vendor)
open Text (HexNumeral)

/-! ## What a mark says -/

/-- The name marks the card: an address after the beginning of all marks, and then vendor and model,
each after a dash and the base mark of its number. -/
def MarksCard (name : List Char) (d : Device) : Prop :=
  ∃ address vendor model,
    name = cardMarkStart ++ (address ++ '-' :: ('0' :: 'x' :: vendor ++ '-' :: '0' :: 'x' :: model)) ∧
    Address.parse? address = some d.address ∧ HexNumeral vendor d.vendor.toNat ∧
      HexNumeral model d.model.toNat ∧ d.bootVga = false ∧ d.outputs = .unknown

/-- A number with a base mark is read exactly if digits stand after the mark, and it is theirs. -/
theorem readMarkedHex?_eq_some_iff {text : List Char} {n : UInt16} :
    readMarkedHex? text = some n ↔ ∃ digits, text = '0' :: 'x' :: digits ∧ HexNumeral digits n.toNat := by
  constructor
  · intro h
    unfold readMarkedHex? at h
    split at h
    next digits => exact ⟨digits, rfl, Text.readHex16?_eq_some_iff.mp h⟩
    next => cases h
  · rintro ⟨digits, rfl, hdigits⟩
    exact Text.readHex16?_eq_some_iff.mpr hdigits

/-- A number after its base mark holds no dash, so the last dash stands before it. -/
theorem dash_not_mem_reverse {digits : List Char} {n : Nat} (h : HexNumeral digits n) :
    '-' ∉ ('0' :: 'x' :: digits).reverse := by
  have hdash : '-' ∉ digits := h.not_mem (by decide) (by decide)
  simp [hdash]

/-- A name that is read as a mark is one, of the card that was read. -/
theorem marksCard_of_parse {name : FileName} {d : Device} (h : parseCardMark? name = some d) :
    MarksCard name.toList d := by
  unfold parseCardMark? at h
  split at h
  next hstart =>
    obtain ⟨rest, hrest, h⟩ := Option.bind_eq_some_iff.mp h
    obtain ⟨⟨modelPart, upToModel⟩, hmodelCut, h⟩ := Option.bind_eq_some_iff.mp h
    obtain ⟨⟨vendorPart, upToVendor⟩, hvendorCut, h⟩ := Option.bind_eq_some_iff.mp h
    obtain ⟨model, hmodel, h⟩ := Option.bind_eq_some_iff.mp h
    obtain ⟨vendor, hvendor, h⟩ := Option.bind_eq_some_iff.mp h
    obtain ⟨address, haddress, h⟩ := Option.bind_eq_some_iff.mp h
    cases h
    obtain ⟨modelDigits, hmodelPart, hmodel⟩ := readMarkedHex?_eq_some_iff.mp hmodel
    obtain ⟨vendorDigits, hvendorPart, hvendor⟩ := readMarkedHex?_eq_some_iff.mp hvendor
    refine ⟨upToVendor.reverse, vendorDigits, modelDigits, ?_, haddress, hvendor, hmodel, rfl, rfl⟩
    have hname : name.toList = cardMarkStart ++ rest := by
      obtain ⟨rest', hrest'⟩ := List.isPrefixOf_iff_prefix.mp hstart
      rw [← hrest', List.drop_left, Option.some.injEq] at hrest
      rw [← hrest', hrest]
    -- the cuts were made from the end
    have hcut := Text.eq_of_splitAtFirst hmodelCut
    rw [Text.eq_of_splitAtFirst hvendorCut, List.reverse_eq_iff] at hcut
    rw [hname, hcut]
    simp only [List.reverse_append, List.reverse_cons, hmodelPart, hvendorPart]
    simp
  next => cases h

/-- The other way round, a mark is read, and as the card that it marks. -/
theorem parse_of_marksCard {name : FileName} {d : Device} (h : MarksCard name.toList d) :
    parseCardMark? name = some d := by
  obtain ⟨address, vendor, model, hname, haddress, hvendor, hmodel, hvga, houtputs⟩ := h
  have hstart : cardMarkStart.isPrefixOf name.toList = true := by
    rw [hname]
    exact List.isPrefixOf_iff_prefix.mpr (List.prefix_append _ _)
  have hrest : (address ++ '-' :: ('0' :: 'x' :: vendor ++ '-' :: '0' :: 'x' :: model)).reverse =
      ('0' :: 'x' :: model).reverse ++ '-' :: (('0' :: 'x' :: vendor).reverse
        ++ '-' :: address.reverse) := by
    simp
  have hmodelPart : readMarkedHex? ('0' :: 'x' :: model) = some d.model :=
    readMarkedHex?_eq_some_iff.mpr ⟨model, rfl, hmodel⟩
  have hvendorPart : readMarkedHex? ('0' :: 'x' :: vendor) = some d.vendor :=
    readMarkedHex?_eq_some_iff.mpr ⟨vendor, rfl, hvendor⟩
  unfold parseCardMark?
  rw [if_pos hstart, hname, List.drop_left]
  simp only [Option.bind_eq_bind, Option.bind_some, hrest,
    Text.splitAtFirst_append_cons _ _ (dash_not_mem_reverse hmodel),
    Text.splitAtFirst_append_cons _ _ (dash_not_mem_reverse hvendor), List.reverse_reverse,
    hmodelPart, hvendorPart, haddress]
  cases d
  cases hvga
  cases houtputs
  rfl

/-- The names that are read as marks, and the card each of them is read as. -/
theorem parseCardMark?_eq_some_iff {name : FileName} {d : Device} :
    parseCardMark? name = some d ↔ MarksCard name.toList d :=
  ⟨marksCard_of_parse, parse_of_marksCard⟩

/-- The mark of a card is read as that card. -/
theorem parseCardMark?_cardMark (address : Address) (vendor : Vendor) (model : UInt16) :
    parseCardMark? (cardMark address vendor model) =
      some { vendor, model, address, bootVga := false, outputs := .unknown } := by
  have hnumeral : ∀ n : UInt16, HexNumeral (Text.hexPadded 4 n.toNat) n.toNat := fun n =>
    Text.readHex16?_eq_some_iff.mp (Text.readHex16?_hexPadded n 4)
  refine parseCardMark?_eq_some_iff.mpr ⟨address.chars, Text.hexPadded 4 vendor.toNat,
    Text.hexPadded 4 model.toNat, ?_, ?_, hnumeral vendor, hnumeral model, rfl, rfl⟩
  · simp [cardMark]
  · have hread := address.parse?_text
    rwa [Address.text, String.toList_ofList] at hread

/-! ## The choice among several -/

/-- The names in a listing of the machine's that are text. -/
def textNames (listing : List Bytes) : List FileName :=
  listing.filterMap fun name => (Text.decode? name).map String.ofList

/-- The bytes of a name. -/
def nameBytes (name : FileName) : Bytes := Text.encode name.toList

/-- A name is among those that are text if its bytes are listed. -/
theorem mem_textNames_iff {listing : List Bytes} {name : FileName} :
    name ∈ textNames listing ↔ nameBytes name ∈ listing := by
  unfold textNames nameBytes
  rw [List.mem_filterMap]
  constructor
  · rintro ⟨bytes, hmem, htext⟩
    obtain ⟨text, hdecode, rfl⟩ := Option.map_eq_some_iff.mp htext
    rwa [String.toList_ofList, Text.encode_of_decode? hdecode]
  · intro hmem
    exact ⟨_, hmem, by rw [Text.decode?_encode, Option.map_some, String.ofList_toList]⟩

/-- The order of names is the order of their bytes. -/
theorem nameBytes_le_iff {name other : FileName} : nameBytes name ≤ nameBytes other ↔ name ≤ other := by
  rw [← String.not_lt, ← List.not_lt, nameBytes, nameBytes, Text.encode_lt_encode_iff, String.lt_iff]

/-- The card of a vendor whose mark comes first, among the names that the machine lists. -/
def residualAmong (vendor : Vendor) (listing : List Bytes) : Option Device :=
  ((FileTree.sortNames (textNames listing)).filterMap parseCardMark?).find? (·.vendor == vendor)

/-- The name is text, and read as the mark of this card of the vendor. -/
def Marks (vendor : Vendor) (name : Bytes) (d : Device) : Prop :=
  ∃ text, Text.decode? name = some text ∧ MarksCard text d ∧ d.vendor = vendor

/-- The names in the listing that mark a card of the vendor. -/
def marksIn (vendor : Vendor) (listing : List Bytes) : Set Bytes :=
  {name | name ∈ listing ∧ ∃ d, Marks vendor name d}

theorem marks_nameBytes_iff {vendor : Vendor} {name : FileName} {d : Device} :
    Marks vendor (nameBytes name) d ↔ parseCardMark? name = some d ∧ d.vendor = vendor := by
  unfold Marks nameBytes
  rw [parseCardMark?_eq_some_iff, Text.decode?_encode]
  constructor
  · rintro ⟨text, htext, h⟩
    cases htext
    exact h
  · exact fun h => ⟨_, rfl, h⟩

/-- A name that marks a card is text. -/
theorem Marks.eq_nameBytes {vendor : Vendor} {name : Bytes} {d : Device} (h : Marks vendor name d) :
    ∃ text, name = nameBytes text := by
  obtain ⟨text, hdecode, -⟩ := h
  exact ⟨String.ofList text, by rw [nameBytes, String.toList_ofList, Text.encode_of_decode? hdecode]⟩

/-- The test that the first mark of a vendor's card passes. -/
theorem any_parseCardMark?_iff {vendor : Vendor} {name : FileName} :
    (parseCardMark? name).any (·.vendor == vendor) = true ↔ ∃ d, Marks vendor (nameBytes name) d := by
  simp only [marks_nameBytes_iff, Option.any_eq_true, beq_iff_eq]

/-- What is least among the names as texts is least among all that are listed, as bytes. -/
theorem isLeast_marksIn_iff {vendor : Vendor} {listing : List Bytes} {name : FileName} :
    IsLeast {other | other ∈ textNames listing ∧
      (parseCardMark? other).any (·.vendor == vendor) = true} name ↔
        IsLeast (marksIn vendor listing) (nameBytes name) := by
  have hmem : ∀ name, (name ∈ textNames listing ∧
      (parseCardMark? name).any (·.vendor == vendor) = true) ↔
        nameBytes name ∈ marksIn vendor listing := fun name =>
    and_congr mem_textNames_iff any_parseCardMark?_iff
  refine and_congr (hmem name) ⟨fun h bytes hbytes => ?_, fun h other hother => ?_⟩
  · obtain ⟨d, hmarks⟩ := hbytes.2
    obtain ⟨other, rfl⟩ := hmarks.eq_nameBytes
    exact nameBytes_le_iff.mpr (h ((hmem other).mpr hbytes))
  · exact nameBytes_le_iff.mp (h ((hmem other).mp hother))

/-- Of the marks in a listing the least counts, by its bytes. -/
theorem residualAmong_eq_some_iff {vendor : Vendor} {listing : List Bytes} {d : Device} :
    residualAmong vendor listing = some d ↔
      ∃ name, IsLeast (marksIn vendor listing) name ∧ Marks vendor name d := by
  unfold residualAmong
  rw [List.find?_filterMap, Option.bind_eq_some_iff]
  simp only [FileTree.find?_sortNames_eq_some_iff, isLeast_marksIn_iff]
  constructor
  · intro h
    obtain ⟨name, hleast, hread⟩ := h
    obtain ⟨d', hmarks⟩ := hleast.1.2
    cases hread.symm.trans (marks_nameBytes_iff.mp hmarks).1
    exact ⟨_, hleast, hmarks⟩
  · intro h
    obtain ⟨bytes, hleast, hmarks⟩ := h
    obtain ⟨name, rfl⟩ := hmarks.eq_nameBytes
    exact ⟨name, hleast, (marks_nameBytes_iff.mp hmarks).1⟩

/-- Neither the mark of a driver nor a name that is no text nor another vendor's card counts, and the
first card's mark is not listed first. -/
example :
    residualAmong 0x10de
      [nameBytes "u-d-c-nvidia-was-loaded", nameBytes "u-d-c-gpu-0000:02:00.0-0x10de-0x2191",
        [0xff], nameBytes "u-d-c-gpu-0000:01:00.0-0x10de-0x1f95",
        nameBytes "u-d-c-gpu-0000:00:01.0-0x1002-0x1636"] =
      some { vendor := 0x10de, model := 0x1f95, address := ⟨0, 1, 0, 0⟩ } := by decide +kernel

/-- No card of the vendor is found only where no name marks one. -/
theorem residualAmong_eq_none_iff {vendor : Vendor} {listing : List Bytes} :
    residualAmong vendor listing = none ↔ marksIn vendor listing = ∅ := by
  unfold residualAmong
  rw [List.find?_eq_none, Set.eq_empty_iff_forall_notMem]
  constructor
  · rintro hnone bytes ⟨hmem, d, hmarks⟩
    obtain ⟨name, rfl⟩ := hmarks.eq_nameBytes
    obtain ⟨hread, hvendor⟩ := marks_nameBytes_iff.mp hmarks
    have hlisted : name ∈ FileTree.sortNames (textNames listing) :=
      FileTree.mem_sortNames.mpr (mem_textNames_iff.mpr hmem)
    exact hnone d (List.mem_filterMap.mpr ⟨name, hlisted, hread⟩) (beq_iff_eq.mpr hvendor)
  · intro hnone d hd hvendor
    obtain ⟨name, hlisted, hread⟩ := List.mem_filterMap.mp hd
    have hmem := mem_textNames_iff.mp (FileTree.mem_sortNames.mp hlisted)
    exact hnone _ ⟨hmem, d, marks_nameBytes_iff.mpr ⟨hread, beq_iff_eq.mp hvendor⟩⟩

/-- Only the marks of the vendor's cards count, wherever they stand in the listing. -/
theorem residualAmong_congr {vendor : Vendor} {listing listing' : List Bytes}
    (h : marksIn vendor listing = marksIn vendor listing') :
    residualAmong vendor listing = residualAmong vendor listing' :=
  Option.ext fun d => by rw [residualAmong_eq_some_iff, residualAmong_eq_some_iff, h]

theorem textNames_map_nameBytes (names : List FileName) : textNames (names.map nameBytes) = names := by
  have hread : ∀ name : FileName,
      ((fun bytes => (Text.decode? bytes).map String.ofList) ∘ nameBytes) name = some name := by
    intro name
    rw [Function.comp_apply, nameBytes, Text.decode?_encode, Option.map_some, String.ofList_toList]
  unfold textNames
  rw [List.filterMap_map, List.filterMap_congr fun name _ => hread name, List.filterMap_some]

/-- Where the directory cannot be listed there is no such card, and otherwise it is the one chosen
among the names as the machine has them. -/
theorem residualCard_eq (config : Config) (vendor : Vendor) (t : FileTree) :
    residualCard config vendor t = (t.list config.detectionDir).toOption.bind fun names =>
      residualAmong vendor (names.map nameBytes) := by
  unfold residualCard FileTree.listSorted residualAmong
  cases t.list config.detectionDir with
  | ok names => simp only [textNames_map_nameBytes]; rfl
  | error cause => rfl

/-- The mark of a card is read as that card, and a name is read as a card only if it has the form of
a mark. Of the names in a directory, in whatever order and among whatever others they are listed, the
one that is least by its bytes among the marks of a vendor's cards decides. -/
theorem residual_card_of_least_mark :
    (∀ (address : Address) (vendor : Vendor) (model : UInt16),
      parseCardMark? (cardMark address vendor model) =
        some { vendor, model, address, bootVga := false, outputs := .unknown }) ∧
    (∀ (name : FileName) (d : Device), parseCardMark? name = some d ↔ MarksCard name.toList d) ∧
    (∀ (vendor : Vendor) (listing : List Bytes),
      (∀ d, residualAmong vendor listing = some d ↔
        ∃ name, IsLeast (marksIn vendor listing) name ∧ Marks vendor name d) ∧
      (residualAmong vendor listing = none ↔ marksIn vendor listing = ∅) ∧
      ∀ listing', marksIn vendor listing' = marksIn vendor listing →
        residualAmong vendor listing' = residualAmong vendor listing) ∧
    (∀ (config : Config) (vendor : Vendor) (t : FileTree),
      residualCard config vendor t = (t.list config.detectionDir).toOption.bind fun names =>
        residualAmong vendor (names.map nameBytes)) :=
  ⟨parseCardMark?_cardMark, fun _ _ => parseCardMark?_eq_some_iff,
    fun _ _ => ⟨fun _ => residualAmong_eq_some_iff, residualAmong_eq_none_iff,
      fun _ h => residualAmong_congr h⟩,
    residualCard_eq⟩

end HybridGraphics.KernelModule
