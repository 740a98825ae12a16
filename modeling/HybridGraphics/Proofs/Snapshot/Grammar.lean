import HybridGraphics.Proofs.Snapshot.Lossless
import HybridGraphics.Proofs.Text.Lines
import HybridGraphics.Proofs.Text.Spelling
import HybridGraphics.Proofs.Text.Utf8

/-!
# The grammar of a snapshot

`Record` is the grammar of one record, written down apart from the reader, and `linesOf` are the
lines of a file as they are commonly cut, without a carriage return at their ends. The reader keeps
the carriage returns, but it trims every line that it looks at, so it does not matter (`parse_eq`).

What the reader returns is then told by the lines alone (`parse_accepts_exactly_the_format`): the
first of the lines that are records, up to the limit, unless a line that is no text stands before
the first record past it. So whatever follows that record is without effect.
-/

namespace HybridGraphics

namespace Pci.Address

/-- Fields are an address if each is a numeral of one of its numbers. -/
theorem ofFields?_eq_some_iff {domain bus slot func : List Char} {a : Address} :
    ofFields? domain bus slot func = some a ↔
      Text.HexNumeral domain a.domain.toNat ∧ Text.HexNumeral bus a.bus.toNat ∧
        Text.HexNumeral slot a.slot.toNat ∧ Text.HexNumeral func a.func.toNat := by
  simp only [ofFields?, Option.bind_eq_bind, Option.bind_eq_some_iff, Text.readHex16?_eq_some_iff,
    Text.readHex8?_eq_some_iff]
  constructor
  · rintro ⟨domain, hdomain, bus, hbus, slot, hslot, func, hfunc, h⟩
    cases h
    exact ⟨hdomain, hbus, hslot, hfunc⟩
  · rintro ⟨hdomain, hbus, hslot, hfunc⟩
    exact ⟨a.domain, hdomain, a.bus, hbus, a.slot, hslot, a.func, hfunc, rfl⟩

end Pci.Address

namespace Snapshot

open Pci (Device Address)

/-! ## One record -/

/-- The text of a record, without blanks around it, and the device that it tells of. -/
inductive Record : List Char → Device → Prop
  | of {vendor model domain bus slot func flag : List Char} {d : Device}
      (isVendor : Text.HexNumeral vendor d.vendor.toNat)
      (isModel : Text.HexNumeral model d.model.toNat)
      (isDomain : Text.HexNumeral domain d.address.domain.toNat)
      (isBus : Text.HexNumeral bus d.address.bus.toNat)
      (isSlot : Text.HexNumeral slot d.address.slot.toNat)
      (isFunc : Text.HexNumeral func d.address.func.toNat)
      (isFlag : Text.trim flag = [if d.bootVga then '1' else '0'])
      (untold : d.outputs = .unknown) :
      Record
        ((vendor ++ ':' :: model) ++ ';' ::
          ((domain ++ ':' :: (bus ++ ':' :: (slot ++ ':' :: func))) ++ ';' :: flag)) d

/-- A flag is a digit, one or zero, with blanks around it or none. -/
theorem parseFlag?_eq_some_iff {flag : List Char} {b : Bool} :
    parseFlag? flag = some b ↔ Text.trim flag = [if b then '1' else '0'] := by
  unfold parseFlag?
  simp only
  by_cases hzero : Text.trim flag = ['0']
  · rw [if_pos hzero, hzero]
    cases b <;> decide
  · rw [if_neg hzero]
    by_cases hone : Text.trim flag = ['1']
    · rw [if_pos hone, hone]
      cases b <;> decide
    · rw [if_neg hone]
      cases b with
      | false => simp [hzero]
      | true => simp [hone]

/-- What is read as a record is one, of the device that was read. -/
theorem record_of_parse {text : List Char} {d : Device} (h : parseRecord? text = some d) :
    Record text d := by
  have hjoined := Text.joined_pieces ';' text
  unfold parseRecord? at h
  split at h
  next ids address flag hfields =>
    rw [hfields] at hjoined
    have haddress := Text.joined_pieces ':' address
    unfold parseFields? at h
    simp only [Option.bind_eq_bind, Option.bind_eq_some_iff] at h
    obtain ⟨⟨vendor, model⟩, hids, h⟩ := h
    split at h
    next domain bus slot func hparts =>
      rw [hparts] at haddress
      simp only [Option.bind_eq_some_iff] at h
      obtain ⟨bootVga, hflag, v, hvendor, m, hmodel, a, ha, h⟩ := h
      cases h
      obtain ⟨hdomain, hbus, hslot, hfunc⟩ := Address.ofFields?_eq_some_iff.mp ha
      rw [← hjoined, ← haddress, Text.eq_of_splitAtFirst hids]
      exact .of (Text.readHex16?_eq_some_iff.mp hvendor) (Text.readHex16?_eq_some_iff.mp hmodel)
        hdomain hbus hslot hfunc (parseFlag?_eq_some_iff.mp hflag) rfl
    next => cases h
  next => cases h

/-- The other way round, every record is read, and as the device that it tells of. -/
theorem parse_of_record {text : List Char} {d : Device} (h : Record text d) :
    parseRecord? text = some d := by
  cases h with
  | @of vendor model domain bus slot func flag _ isVendor isModel isDomain isBus isSlot isFunc isFlag
      untold =>
    have hcolon : ∀ {text : List Char} {n : Nat}, Text.HexNumeral text n → ':' ∉ text := fun h =>
      h.not_mem (by decide) (by decide)
    have hsemicolon : ∀ {text : List Char} {n : Nat}, Text.HexNumeral text n → ';' ∉ text :=
      fun h => h.not_mem (by decide) (by decide)
    have hflag : ';' ∉ flag := by
      intro hmem
      have hin : ';' ∈ Text.trim flag := Text.mem_trim (by decide) hmem
      rw [isFlag] at hin
      have hne : ';' ≠ if d.bootVga then '1' else '0' := by
        cases d.bootVga <;> decide
      exact hne (List.mem_singleton.mp hin)
    have hids : ';' ∉ vendor ++ ':' :: model := by
      simp [hsemicolon isVendor, hsemicolon isModel]
    have haddress : ';' ∉ domain ++ ':' :: (bus ++ ':' :: (slot ++ ':' :: func)) := by
      simp [hsemicolon isDomain, hsemicolon isBus, hsemicolon isSlot, hsemicolon isFunc]
    unfold parseRecord?
    rw [Text.pieces_cons_of_not_mem hids, Text.pieces_cons_of_not_mem haddress, Text.pieces_of_not_mem hflag]
    simp only [parseFields?, Text.splitAtFirst_append_cons ':' _ (hcolon isVendor),
      Text.pieces_cons_of_not_mem (hcolon isDomain), Text.pieces_cons_of_not_mem (hcolon isBus),
      Text.pieces_cons_of_not_mem (hcolon isSlot), Text.pieces_of_not_mem (hcolon isFunc),
      parseFlag?_eq_some_iff.mpr isFlag, Text.readHex16?_eq_some_iff.mpr isVendor,
      Text.readHex16?_eq_some_iff.mpr isModel,
      Address.ofFields?_eq_some_iff.mpr ⟨isDomain, isBus, isSlot, isFunc⟩, Option.bind_eq_bind,
      Option.bind_some]
    rw [← untold]

theorem parseRecord?_eq_some_iff {text : List Char} {d : Device} :
    parseRecord? text = some d ↔ Record text d :=
  ⟨record_of_parse, parse_of_record⟩

/-! ## The lines of a file -/

/-- The lines of a file, without a carriage return at the end of a line that a newline ends. -/
def linesOf (content : Bytes) : List Bytes :=
  (Text.terminated (Text.pieces (· == 0x0a) content)).map fun (line, ended) =>
    if ended then Text.dropLastIf 0x0d line else line

/-- A carriage return at the end of a line is a blank, and says nothing. -/
theorem textOf?_append_return (line : Bytes) : textOf? (line ++ [0x0d]) = textOf? line := by
  have hreturn : Text.isBlank '\r' = true := by decide
  unfold textOf?
  rw [Text.decode?_append_return]
  cases Text.decode? line with
  | none => rfl
  | some text =>
    show some (Text.trim (text ++ ['\r'])) = some (Text.trim text)
    rw [Text.trim_append_blank hreturn]

/-- Lines that say the same are read as the same devices. -/
theorem parseLines_congr : ∀ {lines others : List Bytes} (records : List Device),
    lines.map textOf? = others.map textOf? → parseLines lines records = parseLines others records
  | [], [], records, _ => rfl
  | line :: lines, other :: others, records, h => by
    obtain ⟨hfirst, hrest⟩ := List.cons.inj h
    have ih := fun records => @parseLines_congr lines others records hrest
    rw [parseLines_cons, parseLines_cons, hfirst]
    simp only [ih]

/-- A snapshot is read by its lines, whichever way they end. -/
theorem parse_eq (content : Bytes) : parse content = parseLines (linesOf content) [] := by
  refine parseLines_congr [] ?_
  unfold byteLines linesOf
  rw [List.map_map, List.map_map]
  refine List.map_congr_left fun (line, ended) _ => ?_
  cases ended with
  | false => rfl
  | true => exact (Text.dropLastIf_unseen textOf?_append_return line).symm

/-- The lines of a file that goes on after a newline are the ones up to there, and then more. -/
theorem linesOf_append (start tail : Bytes) :
    linesOf (start ++ 0x0a :: tail) = linesOf (start ++ [0x0a]) ++ linesOf tail := by
  have hcut : ∀ more, linesOf (start ++ 0x0a :: more) =
      (Text.pieces (· == 0x0a) start).map (Text.dropLastIf 0x0d) ++ linesOf more := by
    intro more
    unfold linesOf
    rw [Text.pieces_append_sep (· == (0x0a : UInt8)) 0x0a rfl, Text.terminated_append (Text.pieces_ne_nil _ _),
      List.map_append, List.map_map]
    rfl
  have hnone : linesOf [] = [] := rfl
  rw [hcut tail, hcut [], hnone, List.append_nil]

/-! ## What is read of them -/

variable {lines more : List Bytes}

/-- A line that is no text, before the first record past the limit. -/
def BrokenOff (lines : List Bytes) : Prop :=
  ∃ before line after, lines = before ++ line :: after ∧ (∀ text, Text.encode text ≠ line) ∧
    (before.filterMap recordOf?).length ≤ Pci.maxDevices

/-- A line that breaks the reading off is one that cannot be read within the limit of records. -/
theorem brokenOff_iff : BrokenOff lines ↔ UnreadableWithin Pci.maxDevices lines := by
  have htext : ∀ line, (∀ text, Text.encode text ≠ line) ↔ Text.decode? line = none := by
    intro line
    rw [Option.eq_none_iff_forall_ne_some]
    constructor
    · exact fun h text hd => h text (Text.encode_of_decode? hd)
    · rintro h text rfl
      exact h text (Text.decode?_encode text)
  have hcount : ∀ before : List Bytes,
      (before.filterMap recordOf?).length = before.countP isRecord := by
    intro before
    rw [List.length_filterMap_eq_countP]
    exact List.countP_congr fun line _ => by rw [isRecord_eq]
  unfold BrokenOff UnreadableWithin
  simp only [htext, hcount]

/-- After a record too many, nothing is read any more. -/
theorem parseLines_append : ∀ (lines : List Bytes) (records : List Device),
    records.length ≤ Pci.maxDevices →
    Pci.maxDevices < records.length + (lines.filterMap recordOf?).length →
      parseLines (lines ++ more) records = parseLines lines records
  | [], records, hlen, hmany => by
    rw [List.filterMap_nil, List.length_nil] at hmany
    omega
  | line :: rest, records, hlen, hmany => by
    have ih := parseLines_append rest
    rw [List.cons_append, parseLines_cons, parseLines_cons]
    have hrecord : recordOf? line = (textOf? line).bind parseRecord? := rfl
    cases ht : textOf? line with
    | none => rfl
    | some text =>
      rw [ht, Option.bind_some] at hrecord
      simp only
      cases hr : parseRecord? text with
      | none =>
        rw [List.filterMap_cons_none (hrecord.trans hr)] at hmany
        simp only [ih records hlen hmany]
      | some record =>
        rw [List.filterMap_cons_some (hrecord.trans hr), List.length_cons] at hmany
        simp only
        split
        next => rfl
        next hroom =>
          refine ih _ ?_ ?_ <;> rw [List.length_append, List.length_singleton] <;> omega

/-- A line is a record just if it is a text that the grammar derives without the blanks around it.
A file is read as the records among its lines, up to the limit; that fails just if a line which is
no text comes before the first record past the limit. What follows that record is not looked at. -/
theorem parse_accepts_exactly_the_format :
    (∀ (line : Bytes) (d : Device),
      recordOf? line = some d ↔ ∃ text, Text.encode text = line ∧ Record (Text.trim text) d) ∧
    (∀ content : Bytes,
      (BrokenOff (linesOf content) → (parse content).value = .error .invalidText) ∧
      (¬ BrokenOff (linesOf content) →
        (parse content).value =
          .ok (((linesOf content).filterMap recordOf?).take Pci.maxDevices))) ∧
    (∀ start tail : Bytes,
      Pci.maxDevices < ((linesOf (start ++ [0x0a])).filterMap recordOf?).length →
        parse (start ++ 0x0a :: tail) = parse (start ++ [0x0a])) := by
  have hread : ∀ content : Bytes,
      (BrokenOff (linesOf content) ∧ (parse content).value = .error .invalidText) ∨
      (¬ BrokenOff (linesOf content) ∧ (parse content).value =
        .ok (((linesOf content).filterMap recordOf?).take Pci.maxDevices)) := by
    intro content
    rw [parse_eq, brokenOff_iff]
    exact parseLines_value (linesOf content) [] (Nat.zero_le _)
  refine ⟨?record, fun content => ⟨?broken, ?whole⟩, ?unseen⟩
  case record =>
    intro line d
    unfold recordOf? textOf?
    simp only [Option.bind_eq_some_iff, Option.map_eq_some_iff, parseRecord?_eq_some_iff]
    constructor
    · rintro ⟨_, ⟨text, hd, rfl⟩, hrecord⟩
      exact ⟨text, Text.encode_of_decode? hd, hrecord⟩
    · rintro ⟨text, rfl, hrecord⟩
      exact ⟨_, ⟨text, Text.decode?_encode text, rfl⟩, hrecord⟩
  case broken =>
    intro h
    rcases hread content with ⟨-, hvalue⟩ | ⟨hnot, -⟩
    · exact hvalue
    · exact absurd h hnot
  case whole =>
    intro h
    rcases hread content with ⟨hbroken, -⟩ | ⟨-, hvalue⟩
    · exact absurd hbroken h
    · exact hvalue
  case unseen =>
    intro start tail hmany
    rw [parse_eq, parse_eq, linesOf_append]
    exact parseLines_append _ [] (Nat.zero_le _) (by simpa using hmany)

/-- A snapshot that was edited by hand. Its second line is a record; the line after it has a field
too many, and the last one a part too few. -/
def Laptop.edited : Bytes :=
  Text.encode
    "# cards\n +8086:3E9b;0:00:2:0; 1 \r\n10de:1f91;0:1:0:0;0;\n10de:1f91;0:1:0;0".toList

/-- The one record is read of the edited snapshot, as the grammar derives it. Bytes that are no text
break off a snapshot that is full, but are not noticed after a record too many. -/
theorem parse_accepts_exactly_the_format_laptop :
    Record "+8086:3E9b;0:00:2:0; 1".toList ⟨0x8086, 0x3e9b, ⟨0, 0, 2, 0⟩, true, .unknown⟩ ∧
    (parse Laptop.edited).value = .ok [⟨0x8086, 0x3e9b, ⟨0, 0, 2, 0⟩, true, .unknown⟩] ∧
    (parse (Text.encode (serialize (Laptop.manyCards.take 10)) ++ [0xff])).value =
      .error .invalidText ∧
    (∀ tail, (parse (Text.encode (serialize Laptop.manyCards) ++ 0x0a :: tail)).value =
      .ok ((Laptop.manyCards.take 10).map recorded)) := by
  obtain ⟨hrecord, hvalue, hunseen⟩ := parse_accepts_exactly_the_format
  have hwhole : ∀ content, (∀ line ∈ linesOf content, (Text.decode? line).isSome) →
      ¬ BrokenOff (linesOf content) := by
    rintro content hall ⟨before, line, after, hsplit, hbad, -⟩
    obtain ⟨text, htext⟩ := Option.isSome_iff_exists.mp (hall line (by simp [hsplit]))
    exact hbad text (Text.encode_of_decode? htext)
  refine ⟨?derived, ?edited, ?broken, fun tail => ?unseen⟩
  case derived =>
    obtain ⟨text, htext, hderived⟩ := (hrecord (Text.encode " +8086:3E9b;0:00:2:0; 1 ".toList)
      ⟨0x8086, 0x3e9b, ⟨0, 0, 2, 0⟩, true, .unknown⟩).mp (by decide +kernel)
    have hsame := congrArg Text.decode? htext
    rw [Text.decode?_encode, Text.decode?_encode] at hsame
    have htrim : Text.trim " +8086:3E9b;0:00:2:0; 1 ".toList = "+8086:3E9b;0:00:2:0; 1".toList := by
      decide +kernel
    rwa [Option.some.inj hsame, htrim] at hderived
  case edited =>
    rw [(hvalue _).2 (hwhole _ (by decide +kernel))]
    decide +kernel
  case broken =>
    refine (hvalue _).1 ⟨linesOf (Text.encode (serialize (Laptop.manyCards.take 10))), [0xff], [],
      by decide +kernel, ?_, by decide +kernel⟩
    intro text htext
    have hnone : Text.decode? [0xff] = none := by decide
    rw [← htext, Text.decode?_encode] at hnone
    cases hnone
  case unseen =>
    rw [hunseen _ tail (by decide +kernel), (hvalue _).2 (hwhole _ (by decide +kernel))]
    decide +kernel

end Snapshot

end HybridGraphics
