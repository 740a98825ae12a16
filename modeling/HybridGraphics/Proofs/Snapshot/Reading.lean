import HybridGraphics.Snapshot.Format

/-!
# What is read of the lines of a snapshot

A line that is no record is skipped, but one that is not even text makes reading fail, if it is
looked at. `parseLines_value` says of any lines which of the two happens: it fails if a line that is
not text stands before the first record past the limit (`UnreadableWithin`), and gives the first of
the records otherwise, as far as there is room for them. What is known of a whole file, written by a
boot or damaged since, is read off it.
-/

namespace HybridGraphics.Snapshot

open Pci (Device)

/-! ## One line -/

/-- What a line says, without the blanks around it, if it is text. -/
def textOf? (line : Bytes) : Option (List Char) := (Text.decode? line).map Text.trim

/-- The device that a line tells of, if it is a record. -/
def recordOf? (line : Bytes) : Option Device := (textOf? line).bind parseRecord?

/-- True of a line that is a record. -/
def isRecord (line : Bytes) : Bool :=
  ((Text.decode? line).bind fun chars => parseRecord? (Text.trim chars)).isSome

theorem isRecord_eq (line : Bytes) : isRecord line = (recordOf? line).isSome := by
  unfold isRecord recordOf? textOf?
  cases Text.decode? line <;> rfl

/-- Nothing is read of a device's outputs. -/
theorem outputs_of_parseRecord? {line : List Char} {d : Device} (h : parseRecord? line = some d) :
    d.outputs = .unknown := by
  unfold parseRecord? at h
  split at h
  next ids address flag _ =>
    unfold parseFields? at h
    simp only [Option.bind_eq_bind, Option.bind_eq_some_iff] at h
    obtain ⟨⟨vendor, model⟩, -, h⟩ := h
    split at h
    next =>
      simp only [Option.bind_eq_some_iff] at h
      obtain ⟨bootVga, -, vendor, -, model, -, address, -, h⟩ := h
      cases h
      rfl
    next => cases h
  next => cases h

/-- The reader looks at what a line says, and at nothing else of it. -/
theorem parseLines_cons (line : Bytes) (rest : List Bytes) (records : List Device) :
    parseLines (line :: rest) records =
      match textOf? line with
      | none => pure (.error .invalidText)
      | some text =>
        match parseRecord? text with
        | some record =>
          if records.length = Pci.maxDevices then do
            Noted.warn s!"ignoring snapshot records past {Pci.maxDevices}"
            return .ok records
          else parseLines rest (records ++ [record])
        | none =>
          if text.isEmpty then parseLines rest records
          else
            (do
              let shown := String.ofList text
              Noted.debug s!"skipping malformed snapshot line: {shown}"
              parseLines rest records) := by
  rw [parseLines]
  unfold textOf?
  cases Text.decode? line with
  | none => rfl
  | some chars =>
    simp only [Option.map_some]
    cases hr : parseRecord? (Text.trim chars) with
    | none => split <;> rfl
    | some record =>
      have hempty : ¬ (Text.trim chars).isEmpty = true := by
        intro h
        rw [List.isEmpty_iff.mp h] at hr
        cases hr
      exact if_neg hempty

/-! ## What makes a snapshot unreadable -/

/-- Of these lines, one is not text, and no more than so many before it are records. -/
def UnreadableWithin (room : Nat) (lines : List Bytes) : Prop :=
  ∃ before line after, lines = before ++ line :: after ∧ Text.decode? line = none ∧
    before.countP isRecord ≤ room

/-- A line that is not text stands before the first record past the limit. -/
def Damaged (content : Bytes) : Prop := UnreadableWithin Pci.maxDevices (byteLines content)

variable {room : Nat} {line : Bytes} {rest : List Bytes}

/-- Lines that are all text can be read, however many records are among them. -/
theorem not_unreadableWithin_of_text {lines : List Bytes}
    (h : ∀ line ∈ lines, Text.decode? line ≠ none) : ¬ UnreadableWithin room lines := by
  rintro ⟨before, line, after, rfl, hbad, -⟩
  exact h line (by simp) hbad

theorem unreadableWithin_of_not_text (h : Text.decode? line = none) :
    UnreadableWithin room (line :: rest) :=
  ⟨[], line, rest, rfl, h, Nat.zero_le _⟩

/-- After a record there is room for one less, and after another line for as many as before. -/
theorem unreadableWithin_cons {chars : List Char} (h : Text.decode? line = some chars) :
    UnreadableWithin room (line :: rest) ↔
      if isRecord line then 0 < room ∧ UnreadableWithin (room - 1) rest
      else UnreadableWithin room rest := by
  constructor
  · rintro ⟨before, bad, after, hsplit, hbad, hcount⟩
    cases before with
    | nil =>
      cases hsplit
      cases h.symm.trans hbad
    | cons first before =>
      cases hsplit
      rw [List.countP_cons] at hcount
      split
      next hr =>
        rw [if_pos hr] at hcount
        exact ⟨by omega, before, bad, after, rfl, hbad, by omega⟩
      next hr =>
        rw [if_neg hr] at hcount
        exact ⟨before, bad, after, rfl, hbad, hcount⟩
  · intro hrest
    split at hrest
    next hr =>
      obtain ⟨hroom, before, bad, after, rfl, hbad, hcount⟩ := hrest
      refine ⟨line :: before, bad, after, rfl, hbad, ?_⟩
      rw [List.countP_cons, if_pos hr]
      omega
    next hr =>
      obtain ⟨before, bad, after, rfl, hbad, hcount⟩ := hrest
      refine ⟨line :: before, bad, after, rfl, hbad, ?_⟩
      rw [List.countP_cons, if_neg hr]
      exact hcount

/-! ## All lines -/

/-- Reading lines onto records fails if one that is looked at is not text. It gives the first of the
records among them otherwise, as far as there is room. -/
theorem parseLines_value : ∀ (lines : List Bytes) (records : List Device),
    records.length ≤ Pci.maxDevices →
      (UnreadableWithin (Pci.maxDevices - records.length) lines ∧
        (parseLines lines records).value = .error .invalidText) ∨
      (¬ UnreadableWithin (Pci.maxDevices - records.length) lines ∧
        (parseLines lines records).value =
          .ok (records ++ (lines.filterMap recordOf?).take (Pci.maxDevices - records.length)))
  | [], records, _ => by
    refine .inr ⟨not_unreadableWithin_of_text fun line h => (List.not_mem_nil h).elim, ?_⟩
    rw [List.filterMap_nil, List.take_nil, List.append_nil]
    rfl
  | line :: rest, records, hlen => by
    have ih := parseLines_value rest
    rw [parseLines_cons]
    cases hd : Text.decode? line with
    | none =>
      have htext : textOf? line = none := by rw [textOf?, hd, Option.map_none]
      rw [htext]
      exact .inl ⟨unreadableWithin_of_not_text hd, rfl⟩
    | some chars =>
      have htext : textOf? line = some (Text.trim chars) := by rw [textOf?, hd, Option.map_some]
      have hrecord : recordOf? line = parseRecord? (Text.trim chars) := by
        rw [recordOf?, htext, Option.bind_some]
      rw [htext, unreadableWithin_cons hd, isRecord_eq, hrecord]
      simp only
      cases hr : parseRecord? (Text.trim chars) with
      | none =>
        rw [List.filterMap_cons_none (hrecord.trans hr)]
        simp only [Option.isSome_none, Bool.false_eq_true, if_false]
        split <;> exact ih records hlen
      | some record =>
        rw [List.filterMap_cons_some (hrecord.trans hr)]
        simp only [Option.isSome_some, if_true]
        split
        next hfull =>
          rw [hfull, Nat.sub_self, List.take_zero, List.append_nil]
          exact .inr ⟨fun h => absurd h.1 (Nat.lt_irrefl 0), rfl⟩
        next hroom =>
          have hlength : (records ++ [record]).length = records.length + 1 := by
            rw [List.length_append, List.length_singleton]
          have hleft : Pci.maxDevices - records.length =
              (Pci.maxDevices - (records ++ [record]).length) + 1 := by
            omega
          rw [hleft, List.take_succ_cons, List.append_cons records record (List.take _ _),
            Nat.add_sub_cancel]
          simp only [Nat.zero_lt_succ, true_and]
          exact ih (records ++ [record]) (by omega)

/-- A file of which every line that is looked at is text is read. -/
theorem parse_of_undamaged {content : Bytes} (h : ¬ Damaged content) :
    (parse content).value = .ok (((byteLines content).filterMap recordOf?).take Pci.maxDevices) := by
  rcases parseLines_value (byteLines content) [] (Nat.zero_le _) with ⟨hd, -⟩ | ⟨-, hvalue⟩
  · exact absurd hd h
  · exact hvalue

/-- Parsing fails on the damaged snapshots, and on no others. -/
theorem parse_eq_error_iff {content : Bytes} {cause : Fault} :
    (parse content).value = .error cause ↔ cause = .invalidText ∧ Damaged content := by
  rcases parseLines_value (byteLines content) [] (Nat.zero_le _) with ⟨hd, hvalue⟩ | ⟨hd, hvalue⟩
  · have hdamaged : Damaged content := hd
    simp [parse, hvalue, hdamaged, eq_comm]
  · have hdamaged : ¬ Damaged content := hd
    simp [parse, hvalue, hdamaged]

/-- What is read of a file are the first of its records. -/
theorem eq_of_parse {content : Bytes} {found : List Device} (h : (parse content).value = .ok found) :
    found = ((byteLines content).filterMap recordOf?).take Pci.maxDevices := by
  by_cases hd : Damaged content
  · rw [parse_eq_error_iff.mpr ⟨rfl, hd⟩] at h
    cases h
  · rw [parse_of_undamaged hd] at h
    cases h
    rfl

end HybridGraphics.Snapshot
