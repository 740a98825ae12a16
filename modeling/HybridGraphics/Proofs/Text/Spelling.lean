import HybridGraphics.Proofs.Text.Numeral
import Mathlib.Data.List.Forall2
import Mathlib.Data.Nat.Digits.Defs
import Mathlib.Tactic.Ring

/-!
# How a number may be spelled

`HexNumeral text n` is the grammar of a hexadecimal numeral: a plus sign or none, then at least one
digit, letters being of either case, and their value by place. `read_eq_ok_iff` says that the reader
accepts just that, up to its limit. The reader gives up as soon as the digits so far are past the
limit. No further digit could bring the number down again, so it loses nothing by that
(`readDigits_eq_ok_iff`).
-/

namespace HybridGraphics.Text

/-! ## Digits -/

/-- The character is the digit for `d`, in lower or upper case. -/
def HexDigit (c : Char) (d : Nat) : Prop :=
  d < 16 ∧ (c = Nat.digitChar d ∨ c = (Nat.digitChar d).toUpper)

/-- A character is read as a digit exactly if it is one, in either case. -/
theorem digitOf_eq_some_iff {c : Char} {d : Nat} : digitOf 16 c = some d ↔ HexDigit c d := by
  constructor
  · intro h
    obtain ⟨hvalue, hlt⟩ := Option.filter_eq_some_iff.mp h
    have hlt : d < 16 := of_decide_eq_true hlt
    have hlower : ∀ d, d < 16 →
        (Nat.digitChar d).toNat = if d < 10 then 0x30 + d else 0x57 + d := by decide
    have hupper : ∀ d, d < 16 →
        (Nat.digitChar d).toUpper.toNat = if d < 10 then 0x30 + d else 0x37 + d := by decide
    refine ⟨hlt, ?_⟩
    rw [← Char.toNat_inj, ← Char.toNat_inj, hlower d hlt, hupper d hlt]
    unfold digitValue at hvalue
    simp only [Bool.and_eq_true, decide_eq_true_eq] at hvalue
    split at hvalue
    · have hd := Option.some.inj hvalue
      rw [if_pos (by omega)]
      omega
    · split at hvalue
      · have hd := Option.some.inj hvalue
        rw [if_neg (by omega)]
        omega
      · split at hvalue
        · have hd := Option.some.inj hvalue
          rw [if_neg (by omega), if_neg (by omega)]
          omega
        · cases hvalue
  · rintro ⟨hlt, hc⟩
    have hboth : ∀ d, d < 16 → digitOf 16 (Nat.digitChar d) = some d ∧
        digitOf 16 (Nat.digitChar d).toUpper = some d := by decide
    rcases hc with rfl | rfl
    · exact (hboth d hlt).1
    · exact (hboth d hlt).2

/-! ## Numerals -/

/-- The digits stand for `n`, the last of them for its lowest place. -/
def HexDigits (digits : List Char) (n : Nat) : Prop :=
  ∃ values, List.Forall₂ HexDigit digits values ∧ n = Nat.ofDigits 16 values.reverse

/-- The text is a numeral for `n`: at least one digit, after a plus sign or none. -/
def HexNumeral (text : List Char) (n : Nat) : Prop :=
  ∃ digits, digits ≠ [] ∧ (text = digits ∨ text = '+' :: digits) ∧ HexDigits digits n

/-- The first digit counts for the highest place. -/
theorem hexDigits_cons {c : Char} {cs : List Char} {n : Nat} :
    HexDigits (c :: cs) n ↔
      ∃ d m, HexDigit c d ∧ HexDigits cs m ∧ n = d * 16 ^ cs.length + m := by
  constructor
  · rintro ⟨values, hvalues, rfl⟩
    obtain ⟨d, rest, hd, hrest, rfl⟩ := List.forall₂_cons_left_iff.mp hvalues
    refine ⟨d, _, hd, ⟨rest, hrest, rfl⟩, ?_⟩
    rw [List.reverse_cons, Nat.ofDigits_append, List.length_reverse, Nat.ofDigits_singleton,
      hrest.length_eq, Nat.mul_comm, Nat.add_comm]
  · rintro ⟨d, m, hd, ⟨rest, hrest, rfl⟩, rfl⟩
    refine ⟨d :: rest, .cons hd hrest, ?_⟩
    rw [List.reverse_cons, Nat.ofDigits_append, List.length_reverse, Nat.ofDigits_singleton,
      hrest.length_eq, Nat.mul_comm, Nat.add_comm]

/-- Digits are read onto a value as what they stand for, below it. -/
theorem readDigits_eq_ok_iff {limit n : Nat} :
    ∀ (digits : List Char) {value : Nat}, value ≤ limit →
      (readDigits 16 limit value digits = .ok n ↔
        ∃ m, HexDigits digits m ∧ n = value * 16 ^ digits.length + m ∧ n ≤ limit)
  | [], value, hvalue => by
    have hnone : ∀ m, HexDigits [] m ↔ m = 0 := by
      intro m
      constructor
      · rintro ⟨values, hvalues, rfl⟩
        rw [List.forall₂_nil_left_iff.mp hvalues]
        rfl
      · rintro rfl
        exact ⟨[], .nil, rfl⟩
    simp only [readDigits, Except.ok.injEq, hnone, exists_eq_left, List.length_nil, pow_zero,
      Nat.mul_one, Nat.add_zero]
    constructor
    · rintro rfl
      exact ⟨rfl, hvalue⟩
    · exact fun h => h.1.symm
  | c :: cs, value, hvalue => by
    have hplace : ∀ d m : Nat, value * 16 ^ (c :: cs).length + (d * 16 ^ cs.length + m) =
        (value * 16 + d) * 16 ^ cs.length + m := by
      intro d m
      rw [List.length_cons, pow_succ]
      ring
    have hsplit : (∃ m, HexDigits (c :: cs) m ∧ n = value * 16 ^ (c :: cs).length + m ∧ n ≤ limit) ↔
        ∃ d, HexDigit c d ∧
          ∃ m, HexDigits cs m ∧ n = (value * 16 + d) * 16 ^ cs.length + m ∧ n ≤ limit := by
      constructor
      · rintro ⟨_, hdigits, hn, hle⟩
        obtain ⟨d, m, hd, hm, rfl⟩ := hexDigits_cons.mp hdigits
        exact ⟨d, hd, m, hm, hn.trans (hplace d m), hle⟩
      · rintro ⟨d, hd, m, hm, hn, hle⟩
        exact ⟨_, hexDigits_cons.mpr ⟨d, m, hd, hm, rfl⟩, hn.trans (hplace d m).symm, hle⟩
    rw [hsplit]
    unfold readDigits
    cases hdigit : digitOf 16 c with
    | none =>
      simp only [reduceCtorEq, false_iff]
      rintro ⟨d, hd, -⟩
      rw [digitOf_eq_some_iff.mpr hd] at hdigit
      cases hdigit
    | some d =>
      have honly : ∀ d', HexDigit c d' ↔ d' = d := by
        intro d'
        rw [← digitOf_eq_some_iff, hdigit, Option.some.injEq, eq_comm]
      simp only [honly, exists_eq_left]
      split
      next hover =>
        -- the digits to come only make it more
        simp only [reduceCtorEq, false_iff]
        rintro ⟨m, -, rfl, hle⟩
        have hmore : value * 16 + d ≤ (value * 16 + d) * 16 ^ cs.length :=
          Nat.le_mul_of_pos_right _ (Nat.pow_pos (by decide))
        omega
      next hunder => exact readDigits_eq_ok_iff cs (Nat.not_lt.mp hunder)

/-- What is read is the number of a numeral, and every numeral up to the limit is read. -/
theorem read_eq_ok_iff {limit n : Nat} {text : List Char} :
    read 16 limit text = .ok n ↔ HexNumeral text n ∧ n ≤ limit := by
  have hsign : ∀ d, ¬ HexDigit '+' d := by
    intro d hd
    have hnone : digitOf 16 '+' = none := by decide
    rw [digitOf_eq_some_iff.mpr hd] at hnone
    cases hnone
  have hdigits : ∀ digits : List Char,
      readDigits 16 limit 0 digits = .ok n ↔ HexDigits digits n ∧ n ≤ limit := by
    intro digits
    rw [readDigits_eq_ok_iff digits (Nat.zero_le _)]
    simp only [Nat.zero_mul, Nat.zero_add]
    constructor
    · rintro ⟨m, hm, rfl, hle⟩
      exact ⟨hm, hle⟩
    · exact fun h => ⟨n, h.1, rfl, h.2⟩
  unfold read
  split
  next =>
    simp only [reduceCtorEq, false_iff]
    rintro ⟨⟨digits, hne, htext | htext, -⟩, -⟩
    · exact hne htext.symm
    · cases htext
  next =>
    simp only [reduceCtorEq, false_iff]
    rintro ⟨⟨digits, hne, htext | htext, hd⟩, -⟩
    · rw [← htext] at hd
      obtain ⟨d, m, hc, -⟩ := hexDigits_cons.mp hd
      exact hsign d hc
    · exact hne (List.cons.inj htext).2.symm
  next digits hne =>
    rw [hdigits]
    constructor
    · exact fun h => ⟨⟨digits, fun hnil => hne (by rw [hnil]), .inr rfl, h.1⟩, h.2⟩
    · rintro ⟨⟨digits', -, htext | htext, hd⟩, hle⟩
      · rw [← htext] at hd
        obtain ⟨d, m, hc, -⟩ := hexDigits_cons.mp hd
        exact absurd hc (hsign d)
      · rw [(List.cons.inj htext).2]
        exact ⟨hd, hle⟩
  next hne hsingle hplus =>
    rw [hdigits]
    constructor
    · exact fun h => ⟨⟨text, fun hnil => hne hnil, .inl rfl, h.1⟩, h.2⟩
    · rintro ⟨⟨digits, -, htext | htext, hd⟩, hle⟩
      · rw [htext]
        exact ⟨hd, hle⟩
      · exact absurd htext (hplus digits)

/-- A text is read as a number exactly if it is its numeral and the number is within the limit. -/
theorem read?_eq_some_iff {limit n : Nat} {text : List Char} :
    read? 16 limit text = some n ↔ HexNumeral text n ∧ n ≤ limit := by
  rw [← read_eq_ok_iff]
  unfold read?
  cases read 16 limit text with
  | ok m => simp [Except.toOption]
  | error cause => simp [Except.toOption]

/-- A number of sixteen bits is read exactly from its numerals. -/
theorem readHex16?_eq_some_iff {text : List Char} {n : UInt16} :
    readHex16? text = some n ↔ HexNumeral text n.toNat := by
  have hlt := n.toNat_lt
  unfold readHex16?
  rw [Option.map_eq_some_iff]
  simp only [read?_eq_some_iff]
  constructor
  · rintro ⟨m, ⟨hm, hle⟩, rfl⟩
    rw [UInt16.toNat_ofNat', Nat.mod_eq_of_lt (by omega)]
    exact hm
  · exact fun h => ⟨n.toNat, ⟨h, by omega⟩, UInt16.ofNat_toNat⟩

theorem readHex8?_eq_some_iff {text : List Char} {n : UInt8} :
    readHex8? text = some n ↔ HexNumeral text n.toNat := by
  have hlt := n.toNat_lt
  unfold readHex8?
  rw [Option.map_eq_some_iff]
  simp only [read?_eq_some_iff]
  constructor
  · rintro ⟨m, ⟨hm, hle⟩, rfl⟩
    rw [UInt8.toNat_ofNat', Nat.mod_eq_of_lt (by omega)]
    exact hm
  · exact fun h => ⟨n.toNat, ⟨h, by omega⟩, UInt8.ofNat_toNat⟩

/-- A numeral holds nothing but digits and a sign. -/
theorem HexNumeral.not_mem {text : List Char} {n : Nat} (h : HexNumeral text n) {c : Char}
    (hsign : c ≠ '+') (hdigit : digitOf 16 c = none) : c ∉ text := by
  obtain ⟨digits, -, htext, values, hvalues, -⟩ := h
  have hdigits : ∀ x ∈ digits, ∃ d, HexDigit x d := by
    clear htext
    induction hvalues with
    | nil => exact fun x hx => by cases hx
    | cons hd _ ih =>
      intro x hx
      rcases List.mem_cons.mp hx with rfl | hx
      · exact ⟨_, hd⟩
      · exact ih x hx
  have hnot : c ∉ digits := by
    intro hmem
    obtain ⟨d, hd⟩ := hdigits c hmem
    rw [digitOf_eq_some_iff.mpr hd] at hdigit
    cases hdigit
  rcases htext with rfl | rfl
  · exact hnot
  · exact fun hmem => (List.mem_cons.mp hmem).elim hsign hnot

end HybridGraphics.Text
