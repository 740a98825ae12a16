import HybridGraphics.Text.Blank
import HybridGraphics.Text.Numeral

/-!
# Numerals read back

`read_hexPadded` says that a hexadecimal numeral is read as the number it was written for,
whatever zeros stand in front, as long as the number is within the limit. What a numeral
is made of is a matter of sixteen characters, so that none of them is a separator, a sign
or a blank is checked on these (`forall_mem_hexPadded`).
-/

namespace HybridGraphics.Text

/-! ## Digits -/

/-- The digits that numbers are written with read back. -/
theorem digitOf_digitChar : ∀ d, d < 16 → digitOf 16 (Nat.digitChar d) = some d := by decide

/-- A number is written with digits only. -/
theorem mem_toDigits {n : Nat} {c : Char} (h : c ∈ Nat.toDigits 16 n) :
    ∃ d, d < 16 ∧ c = Nat.digitChar d := by
  induction n using Nat.strongRecOn with
  | ind n ih =>
    by_cases hn : n < 16
    · rw [Nat.toDigits_of_lt_base hn, List.mem_singleton] at h
      exact ⟨n, hn, h⟩
    · rw [Nat.toDigits_of_base_le (by decide) (Nat.not_lt.mp hn), List.mem_append,
        List.mem_singleton] at h
      rcases h with h | h
      · exact ih (n / 16) (by omega) h
      · exact ⟨n % 16, Nat.mod_lt _ (by decide), h⟩

/-- What holds of the sixteen digits holds of every character of a numeral. -/
theorem forall_mem_hexPadded {P : Char → Prop} (h : ∀ d, d < 16 → P (Nat.digitChar d))
    (width n : Nat) : ∀ c ∈ hexPadded width n, P c := by
  intro c hc
  unfold hexPadded List.leftpad at hc
  rcases List.mem_append.mp hc with hc | hc
  · rw [List.eq_of_mem_replicate hc]
    exact h 0 (by decide)
  · obtain ⟨d, hd, rfl⟩ := mem_toDigits hc
    exact h d hd

/-- No numeral holds a character that is no digit. -/
theorem not_mem_hexPadded {c : Char} (h : ∀ d, d < 16 → Nat.digitChar d ≠ c) (width n : Nat) :
    c ∉ hexPadded width n := fun hm =>
  forall_mem_hexPadded (P := (· ≠ c)) h width n c hm rfl

/-- A numeral without zeros in front is one padded to no width. -/
theorem hex_eq_hexPadded (n : Nat) : hex n = hexPadded 0 n := (hexPadded_of_le (Nat.zero_le _)).symm

theorem hexPadded_ne_nil (width n : Nat) : hexPadded width n ≠ [] := by
  unfold hexPadded List.leftpad
  exact List.append_ne_nil_of_right_ne_nil _ Nat.toDigits_ne_nil

/-! ## Reading -/

/-- Reading the digits of a number comes to it, and then goes on. -/
theorem readDigits_toDigits {limit : Nat} (rest : List Char) :
    ∀ n, n ≤ limit →
      readDigits 16 limit 0 (Nat.toDigits 16 n ++ rest) = readDigits 16 limit n rest := by
  intro n
  induction n using Nat.strongRecOn generalizing rest with
  | ind n ih =>
    intro hl
    have hstep : ∀ value d, d < 16 → value * 16 + d = n →
        readDigits 16 limit value (Nat.digitChar d :: rest) = readDigits 16 limit n rest := by
      intro value d hd hn
      have hle : ¬ limit < n := Nat.not_lt.mpr hl
      rw [readDigits, digitOf_digitChar d hd]
      simp only [hn, hle, if_false]
    by_cases hn : n < 16
    · rw [Nat.toDigits_of_lt_base hn]
      exact hstep 0 n hn (by omega)
    · rw [Nat.toDigits_of_base_le (by decide) (Nat.not_lt.mp hn), List.append_assoc,
        ih (n / 16) (by omega) _ (by omega)]
      exact hstep (n / 16) (n % 16) (Nat.mod_lt _ (by decide)) (by omega)

theorem readDigits_zeros {limit : Nat} (text : List Char) (count : Nat) :
    readDigits 16 limit 0 (List.replicate count '0' ++ text) = readDigits 16 limit 0 text := by
  induction count with
  | zero => rfl
  | succ count ih =>
    rw [List.replicate_succ, List.cons_append, readDigits]
    have hzero : digitOf 16 '0' = some 0 := by decide
    simp only [hzero, Nat.zero_mul, Nat.add_zero, Nat.not_lt_zero, if_false, ih]

theorem read_eq_readDigits {base limit : Nat} {text : List Char} (hne : text ≠ [])
    (hs : '+' ∉ text) : read base limit text = readDigits base limit 0 text := by
  unfold read
  split
  next => exact absurd rfl hne
  next => exact absurd List.mem_cons_self hs
  next => exact absurd List.mem_cons_self hs
  next => rfl

/-- A numeral is read as the number it was written for. -/
theorem read_hexPadded {limit n : Nat} (h : n ≤ limit) (width : Nat) :
    read 16 limit (hexPadded width n) = .ok n := by
  have hsign : '+' ∉ hexPadded width n := fun hm =>
    forall_mem_hexPadded (P := (· ≠ '+')) (by decide) width n '+' hm rfl
  have hdigits := readDigits_toDigits [] n h
  rw [List.append_nil] at hdigits
  rw [read_eq_readDigits (hexPadded_ne_nil width n) hsign]
  unfold hexPadded List.leftpad
  rw [readDigits_zeros, hdigits, readDigits]

/-- Numbers of one numeral are one number. -/
theorem hexPadded_injective (width : Nat) : Function.Injective (hexPadded width) := by
  intro n m h
  have hn := read_hexPadded (Nat.le_max_left n m) width
  rw [h, read_hexPadded (Nat.le_max_right n m) width] at hn
  exact (Except.ok.inj hn).symm

/-- A number of sixteen bits reads back, however it was padded. -/
theorem readHex16?_hexPadded (n : UInt16) (width : Nat) :
    readHex16? (hexPadded width n.toNat) = some n := by
  unfold readHex16? read?
  rw [read_hexPadded (by have := n.toNat_lt; omega)]
  exact congrArg some UInt16.ofNat_toNat

theorem readHex8?_hexPadded (n : UInt8) (width : Nat) :
    readHex8? (hexPadded width n.toNat) = some n := by
  unfold readHex8? read?
  rw [read_hexPadded (by have := n.toNat_lt; omega)]
  exact congrArg some UInt8.ofNat_toNat

/-! ## Decimal numerals -/

/-- No decimal numeral holds a character that is no digit. -/
theorem not_mem_decimal {c : Char} (h : c.isDigit = false) (n : Nat) : c ∉ decimal n := by
  intro hmem
  have hdigit := Nat.isDigit_of_mem_toDigits (by decide) (by decide) hmem
  rw [h] at hdigit
  cases hdigit

/-- Different numbers are written differently. -/
theorem decimal_injective : Function.Injective decimal := by
  intro n m h
  have hn := Nat.ofDigitChars_ten_toDigits (n := n)
  unfold decimal at h
  rw [h, Nat.ofDigitChars_ten_toDigits] at hn
  exact hn.symm

end HybridGraphics.Text
