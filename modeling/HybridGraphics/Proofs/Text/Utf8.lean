import HybridGraphics.Text.Utf8
import Mathlib.Data.List.Basic

/-!
# Text that was read is what is written

`decode?` accepts the shortest forms only, so the bytes of a file that holds a text are
the ones that writing the text leaves (`encode_of_decode?`). With `decode?_encode` this
makes a text file and its text the same thing, and a file that reads as a text need not
be told apart from one that was written with it.

Line endings are bytes that stand for themselves, and no other character holds one, so a file can be
cut into lines before it is known to be text.
-/

namespace HybridGraphics.Text

/-- The code point of a character made from a valid one. -/
theorem toNat_ofNat {n : Nat} (h : n < 0xd800 ∨ (0xe000 ≤ n ∧ n < 0x110000)) :
    (Char.ofNat n).toNat = n := by
  have hv : n.isValidChar := by
    rcases h with h | h
    · exact .inl h
    · exact .inr ⟨by omega, h.2⟩
  unfold Char.ofNat
  rw [dif_pos hv]
  unfold Char.toNat Char.ofNatAux
  simp

theorem ofNat_eq_of_toNat {n : Nat} {b : UInt8} (h : n = b.toNat) : UInt8.ofNat n = b := by
  rw [h]
  exact UInt8.ofNat_toNat

/-- A byte below `0x80` is a form of its own. -/
theorem encodeChar_of_ascii {a : UInt8} (h : a.toNat < 0x80) :
    encodeChar (Char.ofNat a.toNat) = [a] := by
  unfold encodeChar
  rw [toNat_ofNat (.inl (by omega))]
  simp only [h, if_true, UInt8.ofNat_toNat]

/-- What two bytes are read as is written as these. -/
theorem encodeChar_of_decodeTwo? {a b : UInt8} {ch : Char} (ha : 0xc0 ≤ a.toNat)
    (ha' : a.toNat < 0xe0) (h : decodeTwo? a b = some ch) : encodeChar ch = [a, b] := by
  unfold decodeTwo? isContinuation at h
  simp only at h
  split at h
  next hn =>
    simp only [Bool.and_eq_true, decide_eq_true_eq] at hn
    have h := Option.some.inj h
    subst h
    unfold encodeChar
    rw [toNat_ofNat (.inl (by omega))]
    simp only
    rw [if_neg (by omega), if_pos (by omega), ofNat_eq_of_toNat (b := a) (by omega),
      ofNat_eq_of_toNat (b := b) (by omega)]
  next => cases h

theorem encodeChar_of_decodeThree? {a b c : UInt8} {ch : Char} (ha : 0xe0 ≤ a.toNat)
    (ha' : a.toNat < 0xf0) (h : decodeThree? a b c = some ch) : encodeChar ch = [a, b, c] := by
  unfold decodeThree? isContinuation at h
  simp only at h
  split at h
  next hn =>
    simp only [Bool.and_eq_true, Bool.or_eq_true, decide_eq_true_eq] at hn
    have h := Option.some.inj h
    subst h
    unfold encodeChar
    rw [toNat_ofNat (by omega)]
    simp only
    rw [if_neg (by omega), if_neg (by omega), if_pos (by omega),
      ofNat_eq_of_toNat (b := a) (by omega), ofNat_eq_of_toNat (b := b) (by omega),
      ofNat_eq_of_toNat (b := c) (by omega)]
  next => cases h

theorem encodeChar_of_decodeFour? {a b c d : UInt8} {ch : Char} (ha : 0xf0 ≤ a.toNat)
    (h : decodeFour? a b c d = some ch) : encodeChar ch = [a, b, c, d] := by
  unfold decodeFour? isContinuation at h
  simp only at h
  split at h
  next hn =>
    simp only [Bool.and_eq_true, decide_eq_true_eq] at hn
    have h := Option.some.inj h
    subst h
    unfold encodeChar
    rw [toNat_ofNat (by omega)]
    simp only
    rw [if_neg (by omega), if_neg (by omega), if_neg (by omega),
      ofNat_eq_of_toNat (b := a) (by omega), ofNat_eq_of_toNat (b := b) (by omega),
      ofNat_eq_of_toNat (b := c) (by omega), ofNat_eq_of_toNat (b := d) (by omega)]
  next => cases h

/-- The bytes of a text are the ones it is written with. -/
theorem encode_of_decode? {content : Bytes} {text : List Char} (h : decode? content = some text) :
    encode text = content := by
  have step : ∀ {ch : Char} {first rest : Bytes} {text : List Char}, encodeChar ch = first →
      (∀ t, decode? rest = some t → encode t = rest) →
        (decode? rest).map (ch :: ·) = some text → encode text = first ++ rest := by
    intro ch first rest text hch ih hm
    obtain ⟨t, ht, rfl⟩ := Option.map_eq_some_iff.mp hm
    rw [encode_cons, hch, ih t ht]
  -- the cases follow the reader: how many bytes a character has, and whether they are one
  fun_induction decode? content generalizing text with
  | case1 =>
    cases h
    rfl
  | case2 a rest ha ih => exact step (encodeChar_of_ascii ha) (fun _ => ih) h
  | case5 a ha ha' b rest hb ch hch ih =>
    exact step (encodeChar_of_decodeTwo? (by omega) hb hch) (fun _ => ih) h
  | case8 a ha ha' b hb c rest hc ch hch ih =>
    exact step (encodeChar_of_decodeThree? (by omega) hc hch) (fun _ => ih) h
  | case11 a ha ha' b hb c hc d rest hd ch hch ih =>
    exact step (encodeChar_of_decodeFour? (by omega) hch) (fun _ => ih) h
  | _ => cases h

/-! ## Line endings -/

/-- A byte below 0x80 stands for itself, and is part of no other character. -/
theorem toNat_of_mem_encodeChar {c : Char} {b : UInt8} (hb : b.toNat < 0x80)
    (h : b ∈ encodeChar c) : c.toNat = b.toNat := by
  have hbyte : ∀ n, 0x80 ≤ n → n < 256 → b ≠ UInt8.ofNat n := by
    rintro n hlow hhigh rfl
    rw [toNat_byte hhigh] at hb
    omega
  have hbounds := toNat_bounds c
  unfold encodeChar at h
  simp only at h
  split at h
  next hascii =>
    rw [List.mem_singleton.mp h, toNat_byte (by omega)]
  -- the bytes of any other character have their highest bit set
  split at h
  next =>
    simp only [List.mem_cons, List.not_mem_nil, or_false] at h
    rcases h with h | h <;> exact absurd h (hbyte _ (by omega) (by omega))
  split at h
  next =>
    simp only [List.mem_cons, List.not_mem_nil, or_false] at h
    rcases h with h | h | h <;> exact absurd h (hbyte _ (by omega) (by omega))
  next =>
    simp only [List.mem_cons, List.not_mem_nil, or_false] at h
    rcases h with h | h | h | h <;> exact absurd h (hbyte _ (by omega) (by omega))

/-- Writing a text puts no newline into it. -/
theorem newline_not_mem_encode {text : List Char} (h : '\n' ∉ text) : 0x0a ∉ encode text := by
  intro hm
  obtain ⟨c, hc, hb⟩ := List.mem_flatMap.mp hm
  have hnewline : c = '\n' := Char.toNat_inj.mp (toNat_of_mem_encodeChar (by decide) hb)
  exact h (hnewline ▸ hc)

/-- A carriage return after some bytes is one after the text that they are. -/
theorem decode?_append_return (content : Bytes) :
    decode? (content ++ [0x0d]) = (decode? content).map (· ++ ['\r']) := by
  have hreturn : encode ['\r'] = [0x0d] := by decide
  cases hd : decode? content with
  | some text =>
    rw [← encode_of_decode? hd, ← hreturn, ← encode_append, decode?_encode]
    rfl
  | none =>
    show decode? (content ++ [0x0d]) = none
    cases hr : decode? (content ++ [0x0d]) with
    | none => rfl
    | some text =>
      have hbytes := encode_of_decode? hr
      rcases List.eq_nil_or_concat text with rfl | ⟨start, last, rfl⟩
      · cases (List.append_eq_nil_iff.mp hbytes.symm).2
      · have hsingle : encode [last] = encodeChar last := List.append_nil _
        rw [List.concat_eq_append, encode_append, hsingle] at hbytes
        have hin : 0x0d ∈ encodeChar last := by
          have hne : encodeChar last ≠ [] := by
            unfold encodeChar
            grind
          have hend := congrArg List.getLast? hbytes
          rw [List.getLast?_append_of_ne_nil _ hne, List.getLast?_concat] at hend
          exact List.mem_of_getLast? hend
        have hlast : last = '\r' := Char.toNat_inj.mp (toNat_of_mem_encodeChar (by decide) hin)
        rw [← hsingle, hlast, hreturn] at hbytes
        rw [← List.append_cancel_right hbytes, decode?_encode] at hd
        cases hd

end HybridGraphics.Text
