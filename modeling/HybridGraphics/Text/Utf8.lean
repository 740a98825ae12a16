/-!
# UTF-8

Files hold bytes, and most readers want text. `encode` writes each character in
its shortest form and `decode?` accepts exactly that: no overlong form, no
surrogate, nothing above U+10FFFF, no stray continuation byte. Both work on
lists, in plain arithmetic on code points, so that statements about file
contents reduce to statements about numbers. `decode?_encode` says that what is
written can be read back.
-/

namespace HybridGraphics

/-- The content of a file. -/
abbrev Bytes := List UInt8

namespace Text

/-! ## Writing and reading -/

/-- The shortest UTF-8 form of a character. -/
def encodeChar (c : Char) : Bytes :=
  let n := c.toNat
  if n < 0x80 then [UInt8.ofNat n]
  else if n < 0x800 then [UInt8.ofNat (0xc0 + n / 64), UInt8.ofNat (0x80 + n % 64)]
  else if n < 0x10000 then
    [UInt8.ofNat (0xe0 + n / 4096), UInt8.ofNat (0x80 + n / 64 % 64), UInt8.ofNat (0x80 + n % 64)]
  else
    [UInt8.ofNat (0xf0 + n / 262144), UInt8.ofNat (0x80 + n / 4096 % 64),
      UInt8.ofNat (0x80 + n / 64 % 64), UInt8.ofNat (0x80 + n % 64)]

def encode (text : List Char) : Bytes := text.flatMap encodeChar

/-- True for the bytes that continue a character. -/
def isContinuation (b : UInt8) : Bool := 0x80 ≤ b.toNat && b.toNat < 0xc0

/-- The character of two bytes, if they are the shortest form of one. -/
def decodeTwo? (a b : UInt8) : Option Char :=
  let n := (a.toNat - 0xc0) * 64 + (b.toNat - 0x80)
  if isContinuation b && 0x80 ≤ n then some (Char.ofNat n) else none

/-- The character of three bytes, if they are the shortest form of one. -/
def decodeThree? (a b c : UInt8) : Option Char :=
  let n := (a.toNat - 0xe0) * 4096 + (b.toNat - 0x80) * 64 + (c.toNat - 0x80)
  if isContinuation b && isContinuation c && 0x800 ≤ n && (n < 0xd800 || 0xe000 ≤ n) then
    some (Char.ofNat n)
  else none

/-- The character of four bytes, if they are the shortest form of one. -/
def decodeFour? (a b c d : UInt8) : Option Char :=
  let n := (a.toNat - 0xf0) * 262144 + (b.toNat - 0x80) * 4096 + (c.toNat - 0x80) * 64
    + (d.toNat - 0x80)
  if isContinuation b && isContinuation c && isContinuation d && 0x10000 ≤ n && n < 0x110000 then
    some (Char.ofNat n)
  else none

/-- The text that the bytes encode, or `none` if they are not UTF-8. -/
def decode? : Bytes → Option (List Char)
  | [] => some []
  | a :: rest =>
    if a.toNat < 0x80 then (decode? rest).map (Char.ofNat a.toNat :: ·)
    -- a continuation byte begins no character
    else if a.toNat < 0xc0 then none
    else
      -- the first byte tells how many follow: one, two or three
      match rest with
      | [] => none
      | b :: rest =>
        if a.toNat < 0xe0 then
          match decodeTwo? a b with
          | some ch => (decode? rest).map (ch :: ·)
          | none => none
        else
          match rest with
          | [] => none
          | c :: rest =>
            if a.toNat < 0xf0 then
              match decodeThree? a b c with
              | some ch => (decode? rest).map (ch :: ·)
              | none => none
            else
              match rest with
              | [] => none
              | d :: rest =>
                if a.toNat < 0xf8 then
                  match decodeFour? a b c d with
                  | some ch => (decode? rest).map (ch :: ·)
                  | none => none
                else none

/-! ## What is written reads back -/

theorem encode_cons (c : Char) (text : List Char) :
    encode (c :: text) = encodeChar c ++ encode text := rfl

theorem encode_append (s t : List Char) : encode (s ++ t) = encode s ++ encode t :=
  List.flatMap_append

theorem toNat_byte {n : Nat} (h : n < 256) : (UInt8.ofNat n).toNat = n := by
  rw [UInt8.toNat_ofNat']
  exact Nat.mod_eq_of_lt h

/-- The code point of a character is below U+110000 and no surrogate. -/
theorem toNat_bounds (c : Char) : c.toNat < 0xd800 ∨ (0xe000 ≤ c.toNat ∧ c.toNat < 0x110000) := by
  rcases c.valid with h | h
  · exact Or.inl h
  · exact Or.inr ⟨by have := h.1; unfold Char.toNat; omega, h.2⟩

/-- Reading a written character gives the character and leaves the rest. -/
theorem decode?_encodeChar_append (ch : Char) (rest : Bytes) :
    decode? (encodeChar ch ++ rest) = (decode? rest).map (ch :: ·) := by
  have hb := toNat_bounds ch
  have hch : Char.ofNat ch.toNat = ch := Char.ofNat_toNat ch
  unfold encodeChar
  by_cases h1 : ch.toNat < 0x80
  · simp only [h1, if_true, List.singleton_append]
    rw [decode?.eq_def]
    have hn := toNat_byte (n := ch.toNat) (by omega)
    simp only [hn, h1, if_true, hch]
  · by_cases h2 : ch.toNat < 0x800
    · simp only [h1, h2, if_false, if_true, List.cons_append, List.nil_append]
      rw [decode?.eq_def]
      have ha := toNat_byte (n := 0xc0 + ch.toNat / 64) (by omega)
      have hbb := toNat_byte (n := 0x80 + ch.toNat % 64) (by omega)
      have hd : decodeTwo? (UInt8.ofNat (0xc0 + ch.toNat / 64))
          (UInt8.ofNat (0x80 + ch.toNat % 64)) = some ch := by
        unfold decodeTwo? isContinuation
        rw [ha, hbb]
        have hv : (0xc0 + ch.toNat / 64 - 0xc0) * 64 + (0x80 + ch.toNat % 64 - 0x80) = ch.toNat := by
          omega
        simp only [hv, hch]
        rw [if_pos]
        simp only [Bool.and_eq_true, decide_eq_true_eq]
        omega
      simp only [ha, hd]
      rw [if_neg (by omega), if_neg (by omega), if_pos (by omega)]
    · by_cases h3 : ch.toNat < 0x10000
      · simp only [h1, h2, h3, if_false, if_true, List.cons_append, List.nil_append]
        rw [decode?.eq_def]
        have ha := toNat_byte (n := 0xe0 + ch.toNat / 4096) (by omega)
        have hbb := toNat_byte (n := 0x80 + ch.toNat / 64 % 64) (by omega)
        have hc := toNat_byte (n := 0x80 + ch.toNat % 64) (by omega)
        have hd : decodeThree? (UInt8.ofNat (0xe0 + ch.toNat / 4096))
            (UInt8.ofNat (0x80 + ch.toNat / 64 % 64)) (UInt8.ofNat (0x80 + ch.toNat % 64))
              = some ch := by
          unfold decodeThree? isContinuation
          rw [ha, hbb, hc]
          have hv : (0xe0 + ch.toNat / 4096 - 0xe0) * 4096 + (0x80 + ch.toNat / 64 % 64 - 0x80) * 64
              + (0x80 + ch.toNat % 64 - 0x80) = ch.toNat := by omega
          simp only [hv, hch]
          rw [if_pos]
          simp only [Bool.and_eq_true, Bool.or_eq_true, decide_eq_true_eq]
          omega
        simp only [ha, hd]
        rw [if_neg (by omega), if_neg (by omega), if_neg (by omega), if_pos (by omega)]
      · simp only [h1, h2, h3, if_false, List.cons_append, List.nil_append]
        rw [decode?.eq_def]
        have ha := toNat_byte (n := 0xf0 + ch.toNat / 262144) (by omega)
        have hbb := toNat_byte (n := 0x80 + ch.toNat / 4096 % 64) (by omega)
        have hc := toNat_byte (n := 0x80 + ch.toNat / 64 % 64) (by omega)
        have hdd := toNat_byte (n := 0x80 + ch.toNat % 64) (by omega)
        have hd : decodeFour? (UInt8.ofNat (0xf0 + ch.toNat / 262144))
            (UInt8.ofNat (0x80 + ch.toNat / 4096 % 64)) (UInt8.ofNat (0x80 + ch.toNat / 64 % 64))
            (UInt8.ofNat (0x80 + ch.toNat % 64)) = some ch := by
          unfold decodeFour? isContinuation
          rw [ha, hbb, hc, hdd]
          have hv : (0xf0 + ch.toNat / 262144 - 0xf0) * 262144
              + (0x80 + ch.toNat / 4096 % 64 - 0x80) * 4096
              + (0x80 + ch.toNat / 64 % 64 - 0x80) * 64 + (0x80 + ch.toNat % 64 - 0x80)
                = ch.toNat := by omega
          simp only [hv, hch]
          rw [if_pos]
          simp only [Bool.and_eq_true, decide_eq_true_eq]
          omega
        simp only [ha, hd]
        rw [if_neg (by omega), if_neg (by omega), if_neg (by omega), if_neg (by omega),
          if_pos (by omega)]

/-- Written text reads back. -/
theorem decode?_encode : ∀ text : List Char, decode? (encode text) = some text
  | [] => rfl
  | c :: cs => by
    rw [encode_cons, decode?_encodeChar_append, decode?_encode cs]
    rfl

end Text

end HybridGraphics
