import HybridGraphics.Text.Utf8
import Mathlib.Algebra.Group.Nat.Defs

/-!
# The order of texts is the order of their bytes

Names are put in order by their characters, and the machine knows them by their bytes. Both orders
are lexicographic, and they agree (`encode_lt_encode_iff`).

The bytes after the first are the low groups of six bits of the code point, the highest first
(`encodeChar_eq`), so among characters of as many bytes the order is that of the numbers
(`continuing_append_lt`). A character of fewer bytes is smaller, and its first byte is already, since
each number of bytes has first bytes of its own (`firstByte_lt`).
-/

namespace HybridGraphics.Text

/-! ## The bytes of a character -/

/-- How many bytes follow the first in the form of a code point. -/
def continuingBytes (n : Nat) : Nat :=
  if n < 0x80 then 0 else if n < 0x800 then 1 else if n < 0x10000 then 2 else 3

/-- The least first byte of a form with so many bytes after it. -/
def leastFirst : Nat → Nat
  | 0 => 0
  | 1 => 0xc0
  | 2 => 0xe0
  | 3 => 0xf0
  | _ => 0xf8

/-- The first byte in the form of a code point. -/
def firstByte (n : Nat) : Nat := leastFirst (continuingBytes n) + n / 64 ^ continuingBytes n

/-- The bytes that the low groups of six bits are written as. -/
def continuing : Nat → Nat → Bytes
  | 0, _ => []
  | k + 1, n => continuing k (n / 64) ++ [UInt8.ofNat (0x80 + n % 64)]

/-- The form of a code point is its first byte and those that continue it, as many as its size calls
for. -/
theorem encodeChar_eq (c : Char) :
    encodeChar c = UInt8.ofNat (firstByte c.toNat) ::
      continuing (continuingBytes c.toNat) c.toNat := by
  have hdiv : ∀ n : Nat, n / 64 / 64 = n / 4096 := fun n => Nat.div_div_eq_div_mul n 64 64
  unfold encodeChar firstByte continuingBytes
  simp only
  split
  next => simp [leastFirst, continuing]
  next =>
    split
    next => simp [leastFirst, continuing]
    next => split <;> simp [leastFirst, continuing, hdiv]

theorem continuingBytes_lt (n : Nat) : continuingBytes n < 4 := by
  unfold continuingBytes
  grind

theorem continuingBytes_le {m n : Nat} (h : m ≤ n) : continuingBytes m ≤ continuingBytes n := by
  unfold continuingBytes
  grind

/-- Each number of bytes has first bytes of its own. -/
theorem firstByte_lt {n : Nat} (h : n < 0x110000) :
    firstByte n < leastFirst (continuingBytes n + 1) := by
  unfold firstByte continuingBytes
  split
  next => simp only [leastFirst]; omega
  next =>
    split
    next => simp only [leastFirst]; omega
    next => split <;> simp only [leastFirst] <;> omega

/-- The least first byte grows with the form. -/
theorem leastFirst_le {j k : Nat} (h : j ≤ k) (hk : k ≤ 4) : leastFirst j ≤ leastFirst k := by
  have hall : ∀ k ≤ 4, ∀ j ≤ k, leastFirst j ≤ leastFirst k := by decide
  exact hall k hk j h

/-! ## The order of characters -/

/-- Of two texts, that with the lesser first byte comes first. -/
theorem ofNat_cons_lt {m n : Nat} (hm : m < 256) (hn : n < 256) (h : m < n) (xs ys : Bytes) :
    UInt8.ofNat m :: xs < UInt8.ofNat n :: ys := by
  rw [List.cons_lt_cons_iff, UInt8.lt_iff_toNat_lt, toNat_byte hm, toNat_byte hn]
  exact .inl h

/-- Where the higher bits are the same, the low ones are in the order of the numbers. -/
theorem continuing_append_lt : ∀ (k : Nat) {m n : Nat}, m / 64 ^ k = n / 64 ^ k → m < n →
    ∀ xs ys : Bytes, continuing k m ++ xs < continuing k n ++ ys
  | 0, m, n, hsame, h, _, _ => by
    rw [Nat.pow_zero, Nat.div_one, Nat.div_one] at hsame
    omega
  | k + 1, m, n, hsame, h, xs, ys => by
    have hhigh : m / 64 / 64 ^ k = n / 64 / 64 ^ k := by
      rw [Nat.div_div_eq_div_mul, Nat.div_div_eq_div_mul, ← Nat.pow_add_one', hsame]
    simp only [continuing, List.append_assoc, List.singleton_append]
    by_cases hgroups : m / 64 = n / 64
    · rw [hgroups]
      exact List.append_left_lt (ofNat_cons_lt (by omega) (by omega) (by omega) xs ys)
    · exact continuing_append_lt k hhigh (by omega) _ _

/-- What begins with a smaller character is smaller, whatever follows. -/
theorem encodeChar_append_lt {c d : Char} (h : c < d) (xs ys : Bytes) :
    encodeChar c ++ xs < encodeChar d ++ ys := by
  have hlt : c.toNat < d.toNat := UInt32.lt_iff_toNat_lt.mp (Char.lt_def.mp h)
  have hbounds : ∀ c : Char, c.toNat < 0x110000 := fun c => by
    have := toNat_bounds c
    omega
  have hbyte : ∀ c : Char, continuingBytes c.toNat + 1 ≤ 4 ∧ firstByte c.toNat < 256 := by
    intro c
    have hle : continuingBytes c.toNat + 1 ≤ 4 := continuingBytes_lt c.toNat
    have hfirst := firstByte_lt (hbounds c)
    have hleast := leastFirst_le hle (Nat.le_refl 4)
    exact ⟨hle, Nat.lt_of_lt_of_le hfirst (Nat.le_trans hleast (by decide))⟩
  rw [encodeChar_eq, encodeChar_eq]
  rcases Nat.lt_or_eq_of_le (continuingBytes_le (Nat.le_of_lt hlt)) with hfewer | hsame
  · have hfirst : firstByte c.toNat < firstByte d.toNat :=
      calc firstByte c.toNat
        _ < leastFirst (continuingBytes c.toNat + 1) := firstByte_lt (hbounds c)
        _ ≤ leastFirst (continuingBytes d.toNat) :=
          leastFirst_le hfewer (Nat.le_of_succ_le (hbyte d).1)
        _ ≤ firstByte d.toNat := Nat.le_add_right _ _
    exact ofNat_cons_lt (hbyte c).2 (hbyte d).2 hfirst _ _
  · have hfirst : firstByte c.toNat ≤ firstByte d.toNat := by
      unfold firstByte
      rw [hsame]
      exact Nat.add_le_add_left (Nat.div_le_div_right (Nat.le_of_lt hlt)) _
    rcases Nat.lt_or_eq_of_le hfirst with hless | heq
    · exact ofNat_cons_lt (hbyte c).2 (hbyte d).2 hless _ _
    · have hhigh : c.toNat / 64 ^ continuingBytes d.toNat =
          d.toNat / 64 ^ continuingBytes d.toNat := by
        unfold firstByte at heq
        rw [hsame] at heq
        exact Nat.add_left_cancel heq
      rw [heq, hsame]
      exact List.cons_lt_cons_iff.mpr (.inr ⟨rfl, continuing_append_lt _ hhigh hlt xs ys⟩)

/-! ## The order of texts -/

/-- A text that comes first by its characters comes first by its bytes. -/
theorem encode_lt_encode : ∀ {s t : List Char}, s < t → encode s < encode t
  | s, [], h => absurd h (List.not_lt_nil s)
  | [], d :: t, _ => by
    rw [encode_cons, encodeChar_eq]
    exact List.nil_lt_cons _ _
  | c :: s, d :: t, h => by
    rw [encode_cons, encode_cons]
    rcases List.cons_lt_cons_iff.mp h with hlt | ⟨rfl, hlt⟩
    · exact encodeChar_append_lt hlt _ _
    · exact List.append_left_lt (encode_lt_encode hlt)

/-- Texts are in the order of their bytes. -/
theorem encode_lt_encode_iff {s t : List Char} : encode s < encode t ↔ s < t := by
  refine ⟨fun h => ?_, encode_lt_encode⟩
  by_cases hlt : s < t
  · exact hlt
  · rcases List.le_iff_lt_or_eq.mp (List.not_lt.mp hlt) with hlt' | heq
    · exact absurd (encode_lt_encode hlt') (List.lt_asymm h)
    · rw [heq] at h
      exact absurd h (List.lt_irrefl _)

end HybridGraphics.Text
