/-!
# Unsigned numerals

Device ids and bus addresses are read and written as hexadecimal digits, version
numbers and chassis types as decimal ones. `read` accepts an optional plus sign
and at least one digit of either case, and refuses a value above its limit;
which refusal it gives is decided by the first character, from the left, at
which the numeral cannot go on. `hexPadded` writes at least the given number of
lower-case digits.
-/

namespace HybridGraphics.Text

/-! ## Reading -/

/-- Why a text is no numeral within the limit. -/
inductive NumeralError where
  | noDigits
  | invalidDigit
  | overflow
  deriving DecidableEq, Repr

namespace NumeralError

def message : NumeralError → String
  | noDigits => "cannot parse integer from empty string"
  | invalidDigit => "invalid digit found in string"
  | overflow => "number too large to fit in target type"

end NumeralError

/-- The value of a digit, letters of either case standing for ten and above. -/
def digitValue (c : Char) : Option Nat :=
  let n := c.toNat
  if 0x30 ≤ n && n ≤ 0x39 then some (n - 0x30)
  else if 0x61 ≤ n && n ≤ 0x7a then some (n - 0x61 + 10)
  else if 0x41 ≤ n && n ≤ 0x5a then some (n - 0x41 + 10)
  else none

/-- The value of a digit of the given base. -/
def digitOf (base : Nat) (c : Char) : Option Nat :=
  (digitValue c).filter (· < base)

/-- Reads digits onto `value`, never past `limit`. -/
def readDigits (base limit : Nat) : Nat → List Char → Except NumeralError Nat
  | value, [] => .ok value
  | value, c :: cs =>
    match digitOf base c with
    | none => .error .invalidDigit
    | some d =>
      let next := value * base + d
      if limit < next then .error .overflow else readDigits base limit next cs

/-- Reads a whole text as a numeral of at most `limit`. -/
def read (base limit : Nat) : List Char → Except NumeralError Nat
  | [] => .error .noDigits
  | ['+'] => .error .invalidDigit
  | '+' :: digits => readDigits base limit 0 digits
  | digits => readDigits base limit 0 digits

/-- The value of a numeral, if it can be read. -/
def read? (base limit : Nat) (text : List Char) : Option Nat := (read base limit text).toOption

/-- A hexadecimal numeral of at most 16 bits. -/
def readHex16? (text : List Char) : Option UInt16 := (read? 16 0xffff text).map UInt16.ofNat

/-- A hexadecimal numeral of at most 8 bits. -/
def readHex8? (text : List Char) : Option UInt8 := (read? 16 0xff text).map UInt8.ofNat

/-- A decimal numeral of at most 32 bits. -/
def readDecimal32? (text : List Char) : Option Nat := read? 10 0xffffffff text

/-! ## Writing -/

/-- Lower-case hexadecimal digits, with zeros in front up to `width`. -/
def hexPadded (width n : Nat) : List Char := (Nat.toDigits 16 n).leftpad width '0'

/-- As few lower-case hexadecimal digits as possible. -/
def hex (n : Nat) : List Char := Nat.toDigits 16 n

/-- Decimal digits. -/
def decimal (n : Nat) : List Char := Nat.toDigits 10 n

theorem hexPadded_of_le {width n : Nat} (h : width ≤ (Nat.toDigits 16 n).length) :
    hexPadded width n = hex n := by
  unfold hexPadded hex List.leftpad
  rw [Nat.sub_eq_zero_of_le h]
  rfl

end HybridGraphics.Text
