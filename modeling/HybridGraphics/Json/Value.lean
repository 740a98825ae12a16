import HybridGraphics.Text.Numeral
import HybridGraphics.Text.Utf8

/-!
# JSON values

A JSON text as a tree. Strings and numbers are kept as they are written: a
reader that wants a string asks for `decodeString?`, and one that passes a value
over need not care whether its strings are well-formed text. An object keeps its
members in order, repeated keys included.
-/

namespace HybridGraphics

inductive Json where
  | null
  | bool (value : Bool)
  /-- A number, as written. -/
  | number (digits : Bytes)
  /-- A string, as written between its quotes. -/
  | string (raw : Bytes)
  | array (elements : List Json)
  | object (members : List (Bytes × Json))

namespace Json

/-! ## The text of a string -/

/-- The byte of an ASCII character. -/
def byte (c : Char) : UInt8 := UInt8.ofNat c.toNat

/-- The value of four hexadecimal digits. -/
def hexValue? (a b c d : UInt8) : Option Nat := do
  let digit (x : UInt8) : Option Nat := Text.digitOf 16 (Char.ofNat x.toNat)
  let a ← digit a
  let b ← digit b
  let c ← digit c
  let d ← digit d
  some (((a * 16 + b) * 16 + c) * 16 + d)

/-- The character that a one-letter escape stands for. -/
def shortEscape? (letter : UInt8) : Option Char :=
  if letter = byte '"' then some '"'
  else if letter = byte '\\' then some '\\'
  else if letter = byte '/' then some '/'
  else if letter = byte 'b' then some '\x08'
  else if letter = byte 'f' then some '\x0c'
  else if letter = byte 'n' then some '\n'
  else if letter = byte 'r' then some '\r'
  else if letter = byte 't' then some '\t'
  else none

/-- True for the first half of a pair of code units. -/
def isHighSurrogate (n : Nat) : Bool := 0xd800 ≤ n && n < 0xdc00

/-- True for the second half of a pair of code units. -/
def isLowSurrogate (n : Nat) : Bool := 0xdc00 ≤ n && n < 0xe000

/-- The bytes that a string's raw form stands for. Halves of pairs have to stand together. -/
def unescape? : Bytes → Option Bytes
  | [] => some []
  | x :: rest =>
    if x ≠ 0x5c then (unescape? rest).map (x :: ·)
    else
      match rest with
      | 0x75 :: a :: b :: c :: d :: rest =>
        match hexValue? a b c d with
        | none => none
        | some high =>
          -- the second half of a pair cannot stand first
          if isLowSurrogate high then none
          else if isHighSurrogate high then
            match rest with
            | 0x5c :: 0x75 :: e :: f :: g :: h :: rest =>
              match hexValue? e f g h with
              | none => none
              | some low =>
                if isLowSurrogate low then
                  let point := 0x10000 + (high - 0xd800) * 0x400 + (low - 0xdc00)
                  (unescape? rest).map (Text.encodeChar (Char.ofNat point) ++ ·)
                else none
            | _ => none
          else (unescape? rest).map (Text.encodeChar (Char.ofNat high) ++ ·)
      | letter :: rest =>
        match shortEscape? letter with
        | some c => (unescape? rest).map (Text.encodeChar c ++ ·)
        | none => none
      | [] => none

/-- The text that a string's raw form stands for. -/
def decodeString? (raw : Bytes) : Option (List Char) := (unescape? raw).bind Text.decode?

/-- The text of a string value. -/
def text? : Json → Option (List Char)
  | string raw => decodeString? raw
  | _ => none

/-- The elements of an array. -/
def elements? : Json → Option (List Json)
  | array elements => some elements
  | _ => none

end Json

end HybridGraphics
