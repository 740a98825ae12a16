import HybridGraphics.Json.Value

/-!
# Reading JSON

`Json.parse?` reads one value from bytes, with blanks around it and nothing
else. The grammar is the strict one: no comments, no trailing commas, no leading
zeros. Values nest to any depth. The reader is bounded by a count of steps that
`parse?` takes from the length of the input: each step but one in two takes a
byte, so the bound is never what makes a text unreadable.
-/

namespace HybridGraphics.Json

/-! ## Blanks, strings and numbers -/

/-- The bytes after any blanks. -/
def skipBlanks (s : Bytes) : Bytes :=
  s.dropWhile fun x => x = 0x20 || x = 0x09 || x = 0x0a || x = 0x0d

def isDigit (x : UInt8) : Bool := 0x30 ≤ x && x ≤ 0x39

/-- A string's raw form up to its closing quote, and the bytes after that. -/
def scanString? : Bytes → Option (Bytes × Bytes)
  | [] => none
  | x :: rest =>
    if x = 0x22 then some ([], rest)
    else if x < 0x20 then none
    else if x ≠ 0x5c then (scanString? rest).map fun (raw, rest) => (x :: raw, rest)
    else
      match rest with
      | 0x75 :: a :: b :: c :: d :: rest =>
        if (hexValue? a b c d).isNone then none
        else
          (scanString? rest).map fun (raw, rest) =>
            (x :: 0x75 :: a :: b :: c :: d :: raw, rest)
      | letter :: rest =>
        if (shortEscape? letter).isNone then none
        else (scanString? rest).map fun (raw, rest) => (x :: letter :: raw, rest)
      | [] => none

/-- One or more digits, and the bytes after them. -/
def scanDigits? (s : Bytes) : Option (Bytes × Bytes) :=
  let (digits, rest) := s.span isDigit
  if digits.isEmpty then none else some (digits, rest)

/-- Digits without a leading zero, unless zero is all there is. -/
def scanWhole? (s : Bytes) : Option (Bytes × Bytes) := do
  let (digits, rest) ← scanDigits? s
  if digits.head? = some 0x30 && digits.length ≠ 1 then none else some (digits, rest)

/-- The fraction of a number, if a point begins one. -/
def scanFraction? : Bytes → Option (Bytes × Bytes)
  | 0x2e :: rest => (scanDigits? rest).map fun (digits, rest) => (0x2e :: digits, rest)
  | s => some ([], s)

/-- The exponent of a number, if a letter begins one. -/
def scanExponent? : Bytes → Option (Bytes × Bytes)
  | x :: rest =>
    if x = 0x65 || x = 0x45 then
      match rest with
      | sign :: more =>
        if sign = 0x2b || sign = 0x2d then
          (scanDigits? more).map fun (digits, rest) => (x :: sign :: digits, rest)
        else (scanDigits? rest).map fun (digits, rest) => (x :: digits, rest)
      | [] => none
    else some ([], x :: rest)
  | [] => some ([], [])

/-- A number without its sign. -/
def scanUnsigned? (s : Bytes) : Option (Bytes × Bytes) := do
  let (whole, s) ← scanWhole? s
  let (fraction, s) ← scanFraction? s
  let (exponent, s) ← scanExponent? s
  some (whole ++ fraction ++ exponent, s)

def scanNumber? : Bytes → Option (Bytes × Bytes)
  | 0x2d :: rest => (scanUnsigned? rest).map fun (digits, rest) => (0x2d :: digits, rest)
  | s => scanUnsigned? s

/-- The bytes after a word. -/
def afterWord? (word : String) (s : Bytes) : Option Bytes :=
  let spelled := Text.encode word.toList
  if spelled.isPrefixOf s then some (s.drop spelled.length) else none

/-! ## Values -/

/-- A value that is neither array nor object. -/
def scalar? (s : Bytes) : Option (Json × Bytes) :=
  match s with
  | 0x22 :: rest => (scanString? rest).map fun (raw, rest) => (.string raw, rest)
  | 0x6e :: _ => (afterWord? "null" s).map fun rest => (.null, rest)
  | 0x74 :: _ => (afterWord? "true" s).map fun rest => (.bool true, rest)
  | 0x66 :: _ => (afterWord? "false" s).map fun rest => (.bool false, rest)
  | _ => (scanNumber? s).map fun (digits, rest) => (.number digits, rest)

/-- A member's key and the bytes of its value. -/
def scanKey? (s : Bytes) : Option (Bytes × Bytes) :=
  match skipBlanks s with
  | 0x22 :: rest => do
    let (key, rest) ← scanString? rest
    match skipBlanks rest with
    | 0x3a :: rest => some (key, rest)
    | _ => none
  | _ => none

mutual

/-- Reads a value in at most `steps` nested steps. -/
def value? (steps : Nat) (s : Bytes) : Option (Json × Bytes) :=
  match steps with
  | 0 => none
  | steps + 1 =>
    match skipBlanks s with
    | 0x5b :: rest =>
      match skipBlanks rest with
      | 0x5d :: rest => some (.array [], rest)
      | rest => (elements steps rest).map fun (values, rest) => (.array values, rest)
    | 0x7b :: rest =>
      match skipBlanks rest with
      | 0x7d :: rest => some (.object [], rest)
      | rest => (members steps rest).map fun (values, rest) => (.object values, rest)
    | s => scalar? s

/-- Reads the elements of an array up to its end. -/
def elements (steps : Nat) (s : Bytes) : Option (List Json × Bytes) :=
  match steps with
  | 0 => none
  | steps + 1 =>
    match value? steps s with
    | none => none
    | some (first, rest) =>
      match skipBlanks rest with
      | 0x5d :: rest => some ([first], rest)
      | 0x2c :: rest => (elements steps rest).map fun (more, rest) => (first :: more, rest)
      | _ => none

/-- Reads the members of an object up to its end. -/
def members (steps : Nat) (s : Bytes) : Option (List (Bytes × Json) × Bytes) :=
  match steps with
  | 0 => none
  | steps + 1 =>
    match scanKey? s with
    | none => none
    | some (key, rest) =>
      match value? steps rest with
      | none => none
      | some (first, rest) =>
        match skipBlanks rest with
        | 0x7d :: rest => some ([(key, first)], rest)
        | 0x2c :: rest =>
          (members steps rest).map fun (more, rest) => ((key, first) :: more, rest)
        | _ => none

end

/-- Reads a whole text as one value. -/
def parse? (s : Bytes) : Option Json :=
  match value? (2 * s.length + 2) s with
  | some (value, rest) => if (skipBlanks rest).isEmpty then some value else none
  | none => none

end HybridGraphics.Json
