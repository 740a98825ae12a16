import HybridGraphics.FileTree.Access
import HybridGraphics.Text.Blank
import HybridGraphics.Text.Numeral

/-!
# Device attributes

The kernel shows the class, vendor and model of a PCI device in small text files
such as `0x030000`: two bytes that mark the base and are not looked at, then
hexadecimal digits, with blanks around the digits allowed. A text too short for
the mark, or with a character across its end, is malformed.
-/

namespace HybridGraphics.Pci

/-- Why an attribute has no value. -/
inductive AttributeError where
  | unreadable (cause : Fault)
  | notNumeral (cause : Text.NumeralError)
  /-- No two bytes stand in front of the digits. -/
  | malformed
  deriving DecidableEq, Repr

namespace AttributeError

def message : AttributeError → String
  | unreadable cause => cause.message
  | notNumeral cause => cause.message
  | malformed => "no base mark in front of the digits"

end AttributeError

/-- The text after its first two bytes, if a character ends there. -/
def afterBaseMark : List Char → Option (List Char)
  | [] => none
  | c :: rest =>
    if c.utf8Size = 2 then some rest
    else if c.utf8Size = 1 then
      match rest with
      | [] => none
      | d :: rest => if d.utf8Size = 1 then some rest else none
    else none

/-- The value of an attribute's text. -/
def attributeValue (limit : Nat) (text : List Char) : Except AttributeError Nat :=
  match afterBaseMark text with
  | none => .error .malformed
  | some digits => (Text.read 16 limit (Text.trim digits)).mapError .notNumeral

/-- The value of an attribute file, at most `limit`. -/
def readAttribute (t : FileTree) (p : Path) (limit : Nat) : Except AttributeError Nat :=
  match t.readText p with
  | .error cause => .error (.unreadable cause)
  | .ok text => attributeValue limit text

end HybridGraphics.Pci
