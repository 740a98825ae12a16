import HybridGraphics.Json.Reader

/-!
# The list of supported cards

The driver comes with a list of the cards it supports and their features, as
JSON: an object with the member `chips`, each chip an object with the members
`devid`, `name` and `features`, of which only the first is required. Either may
also be written as an array of its members in that order. Other members are
passed over, a repeated one makes the list unreadable.
-/

namespace HybridGraphics.RuntimePm

structure Chip where
  /-- The card's model number, hexadecimal. -/
  id : List Char
  name : List Char := []
  features : List (List Char) := []
  deriving DecidableEq, Repr

/-! ## Decoding -/

/-- The members of an object under the text of their keys. -/
def keyed? : List (Bytes × Json) → Option (List (List Char × Json))
  | [] => some []
  | (raw, value) :: rest => do
    let key ← Json.decodeString? raw
    let rest ← keyed? rest
    some ((key, value) :: rest)

/-- Whether a member occurs, and its value; repeated, it has none. -/
def member? (key : String) (members : List (List Char × Json)) : Option (Option Json) :=
  match members.filter (·.1 == key.toList) with
  | [] => some none
  | [(_, value)] => some (some value)
  | _ => none

/-- The texts of an array of strings. -/
def texts? (value : Json) : Option (List (List Char)) := do
  let elements ← value.elements?
  elements.mapM Json.text?

namespace Chip

/-- A chip from the values of its members, the optional ones by default empty. -/
def ofValues? (id : Json) (name features : Option Json) : Option Chip := do
  let id ← id.text?
  let name ← match name with
    | some value => value.text?
    | none => some []
  let features ← match features with
    | some value => texts? value
    | none => some []
  some { id, name, features }

def ofJson? : Json → Option Chip
  | .array [id] => ofValues? id none none
  | .array [id, name] => ofValues? id (some name) none
  | .array [id, name, features] => ofValues? id (some name) (some features)
  | .object members => do
    let members ← keyed? members
    let id ← member? "devid" members
    let name ← member? "name" members
    let features ← member? "features" members
    ofValues? (← id) name features
  | _ => none

end Chip

/-! ## Looking a card up -/

/-- The text without the mark at its start, however often that stands there. -/
def dropMarks (mark : List Char) : Nat → List Char → List Char
  | 0, text => text
  | times + 1, text =>
    if mark.isPrefixOf text then dropMarks mark times (text.drop mark.length) else text

/-- The number a chip's id stands for, after any base marks. -/
def modelNumber? (id : List Char) : Option UInt16 :=
  -- the length bounds how often a mark can stand there
  let id := dropMarks "0x".toList id.length id
  Text.readHex16? (dropMarks "0X".toList id.length id)

/-- The chips of a list. -/
def chipsOfJson? : Json → Option (List Chip)
  | .array [chips] => do
    let elements ← chips.elements?
    elements.mapM Chip.ofJson?
  | .object members => do
    let members ← keyed? members
    let chips ← member? "chips" members
    let elements ← (← chips).elements?
    elements.mapM Chip.ofJson?
  | _ => none

/-- The chips of a list file. -/
def parseChips? (content : Bytes) : Option (List Chip) := (Json.parse? content).bind chipsOfJson?

/-- The first chip with this model number. A chip whose id is no number is passed over. -/
def findChip? (chips : List Chip) (model : UInt16) : Option Chip :=
  chips.find? fun chip => modelNumber? chip.id == some model

end HybridGraphics.RuntimePm
