import HybridGraphics.Text.Pieces

/-!
# Paths

A path is the text of a base directory and the names that lead on from it. The
base is kept as it was given, because messages show it so; the names are what
the rest of the program computes with. A name may be empty, where the text has
two slashes in a row, or a single dot; such a name is idle, and `Path.parent?`
passes over it. `Path.route` is the list of components that a file tree follows
from its root, and `Path.text` is what a message shows.
-/

namespace HybridGraphics

/-- The name of a directory entry. -/
abbrev FileName := String

structure Path where
  /-- The directory the names start from, as it was given. -/
  base : String
  names : List FileName
  /-- True if a slash stands after the last name. -/
  endsInSlash : Bool := false
  deriving DecidableEq, Repr

namespace Path

/-- The components of a path's text. An empty component stays where it is. -/
def components (text : String) : List FileName :=
  (Text.pieces (· == '/') text.toList).map String.ofList

/-- The path with these components after the base. An empty one at the end is a slash. -/
def ofTail (base : String) (tail : List FileName) : Path :=
  if tail.getLast? = some "" then { base, names := tail.dropLast, endsInSlash := true }
  else { base, names := tail }

/-- The path that components lead to from a base directory. Components that begin with an empty one
have the root for a base, unless there are no others. -/
def ofComponents (base : String) (components : List FileName) : Path :=
  match components with
  | "" :: rest => if rest.isEmpty then ofTail base [""] else ofTail "/" rest
  | names => ofTail base names

/-- The path that a text leads to from a base directory. A text that begins with
a slash has a base of its own, and an empty one leads to the base. -/
def join (base text : String) : Path := ofComponents base (components text)

/-- The components after the base. A slash at the end counts as an empty one. -/
def tail (p : Path) : List FileName := p.names ++ if p.endsInSlash then [""] else []

/-- The components from the root of the tree. -/
def route (p : Path) : List FileName := components p.base ++ p.tail

/-- The path of an entry of this directory. -/
def child (p : Path) (name : FileName) : Path := { base := p.base, names := p.names ++ [name] }

/-- The path that further names lead to. -/
def below (p : Path) (names : List FileName) : Path := { base := p.base, names := p.names ++ names }

/-- The components of the path's text: where the base ends in a slash, none stands between that and
the names. -/
def parts (p : Path) : List FileName :=
  let above := components p.base
  if p.tail.isEmpty then above
  else (if above.getLast? = some "" then above.dropLast else above) ++ p.tail

/-- The same path with every directory on the way as a name. Its base is the root, or nothing if its
text does not begin there. -/
def spelledOut (p : Path) : Path := ofComponents "" p.parts

/-- True of a component that leads from a directory to itself. -/
def isIdle (name : FileName) : Bool := name = "" || name = "."

/-- The directory that holds the entry, if the path has a name at all. Idle
components at the end belong to no name. -/
def parent? (p : Path) : Option Path :=
  match p.names.reverse.dropWhile isIdle with
  | [] => none
  | _ :: above => some { base := p.base, names := (above.dropWhile isIdle).reverse }

/-- The path as a message shows it. -/
def text (p : Path) : String :=
  if p.tail.isEmpty then p.base
  else
    let tail := "/".intercalate p.tail
    if p.base.isEmpty || p.base.toList.getLast? == some '/' then p.base ++ tail
    else p.base ++ "/" ++ tail

/-- What stands after the last dot of a name, unless that dot is its first character. -/
def extension? (name : FileName) : Option (List Char) :=
  match (Text.pieces (· == '.') name.toList).reverse with
  -- a dot in front makes a hidden name, not an extension
  | last :: before :: more => if before.isEmpty && more.isEmpty then none else some last
  | _ => none

instance : ToString Path := ⟨text⟩

end Path

end HybridGraphics
