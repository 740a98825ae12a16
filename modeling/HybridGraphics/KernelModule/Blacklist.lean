import HybridGraphics.Config
import HybridGraphics.World

/-!
# Blacklisted modules

The operator keeps a module from loading by a line `blacklist NAME` in a file
with the extension `conf` in a modprobe directory. The line has nothing else on
it but spaces and tabs after the name, and at least one of them before it. A
line ends at a newline only, so one that ends in a carriage return does not
count.
-/

namespace HybridGraphics.KernelModule

/-! ## The line -/

/-- The blanks within a modprobe line. -/
def isInlineBlank (c : Char) : Bool := c = ' ' || c = '\t'

/-- The text after `start`, if it begins with that. -/
def afterStart? (start text : List Char) : Option (List Char) :=
  if start.isPrefixOf text then some (text.drop start.length) else none

/-- True if the text goes on with the name, blanks, and the end of the line. -/
def namesToLineEnd (name text : List Char) : Bool :=
  match afterStart? name text with
  | none => false
  | some rest =>
    -- blanks may follow, and then the line or the text ends
    match rest.dropWhile isInlineBlank with
    | [] => true
    | c :: _ => c = '\n'

/-- True if the text goes on with blanks, at least one, and then the name to the end of the line. -/
def blanksThenName (name : List Char) : List Char → Bool
  | [] => false
  -- a name may begin with a blank itself, so every blank is tried as the last
  | c :: rest => isInlineBlank c && (namesToLineEnd name rest || blanksThenName name rest)

/-- What follows each newline of a text. -/
def afterNewlines : List Char → List (List Char)
  | [] => []
  | c :: rest => if c = '\n' then rest :: afterNewlines rest else afterNewlines rest

/-- True if a line of the text blacklists the module. -/
def blacklistedIn (text : List Char) (name : List Char) : Bool :=
  (text :: afterNewlines text).any fun line =>
    match afterStart? "blacklist".toList line with
    | some rest => blanksThenName name rest
    | none => false

/-! ## Where it is looked for -/

/-- Characters with a meaning of their own in a search pattern. -/
def patternMarks : List Char :=
  ['\\', '.', '+', '*', '?', '(', ')', '|', '[', ']', '\x7b', '\x7d', '^', '$', '#', '&', '-', '~']

/-- The lines that blacklist a module, as the search pattern shown to the operator. -/
def shownPattern (name : String) : String :=
  let escaped := name.toList.flatMap fun c => if patternMarks.contains c then ['\\', c] else [c]
  "(?m)^blacklist[ \\t]+" ++ String.ofList escaped ++ "[ \\t]*$"

/-- A file that blacklists the module, if this entry is one. -/
def checkFile (name : String) (dir : Path) (t : FileTree) (entry : FileName) :
    Noted (Option Path) := do
  let file := dir.child entry
  if Path.extension? entry != some "conf".toList then return none
  else
    match t.readText file with
    | .error _ => return none
    | .ok text =>
      if blacklistedIn text name.toList then
        Noted.info (shownPattern name ++ " blacklisted in " ++ file.text)
        return some file
      else return none

/-- The first file in a directory that blacklists the module. -/
def checkDir (name : String) (t : FileTree) (dir : Path) : Noted (Option Path) :=
  match t.list dir with
  | .ok entries => Noted.findM? (checkFile name dir t) entries
  | .error _ => return none

/-- True if a file in one of the modprobe directories blacklists the module. -/
def isBlacklisted (config : Config) (name : String) (t : FileTree) : Noted Bool := do
  return (← Noted.findM? (checkDir name t) config.modprobeDirs).isSome

end HybridGraphics.KernelModule
