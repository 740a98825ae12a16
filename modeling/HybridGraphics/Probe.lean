import HybridGraphics.World

/-!
# Small questions about files

The state a run is decided on is spread over small files: a version, a flag, a
command line. These readers take such a file for what it says and treat a file
that cannot be read as one that says nothing.
-/

namespace HybridGraphics.Probe

/-- True if the file exists and holds at least one byte. A directory counts as
holding something. -/
def holdsBytes (p : Path) (t : FileTree) : Noted Bool :=
  match t.entry p with
  | .ok (.file content _) => pure !content.isEmpty
  | .ok _ => pure true
  | .error _ => do
    Noted.debug s!"can't access {p.text}"
    pure false

/-- The first line of a text without the blanks around it, if anything is left. -/
def firstLineOf (text : List Char) : Option (List Char) :=
  match Text.lines text with
  | [] => none
  | line :: _ =>
    let line := Text.trim line
    if line.isEmpty then none else some line

/-- The first line of a file without the blanks around it, if anything is left. -/
def firstLine (p : Path) (t : FileTree) : Option (List Char) :=
  match t.readText p with
  | .ok text => firstLineOf text
  | .error _ => none

/-- True if the file's text has the pattern in it, ASCII letters of either case being equal. -/
def mentions (pattern : String) (p : Path) (t : FileTree) : Bool :=
  match t.readText p with
  | .ok text => Text.occursIn (Text.lowerAscii pattern.toList) (Text.lowerAscii text)
  | .error _ => false

/-- The kernel parameter that turns arbitration off for one boot. -/
def kernelOptOut : String := "nogpumanager"

/-- True if the kernel command line turns arbitration off. -/
def optedOut (cmdline : Path) (t : FileTree) : Bool := mentions kernelOptOut cmdline t

end HybridGraphics.Probe
