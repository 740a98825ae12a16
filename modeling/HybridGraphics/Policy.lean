import HybridGraphics.Probe
import HybridGraphics.Text.Quoted

/-!
# The operator's policy

A one-line file says what the discrete GPU is for: nothing, every output, or
single programs on demand. It is edited by hand, so it is read generously: the
first line decides, in either case, by the words it contains. A file that is
missing, empty or unreadable means off.
-/

namespace HybridGraphics

inductive Policy where
  | off
  | on
  | onDemand
  deriving DecidableEq, Repr, Inhabited

namespace Policy

def text : Policy → String
  | off => "off"
  | on => "on"
  | onDemand => "on-demand"

instance : ToString Policy := ⟨text⟩

/-- Reads a policy by the word that the text contains. -/
def ofText (line : List Char) : Policy :=
  let line := Text.lowerAscii line
  if Text.occursIn "on-demand".toList line then onDemand
  else if Text.occursIn "on".toList line then on
  else off

structure WriteError where
  file : Path
  cause : Fault
  deriving DecidableEq, Repr

namespace WriteError

/-- The error and what it was caused by, outermost first. -/
def chain (e : WriteError) : List String :=
  ["failed to write the PRIME policy to " ++ Text.quote e.file.text, e.cause.message]

end WriteError

/-- The policy that a file with some content says. -/
def readContent (file : Path) (t : FileTree) : Noted Policy := do
  match t.readText file with
  | .ok text => return ofText ((Text.lines text).head?.getD [])
  | .error cause =>
    Noted.warn s!"unable to read {file.text}: {cause.message}"
    return off

/-- The policy in a file. -/
def read (file : Path) (t : FileTree) : Noted Policy := do
  if ← Probe.holdsBytes file t then
    let policy ← readContent file t
    Noted.info s!"PRIME policy: {policy}"
    return policy
  else
    Noted.info s!"No PRIME policy at {file.text}. Assuming off"
    return off

/-- Overwrites the policy file. -/
def write {σ : Type} (file : Path) (policy : Policy) : Act σ (Except WriteError Unit) := do
  Act.info s!"Setting the PRIME policy to {policy}"
  match ← Act.writeText file (policy.text.toList ++ ['\n']) with
  | .ok () => return .ok ()
  | .error cause => return .error ⟨file, cause⟩

end Policy

end HybridGraphics
