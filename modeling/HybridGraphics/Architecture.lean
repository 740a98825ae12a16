import HybridGraphics.World

/-!
# The system's architecture

Drivers for the X server are installed beneath a directory named for the
architecture. Which one that is, the package manager knows, unless the
configuration says so.
-/

namespace HybridGraphics.Architecture

inductive Error where
  | packageManager (cause : Fault)
  | unsupported (architecture : String)
  deriving DecidableEq, Repr

namespace Error

/-- The error and what it was caused by, outermost first. -/
def chain : Error → List String
  | packageManager cause => ["failed to run dpkg --print-architecture", cause.message]
  | unsupported architecture => [s!"the {architecture} architecture is not supported"]

end Error

/-- The library directory of a supported architecture. -/
def triplet? (architecture : String) : Option String :=
  if architecture = "amd64" then some "x86_64-linux-gnu"
  else if architecture = "i386" then some "i386-linux-gnu"
  else if architecture = "arm64" then some "aarch64-linux-gnu"
  else none

variable {σ : Type}

/-- The name of an architecture: the given one, or the package manager's answer. -/
def name (given : Option String) : Act σ (Except Error String) := do
  match given with
  | some architecture => return .ok architecture
  | none =>
    match ← Act.call "dpkg" ["--print-architecture"] with
    | .ok output => return .ok (String.ofList (Text.trim output.toList))
    | .error cause => return .error (.packageManager cause)

/-- The library directory of this system's architecture. -/
def triplet (given : Option String) : Act σ (Except Error String) := do
  match ← name given with
  | .error cause => return .error cause
  | .ok architecture =>
    Act.info s!"Architecture: {architecture}"
    match triplet? architecture with
    | some triplet => return .ok triplet
    | none => return .error (.unsupported architecture)

end HybridGraphics.Architecture
