import HybridGraphics.Snapshot.Format
import HybridGraphics.Text.Quoted

/-!
# The stored snapshot

`load` reads the snapshot of the last boot, and writes a placeholder record
where there is none yet, so that the boot after this one finds a file. `save`
replaces it by the devices of this boot. A file that cannot be read is an error,
not a first boot.
-/

namespace HybridGraphics.Snapshot

open Pci (Device)

inductive Error where
  | create (file : Path) (cause : Fault)
  | read (file : Path) (cause : Fault)
  | write (file : Path) (cause : Fault)
  deriving DecidableEq, Repr

namespace Error

/-- The error and what it was caused by, outermost first. -/
def chain : Error → List String
  | create file cause =>
    ["failed to create the device snapshot at " ++ Text.quote file.text, cause.message]
  | read file cause =>
    ["failed to read the device snapshot at " ++ Text.quote file.text, cause.message]
  | write file cause =>
    ["failed to write the device snapshot at " ++ Text.quote file.text, cause.message]

end Error

/-- Whether a snapshot of an earlier boot was found. -/
inductive Status where
  | existed
  /-- There was none; the file now holds a placeholder record. -/
  | created
  deriving DecidableEq, Repr

/-- What stands in for the devices of a boot that was not recorded. -/
def placeholder : List Device := [{}]

variable {σ : Type}

/-- Reads the snapshot, creating it with a placeholder where it is missing. -/
def load (file : Path) : Act σ (Except Error (List Device × Status)) := do
  match (← get).tree.read file with
  | .ok content =>
    match ← Act.look fun _ => parse content with
    | .ok devices => return .ok (devices, .existed)
    | .error cause => return .error (.read file cause)
  | .error .notFound =>
    Act.info s!"{file.text} not found, creating it"
    match ← Act.writeText file (serialize placeholder) with
    | .ok () => return .ok (placeholder, .created)
    | .error cause => return .error (.create file cause)
  | .error cause => return .error (.read file cause)

/-- Replaces the snapshot by these devices. -/
def save (file : Path) (devices : List Device) : Act σ (Except Error Unit) := do
  match ← Act.writeText file (serialize devices) with
  | .ok () => return .ok ()
  | .error cause => return .error (.write file cause)

end HybridGraphics.Snapshot
