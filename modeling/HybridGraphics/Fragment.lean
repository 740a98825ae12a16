import HybridGraphics.Config
import HybridGraphics.Pci.Device
import HybridGraphics.Text.Quoted
import HybridGraphics.World

/-!
# X server fragments

Two configuration fragments set the X server up for hybrid graphics: one makes
the NVIDIA card primary for every output, the other lets it render for single
programs. Both are generated whole. A fragment on disk is current if it is what
would be generated now, and stale otherwise, be it edited by hand or generated
for other hardware.
-/

namespace HybridGraphics

open Pci (Device)

/-! ## The fragments and their states -/

inductive Fragment where
  /-- Makes the NVIDIA driver the primary one for every output. -/
  | outputClass
  /-- Lets the NVIDIA driver provide screens to the integrated card's session. -/
  | serverLayout
  deriving DecidableEq, Repr

/-- How a fragment on disk compares with what would be generated now. -/
inductive FragmentState where
  | missing
  | current
  | stale
  deriving DecidableEq, Repr, Inhabited

namespace FragmentState

def text : FragmentState → String
  | missing => "Missing"
  | current => "Current"
  | stale => "Stale"

/-- True if there is a file, whatever it holds. -/
def isPresent (s : FragmentState) : Bool := s != missing

end FragmentState

namespace Fragment

inductive Error where
  | write (file : Path) (cause : Fault)
  | remove (file : Path) (cause : Fault)
  deriving DecidableEq, Repr

namespace Error

/-- The error and what it was caused by, outermost first. -/
def chain : Error → List String
  | write file cause => ["failed to write " ++ Text.quote file.text, cause.message]
  | remove file cause => ["failed to remove " ++ Text.quote file.text, cause.message]

end Error

def file (config : Config) : Fragment → Path
  | outputClass => config.outputClassDir.child "11-nvidia-prime.conf"
  | serverLayout => config.serverLayoutDir.child "11-nvidia-offload.conf"

def fileExists (config : Config) (f : Fragment) (t : FileTree) : Bool := t.has (f.file config)

/-! ## What is generated -/

def header : List Char := "# DO NOT EDIT. AUTOMATICALLY GENERATED BY pop-gpu-manager\n".toList

/-- The fragment that makes a card primary. -/
def outputClassText (triplet : String) (device : Device) : List Char :=
  header
    ++ "# Discrete GPU ".toList ++ Text.hexPadded 4 device.vendor.toNat ++ ':'
      :: Text.hexPadded 4 device.model.toNat ++ " at ".toList ++ device.address.xorgChars ++ ['\n']
    ++ "Section \"OutputClass\"\n".toList
    ++ "    Identifier \"Nvidia Prime\"\n".toList
    ++ "    MatchDriver \"nvidia-drm\"\n".toList
    ++ "    Driver \"nvidia\"\n".toList
    ++ "    Option \"AllowEmptyInitialConfiguration\"\n".toList
    ++ "    Option \"IgnoreDisplayDevices\" \"CRT\"\n".toList
    ++ "    Option \"PrimaryGPU\" \"Yes\"\n".toList
    ++ "    ModulePath \"/usr/lib/".toList ++ triplet.toList ++ "/nvidia/xorg\"\n".toList
    ++ "EndSection\n".toList

/-- The fragment that allows render offload. -/
def serverLayoutText : List Char :=
  header
    ++ "Section \"ServerLayout\"\n".toList
    ++ "    Identifier \"layout\"\n".toList
    ++ "    Option \"AllowNVIDIAGPUScreens\"\n".toList
    ++ "EndSection\n".toList

/-! ## Comparing with what is on disk -/

/-- The state of what could be read of a fragment. Without anything to generate, a
fragment that is there is stale. -/
def stateOf (expected : Option (List Char)) : Except Fault (List Char) → FragmentState
  | .ok text => if expected = some text then .current else .stale
  | .error .notFound => .missing
  | .error _ => .stale

/-- Current means that the file can be read and holds what would be generated. -/
theorem stateOf_eq_current_iff {expected : Option (List Char)} {found : Except Fault (List Char)} :
    stateOf expected found = .current ↔ ∃ text, found = .ok text ∧ expected = some text := by
  constructor
  · intro h
    unfold stateOf at h
    split at h
    · next text =>
      by_cases he : expected = some text
      · exact ⟨text, rfl, he⟩
      · rw [if_neg he] at h
        cases h
    · cases h
    · cases h
  · rintro ⟨text, rfl, he⟩
    show (if expected = some text then FragmentState.current else .stale) = .current
    rw [if_pos he]

/-- Missing means that there is no file, whatever would be generated. -/
theorem stateOf_eq_missing_iff {expected : Option (List Char)} {found : Except Fault (List Char)} :
    stateOf expected found = .missing ↔ found = .error .notFound := by
  constructor
  · intro h
    unfold stateOf at h
    split at h
    · split at h <;> cases h
    · rfl
    · cases h
  · rintro rfl
    rfl

/-- The state of a fragment on disk. -/
def state (config : Config) (f : Fragment) (expected : Option (List Char)) (t : FileTree) :
    Noted FragmentState := do
  let file := f.file config
  let found := t.readText file
  match found with
  | .error .notFound => pure ()
  | .error cause => Noted.warn s!"unable to read {file.text}: {cause.message}"
  | .ok _ => pure ()
  let state := stateOf expected found
  Noted.info s!"{file.text}: {state.text}"
  return state

theorem value_state (config : Config) (f : Fragment) (expected : Option (List Char))
    (t : FileTree) :
    (state config f expected t).value = stateOf expected (t.readText (f.file config)) := by
  simp only [state]
  split <;> rfl

/-- The state of the fragment that makes a card primary. -/
def outputClassState (config : Config) (triplet : String) (discrete : Option Device)
    (t : FileTree) : Noted FragmentState :=
  state config outputClass (discrete.map (outputClassText triplet)) t

/-- The state of the fragment that allows render offload. -/
def serverLayoutState (config : Config) (t : FileTree) : Noted FragmentState :=
  state config serverLayout (some serverLayoutText) t

/-! ## Writing and removing -/

variable {σ : Type}

/-- Overwrites a fragment. -/
def write (config : Config) (f : Fragment) (text : List Char) : Act σ (Except Error Unit) := do
  let file := f.file config
  Act.info s!"Writing {file.text}"
  match ← Act.writeText file text with
  | .ok () => return .ok ()
  | .error cause => return .error (.write file cause)

/-- Overwrites the fragment that makes a card primary. -/
def writeOutputClass (config : Config) (triplet : String) (device : Device) :
    Act σ (Except Error Unit) :=
  write config outputClass (outputClassText triplet device)

/-- Overwrites the fragment that allows render offload. -/
def writeServerLayout (config : Config) : Act σ (Except Error Unit) :=
  write config serverLayout serverLayoutText

/-- Removes a fragment; false if it was not there. -/
def remove (config : Config) (f : Fragment) : Act σ (Except Error Bool) := do
  let file := f.file config
  match ← Act.removeFile file with
  | .ok true =>
    Act.info s!"Removed {file.text}"
    return .ok true
  | .ok false => return .ok false
  | .error cause => return .error (.remove file cause)

end Fragment

end HybridGraphics
