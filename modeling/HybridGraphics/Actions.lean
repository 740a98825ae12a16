import HybridGraphics.World

/-!
# Actions on the system

Everything a run does to the system beyond its files goes through `Actions`:
loading and unloading kernel modules, ending the display session, writing a
device attribute, switching PowerXpress. The record is parametric over the
system behind it, and an action may answer anything and change that system in
any way, so what is proved of a run for every `Actions σ` holds whatever the
system does.

`Actions.recorded` keeps a history: it wraps the actions of any system so that
each request is noted, with its answer, in the order they were made.
-/

namespace HybridGraphics

/-! ## What can be asked of the system -/

/-- A PowerXpress setting. -/
inductive PxMode where
  | powerSaving
  | performance
  | reset
  deriving DecidableEq, Repr

namespace PxMode

def text : PxMode → String
  | powerSaving => "PowerSaving"
  | performance => "Performance"
  | reset => "Reset"

/-- The arguments that ask the switching script for this setting. -/
def arguments : PxMode → List String
  | powerSaving => ["--mode", "powersaving"]
  | performance => ["--mode", "performance"]
  | reset => ["--reset"]

end PxMode

structure Actions (σ : Type) where
  loadModule : String → Option String → Act σ (Except Fault Unit)
  unloadModule : String → Act σ (Except Fault Unit)
  /-- The table of loaded modules: a line each, which starts with the module's name. -/
  moduleListing : Act σ (Except Fault String)
  moduleAvailable : String → Act σ Bool
  /-- True if the installed module carries a version. -/
  moduleVersioned : String → Act σ Bool
  /-- Ends the first display server of the list that the account owns; false if none was found. -/
  terminateSession : List String → String → Act σ (Except Fault Bool)
  writeAttribute : Path → String → Act σ (Except Fault Unit)
  runPxScript : Path → PxMode → Act σ (Except Fault Unit)

/-! ## A history of what was asked -/

/-- A request to the system, with the answer it got. -/
inductive Request where
  | load (name : String) (parameters : Option String) (answer : Except Fault Unit)
  | unload (name : String) (answer : Except Fault Unit)
  | listing (answer : Except Fault String)
  | available (name : String) (answer : Bool)
  | versioned (name : String) (answer : Bool)
  | terminate (servers : List String) (user : String) (answer : Except Fault Bool)
  | write (file : Path) (value : String) (answer : Except Fault Unit)
  | px (script : Path) (mode : PxMode) (answer : Except Fault Unit)

namespace Request

/-- True for the requests that only ask. -/
def isQuestion : Request → Bool
  | listing _ | available _ _ | versioned _ _ => true
  | _ => false

end Request

/-- A system together with the requests it has served, oldest first. -/
structure Recorded (σ : Type) where
  system : σ
  requests : List Request := []

namespace Actions

variable {σ α : Type}

/-- Serves a request on the system inside and notes it. -/
def noting (request : α → Request) (serve : Act σ α) : Act (Recorded σ) α := fun w =>
  let (answer, after) := serve { w with system := w.system.system }
  (answer, { after with
    system := ⟨after.system, w.system.requests ++ [request answer]⟩ })

/-- The same actions, with a history. -/
def recorded (a : Actions σ) : Actions (Recorded σ) where
  loadModule name parameters := noting (.load name parameters) (a.loadModule name parameters)
  unloadModule name := noting (.unload name) (a.unloadModule name)
  moduleListing := noting .listing a.moduleListing
  moduleAvailable name := noting (.available name) (a.moduleAvailable name)
  moduleVersioned name := noting (.versioned name) (a.moduleVersioned name)
  terminateSession servers user := noting (.terminate servers user) (a.terminateSession servers user)
  writeAttribute file value := noting (.write file value) (a.writeAttribute file value)
  runPxScript script mode := noting (.px script mode) (a.runPxScript script mode)

end Actions

end HybridGraphics
