import HybridGraphics.Actions

/-!
# A system to rehearse on

A run can be tried out on a system that exists on paper: a table of loaded
modules, and for each request what stands in its way. A module may be held by
the display session until that is ended, by another loaded module, or stubbornly
for a number of attempts. Nothing a rehearsed system does touches the file tree.
-/

namespace HybridGraphics

structure Rehearsal where
  /-- The loaded modules, in the order of the table. -/
  loaded : List String := []
  /-- The display session was ended. -/
  terminated : Bool := false
  /-- Modules that cannot be loaded. -/
  loadFails : List String := []
  /-- Modules that the display session holds. -/
  sessionPinned : List String := []
  /-- Modules that another module holds while that is loaded. -/
  heldBy : List (String × String) := []
  /-- How many more attempts to unload a module will fail. -/
  stubborn : List (String × Nat) := []
  listingFails : Bool := false
  /-- What the table begins with. -/
  listingStart : String := ""
  available : List String := []
  versioned : List String := []
  /-- Whether there is a session to end; without an answer, asking fails. -/
  session : Option Bool := none
  writeFails : Bool := false
  pxFails : Bool := false
  deriving DecidableEq, Repr

namespace Rehearsal

/-! ## What the system answers -/

/-- The line of a loaded module. -/
def listingLine (name : String) : String := name ++ " 16384 0 - Live 0x0000000000000000\n"

/-- The table of loaded modules. -/
def listing (r : Rehearsal) : String := r.listingStart ++ String.join (r.loaded.map listingLine)

def load (r : Rehearsal) (name : String) : Except Fault Unit × Rehearsal :=
  if r.loadFails.contains name then (.error (.refused "modprobe failed"), r)
  else if r.loaded.contains name then (.ok (), r)
  else (.ok (), { r with loaded := r.loaded ++ [name] })

/-- True if the display session keeps the module from being unloaded. -/
def pinned (r : Rehearsal) (name : String) : Bool := !r.terminated && r.sessionPinned.contains name

/-- True if a loaded module keeps this one from being unloaded. -/
def held (r : Rehearsal) (name : String) : Bool :=
  match r.heldBy.lookup name with
  | some holder => r.loaded.contains holder
  | none => false

/-- How many more attempts to unload the module will fail. -/
def attemptsLeft (r : Rehearsal) (name : String) : Nat := (r.stubborn.lookup name).getD 0

/-- One failing attempt less. -/
def spendAttempt (r : Rehearsal) (name : String) : Rehearsal :=
  { r with
    stubborn := r.stubborn.map fun (other, n) => if other = name then (other, n - 1) else (other, n) }

def unload (r : Rehearsal) (name : String) : Except Fault Unit × Rehearsal :=
  if r.pinned name || r.held name then (.error (.refused "module is in use"), r)
  else if 0 < r.attemptsLeft name then (.error (.refused "module is in use"), r.spendAttempt name)
  else (.ok (), { r with loaded := r.loaded.filter (· != name) })

def terminate (r : Rehearsal) : Except Fault Bool × Rehearsal :=
  match r.session with
  | some ended => (.ok ended, { r with terminated := ended })
  | none => (.error (.refused "operation not permitted"), r)

/-! ## The actions on it -/

/-- A step that touches nothing but the system. -/
def onSystem {α : Type} (step : Rehearsal → α × Rehearsal) : Act Rehearsal α := fun w =>
  let (answer, system) := step w.system
  (answer, { w with system })

def actions : Actions Rehearsal where
  loadModule name _ := onSystem (·.load name)
  unloadModule name := onSystem (·.unload name)
  moduleListing := onSystem fun r =>
    (if r.listingFails then .error (.refused "listing failed") else .ok r.listing, r)
  moduleAvailable name := onSystem fun r => (r.available.contains name, r)
  moduleVersioned name := onSystem fun r => (r.versioned.contains name, r)
  terminateSession _ _ := onSystem terminate
  writeAttribute _ _ := onSystem fun r =>
    (if r.writeFails then .error (.refused "permission denied") else .ok (), r)
  runPxScript _ _ := onSystem fun r =>
    (if r.pxFails then .error (.refused "script failed") else .ok (), r)

end Rehearsal

end HybridGraphics
