import HybridGraphics.Actions
import HybridGraphics.Config
import HybridGraphics.KernelModule.Listing
import HybridGraphics.Text.Quoted

/-!
# The host

The actions on the machine itself: modules are loaded and unloaded by the
programs for that, the display session is ended by a signal to its display
server, attributes and scripts are files.

In a dry run every action that would change something is reported and skipped,
and counts as done. The host remembers the modules it would have unloaded and
leaves them out of the table it shows, so that a dry run goes on as if they were
gone.
-/

namespace HybridGraphics

/-! ## The state of the host -/

/-- A running program. -/
structure RunningProgram where
  /-- Its process id, as a message shows it. -/
  id : String
  name : String
  /-- The account it runs as. -/
  owner : String
  deriving DecidableEq, Repr

structure Host where
  /-- Modules whose unloading a dry run has skipped. -/
  pretended : List String := []
  processes : List RunningProgram := []
  /-- Why the running programs cannot be listed, if they cannot. -/
  processFault : Option Fault := none
  /-- The ids of programs that may not be told to end, and why. -/
  guarded : List (String × Fault) := []
  /-- The ids of programs that go on when they are told to end. -/
  enduring : List String := []
  deriving DecidableEq, Repr

namespace Host

/-- The running programs. -/
def running (h : Host) : Except Fault (List RunningProgram) :=
  match h.processFault with
  | some cause => .error cause
  | none => .ok h.processes

/-- The display server to end: of the first server name that fits, the first process. -/
def session? (h : Host) (servers : List String) (user : String) :
    Except Fault (Option RunningProgram) :=
  h.running.map fun programs => servers.findSome? fun server =>
    programs.find? fun p => p.name == server && p.owner == user

/-- The lines of a module table without the modules that are pretended to be gone. -/
def visibleListing (h : Host) (listing : List Char) : List Char :=
  if h.pretended.isEmpty then listing
  else
    let gone (line : List Char) : Bool :=
      match (Text.words line).head? with
      | some name => h.pretended.contains (String.ofList name)
      | none => false
    ((Text.lines listing).filter (!gone ·)).flatMap (· ++ ['\n'])

/-! ## The actions -/

/-- How many seconds a program has to end. -/
def exitWait : Nat := 5

/-- A step that a dry run reports and skips, pretending in its own way. -/
def unlessDry {α : Type} (config : Config) (what : String) (pretend : Host → Host) (pretended : α)
    (step : Act Host α) : Act Host α := do
  if config.dryRun then
    Act.info s!"dry run: skipping {what}"
    modify fun w => { w with system := pretend w.system }
    return pretended
  else step

/-- The outcome of a call whose output does not matter. -/
def callFor (name : String) (arguments : List String) : Act Host (Except Fault Unit) := do
  return (← Act.call name arguments).map fun _ => ()

def loadModule (config : Config) (name : String) (parameters : Option String) :
    Act Host (Except Fault Unit) := do
  let given := parameters.getD ""
  Act.info s!"Loading {name} with \"{given}\" parameters"
  let words := (Text.words given.toList).map String.ofList
  -- a module that a dry run loads again is no longer pretended to be gone
  unlessDry config ("modprobe " ++ name)
    (fun h => { h with pretended := h.pretended.filter (· != name) }) (.ok ())
    (callFor "modprobe" (name :: words))

def unloadModule (config : Config) (name : String) : Act Host (Except Fault Unit) := do
  Act.info s!"Unloading {name}"
  unlessDry config ("rmmod " ++ name)
    (fun h => if h.pretended.contains name then h else { h with pretended := h.pretended ++ [name] })
    (.ok ()) (callFor "rmmod" [name])

def moduleListing (config : Config) : Act Host (Except Fault String) := do
  let w ← get
  return (w.tree.readText config.moduleTable).map fun listing =>
    String.ofList (w.system.visibleListing listing)

def moduleAvailable (config : Config) (name : String) : Act Host Bool := do
  match config.moduleAvailable with
  | some available => return available
  | none => return (← Act.call "modinfo" [name]).toOption.isSome

def moduleVersioned (config : Config) (name : String) : Act Host Bool := do
  if config.moduleVersioned then return true
  else
    match ← Act.call "modinfo" ["-F", "version", name] with
    | .ok output => return !(Text.trim output.toList).isEmpty
    | .error _ => return false

/-- Tells a program to end, and waits until it has or the time is up. -/
def endProgram (p : RunningProgram) : Act Host (Except Fault Bool) := do
  let h := (← get).system
  match h.guarded.lookup p.id with
  | some cause => return .error cause
  | none =>
    if h.enduring.contains p.id then Act.warn s!"{p.id} did not exit within {exitWait}s"
    else modify fun w => { w with system := { h with processes := h.processes.erase p } }
    return .ok true

def terminateSession (config : Config) (servers : List String) (user : String) :
    Act Host (Except Fault Bool) := do
  match (← get).system.session? servers user with
  | .error cause => return .error cause
  | .ok none =>
    Act.warn s!"no display server owned by {user} was found"
    return .ok false
  | .ok (some p) =>
    Act.info s!"Terminating {p.name} ({p.id}) owned by {user}"
    unlessDry config ("kill " ++ p.id) (fun h => h) (.ok true) (endProgram p)

def writeAttribute (config : Config) (file : Path) (value : String) :
    Act Host (Except Fault Unit) := do
  let shown := Text.quote (String.ofList (Text.trim value.toList))
  Act.info s!"Writing {shown} to {file.text}"
  unlessDry config ("write to " ++ file.text) (fun h => h) (.ok ())
    (Act.change fun t => t.write file (Text.encode value.toList))

/-- Runs a program by its path. -/
def runFile (file : Path) (arguments : List String) : Act Host (Except Fault Unit) := do
  if Call.holdsNul ⟨file.text, arguments⟩ then return .error .nulInCall
  match (← get).tree.program file with
  | .error cause => return .error cause
  | .ok program =>
    let name := file.names.getLastD file.base
    return (← Act.perform name arguments program).map fun _ => ()

def runPxScript (config : Config) (script : Path) (mode : PxMode) :
    Act Host (Except Fault Unit) := do
  let arguments := " ".intercalate mode.arguments
  Act.info s!"Running {script.text} {arguments}"
  unlessDry config script.text (fun h => h) (.ok ()) (runFile script mode.arguments)

def actions (config : Config) : Actions Host where
  loadModule := loadModule config
  unloadModule := unloadModule config
  moduleListing := moduleListing config
  moduleAvailable := moduleAvailable config
  moduleVersioned := moduleVersioned config
  terminateSession := terminateSession config
  writeAttribute := writeAttribute config
  runPxScript := runPxScript config

end Host

end HybridGraphics
