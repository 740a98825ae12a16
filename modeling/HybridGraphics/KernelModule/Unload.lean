import HybridGraphics.Config
import HybridGraphics.KernelModule.Listing

/-!
# Loading and unloading drivers

A driver that a display server holds cannot be unloaded. The unload protocol
goes through the stack of modules once; if one is still listed, it ends the
display session, once, and goes through the stack a second time. There is no
third attempt.

Each pass asks for a module to be unloaded only if the table lists it just then,
and takes the table read at its end, not the answers to its requests, for the
outcome: `unloadInOrder` yields the first module still listed.
-/

namespace HybridGraphics.KernelModule

inductive Error where
  | load (name : String) (cause : Fault)
  | stillLoaded (name : String)
  | noSession (name : String)
  | terminate (cause : Fault)
  deriving DecidableEq, Repr

namespace Error

/-- The error and what it was caused by, outermost first. -/
def chain : Error → List String
  | load name cause => [s!"failed to load {name}", cause.message]
  | stillLoaded name => [s!"{name} is still loaded after terminating the display session"]
  | noSession name => [s!"{name} is in use, and no display session could be terminated"]
  | terminate cause => ["failed to terminate the display session", cause.message]

end Error

/-! ## The stack -/

/-- The proprietary NVIDIA driver. -/
def nvidia : String := "nvidia"

/-- Loaded alongside the proprietary driver and holding on to it. -/
def nvidiaCompanions : List String := ["nvidia_drm", "nvidia_modeset", "nvidia_uvm"]

/-- The companions first, since they hold on to the driver. -/
def nvidiaStack : List String := nvidiaCompanions ++ [nvidia]

variable {σ : Type}

def load (actions : Actions σ) (name : String) (parameters : Option String) :
    Act σ (Except Error Unit) := do
  match ← actions.loadModule name parameters with
  | .ok () => return .ok ()
  | .error cause => return .error (.load name cause)

/-! ## The protocol -/

/-- Asks for each listed module of the stack to be unloaded, in order. -/
def unloadListed (actions : Actions σ) : List String → Act σ Unit
  | [] => pure ()
  | name :: rest => do
    if ← isLoaded actions name then
      match ← actions.unloadModule name with
      | .ok () => pure ()
      | .error cause => Act.warn s!"failed to unload {name}: {cause.message}"
    unloadListed actions rest

/-- The first module of the stack that is listed. -/
def firstListed (actions : Actions σ) : List String → Act σ (Option String)
  | [] => pure none
  | name :: rest => do
    if ← isLoaded actions name then return some name
    else firstListed actions rest

/-- One pass over the stack, and the first module left. -/
def unloadInOrder (actions : Actions σ) (stack : List String) : Act σ (Option String) := do
  unloadListed actions stack
  firstListed actions stack

/-- Unloads a stack of modules, ending the display session once if it has to. -/
def unloadStack (config : Config) (actions : Actions σ) (stack : List String) :
    Act σ (Except Error Unit) := do
  match ← unloadInOrder actions stack with
  | none => return .ok ()
  | some pinned =>
    Act.warn s!"{pinned} is still in use; terminating the display session"
    match ← actions.terminateSession config.displayServers config.sessionUser with
    | .error cause => return .error (.terminate cause)
    | .ok false => return .error (.noSession pinned)
    | .ok true =>
      -- the session is gone, and this pass is the last
      match ← unloadInOrder actions stack with
      | some name => return .error (.stillLoaded name)
      | none => return .ok ()

/-- Unloads a module, ending the display session once if it has to. -/
def unloadWithRetry (config : Config) (actions : Actions σ) (name : String) :
    Act σ (Except Error Unit) :=
  unloadStack config actions [name]

/-- Unloads the NVIDIA companions and then the driver. -/
def unloadNvidiaStack (config : Config) (actions : Actions σ) : Act σ (Except Error Unit) :=
  unloadStack config actions nvidiaStack

end HybridGraphics.KernelModule
