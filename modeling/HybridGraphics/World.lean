import HybridGraphics.FileTree.Change
import HybridGraphics.Text.Blank

/-!
# The world of a run

A run reads files, changes files, acts on the system and reports what it does.
`World σ` is all of that at one moment: the file tree, the programs that can be
called and the calls made, the report so far, and the state `σ` of the system
behind the actions, about which nothing is assumed.

Steps come in two strengths. `Noted α` is a value with the lines it reports:
everything that only looks at the tree is a function into it, so its value is
plainly a function of the tree. `Act σ α` may also change the tree and act on
the system; `Act.look` makes the first a special case of the second.
-/

namespace HybridGraphics

/-! ## Values with a report -/

inductive Level where
  | debug
  | info
  | warn
  | error
  deriving DecidableEq, Repr

/-- A line of the report. -/
structure Note where
  level : Level
  text : String
  deriving DecidableEq, Repr

/-- A value with the lines that were reported on the way to it. -/
structure Noted (α : Type) where
  value : α
  notes : List Note := []
  deriving Repr

namespace Noted

instance : Monad Noted where
  pure value := { value }
  bind x f :=
    let y := f x.value
    ⟨y.value, x.notes ++ y.notes⟩

@[simp] theorem value_pure {α : Type} (a : α) : (pure a : Noted α).value = a := rfl

@[simp] theorem value_bind {α β : Type} (x : Noted α) (f : α → Noted β) :
    (x >>= f).value = (f x.value).value := rfl

def note (level : Level) (text : String) : Noted Unit := ⟨(), [⟨level, text⟩]⟩

def debug (text : String) : Noted Unit := note .debug text

def info (text : String) : Noted Unit := note .info text

def warn (text : String) : Noted Unit := note .warn text

def error (text : String) : Noted Unit := note .error text

@[simp] theorem value_note (level : Level) (text : String) : (note level text).value = () := rfl

/-- The first element on which the test succeeds; later ones are not tested. -/
def findM? {α β : Type} (test : α → Noted (Option β)) : List α → Noted (Option β)
  | [] => pure none
  | x :: xs => do
    match ← test x with
    | some found => pure (some found)
    | none => findM? test xs

theorem value_findM? {α β : Type} (test : α → Noted (Option β)) :
    ∀ xs : List α, (findM? test xs).value = xs.findSome? fun x => (test x).value
  | [] => rfl
  | x :: xs => by
    have ih := value_findM? test xs
    simp only [findM?, value_bind, List.findSome?]
    split
    next h => simp [h]
    next h => simp [h, ih]

end Noted

/-! ## The world and what changes it -/

/-- A program call: the name it was called by and its arguments. -/
structure Call where
  program : String
  arguments : List String
  deriving DecidableEq, Repr

/-- True if a text of the call holds the character that ends a text for the machine. -/
def Call.holdsNul (c : Call) : Bool :=
  (c.program :: c.arguments).any fun text => '\x00' ∈ text.toList

structure World (σ : Type) where
  tree : FileTree := {}
  /-- The programs that can be called by name. -/
  programs : List (String × Program) := []
  /-- The recorded program calls so far, oldest first. -/
  called : List Call := []
  report : List Note := []
  system : σ

/-- A step that may change the world. -/
abbrev Act (σ : Type) := StateM (World σ)

namespace Act

variable {σ α : Type}

/-- Looks at the tree. -/
def look (reader : FileTree → Noted α) : Act σ α := fun w =>
  let found := reader w.tree
  (found.value, { w with report := w.report ++ found.notes })

/-- Adds a line to the report. -/
def note (level : Level) (text : String) : Act σ Unit := fun w =>
  ((), { w with report := w.report ++ [⟨level, text⟩] })

def debug (text : String) : Act σ Unit := note .debug text

def info (text : String) : Act σ Unit := note .info text

def warn (text : String) : Act σ Unit := note .warn text

def error (text : String) : Act σ Unit := note .error text

/-- Changes the tree, or leaves it as it is if the change fails. -/
def change (update : FileTree → Except Fault FileTree) : Act σ (Except Fault Unit) := fun w =>
  match update w.tree with
  | .ok tree => (.ok (), { w with tree })
  | .error cause => (.error cause, w)

@[simp] theorem value_look (reader : FileTree → Noted α) (w : World σ) :
    (look reader w).1 = (reader w.tree).value := rfl

/-- Looking at the tree changes nothing but the report. -/
theorem look_eq (reader : FileTree → Noted α) (w : World σ) :
    (look reader w).2 = { w with report := w.report ++ (reader w.tree).notes } := rfl

/-- A failed change leaves the world as it was. -/
theorem change_of_error {update : FileTree → Except Fault FileTree} {w : World σ} {cause : Fault}
    (h : update w.tree = .error cause) : change update w = (.error cause, w) := by
  unfold change
  rw [h]

theorem change_of_ok {update : FileTree → Except Fault FileTree} {w : World σ} {tree : FileTree}
    (h : update w.tree = .ok tree) : change update w = (.ok (), { w with tree }) := by
  unfold change
  rw [h]

/-- Changes the tree and yields a value, or leaves it as it is if the change fails. -/
def changeWith (update : FileTree → Except Fault (FileTree × α)) : Act σ (Except Fault α) :=
  fun w =>
    match update w.tree with
    | .ok (tree, value) => (.ok value, { w with tree })
    | .error cause => (.error cause, w)

/-- Changes the tree in several steps. What was done before a failure stays done. -/
def changeInSteps (update : FileTree → FileTree × Except Fault Unit) : Act σ (Except Fault Unit) :=
  fun w =>
    let (tree, outcome) := update w.tree
    (outcome, { w with tree })

/-- Overwrites a text file, after creating the directory that holds it. -/
def writeText (p : Path) (text : List Char) : Act σ (Except Fault Unit) :=
  changeInSteps fun t => t.writeWithParents p (Text.encode text)

/-- Removes a file, treating its absence as success; yields whether it was there. -/
def removeFile (p : Path) : Act σ (Except Fault Bool) := changeWith fun t => t.removeIfPresent p

/-- Runs a program, known by a name, for its output. -/
def perform (name : String) (arguments : List String) (program : Program) :
    Act σ (Except Fault String) := fun w =>
  -- the file is overwritten however the program ends, if it can be
  let tree := match program.overwrites with
    | some (file, text) => (w.tree.write file (Text.encode text.toList)).toOption.getD w.tree
    | none => w.tree
  let called := if program.isRecorded then w.called ++ [⟨name, arguments⟩] else w.called
  (program.exit.outcome.map fun _ => program.output, { w with tree, called })

/-- Calls a program by its name. -/
def call (name : String) (arguments : List String) : Act σ (Except Fault String) := do
  if Call.holdsNul ⟨name, arguments⟩ then return .error .nulInCall
  match (← get).programs.lookup name with
  | some program => perform name arguments program
  | none => return .error .notFound

end Act

def yesNo (b : Bool) : String := if b then "yes" else "no"

end HybridGraphics
