import HybridGraphics.FileTree.Route
import HybridGraphics.FileTree.Script
import HybridGraphics.FileTree.Shell

/-!
# Reading a file tree

What a run learns from the tree: whether a path leads somewhere, the bytes or
the text of a file, the names in a directory, and the program that runs when a
file is run. Each reader fails with the cause the machine would give, so that a
missing file, a directory in place of a file and a file that is not text can be
told apart.
-/

namespace HybridGraphics.FileTree

/-- The entry at the end of a path. -/
def entry (t : FileTree) (p : Path) : Except Fault Node := do
  let place ← t.locate .look p
  match t.find? place with
  | some node => .ok node
  | none => .error .notFound

/-- True if the path leads to an entry. -/
def has (t : FileTree) (p : Path) : Bool := (t.entry p).toOption.isSome

/-- True if the path leads to a directory. -/
def hasDir (t : FileTree) (p : Path) : Bool :=
  match t.entry p with
  | .ok node => node.isDir
  | .error _ => false

/-! ## Contents -/

/-- The bytes of a file. -/
def read (t : FileTree) (p : Path) : Except Fault Bytes := do
  match ← t.entry p with
  | .file content _ => .ok content
  | .dir _ => .error .isDirectory
  | .link _ => .error .tooManyLinks

/-- The text of a file. -/
def readText (t : FileTree) (p : Path) : Except Fault (List Char) := do
  match Text.decode? (← t.read p) with
  | some text => .ok text
  | none => .error .invalidText

/-! ## Directories -/

/-- The names in a directory. -/
def list (t : FileTree) (p : Path) : Except Fault (List FileName) := do
  match ← t.entry p with
  | .dir entries => .ok (Node.entryNames entries)
  | _ => .error .notDirectory

/-- Puts a name before the first that is not smaller. -/
def insertName (name : FileName) : List FileName → List FileName
  | [] => [name]
  | next :: rest => if name ≤ next then name :: next :: rest else next :: insertName name rest

/-- Names in ascending order. -/
def sortNames (names : List FileName) : List FileName := names.foldr insertName []

theorem mem_insertName {name other : FileName} :
    ∀ {names : List FileName}, other ∈ insertName name names ↔ other = name ∨ other ∈ names
  | [] => by simp [insertName]
  | next :: rest => by
    unfold insertName
    split
    next => exact List.mem_cons
    next =>
      rw [List.mem_cons, mem_insertName, List.mem_cons]
      exact or_left_comm

/-- Sorting names neither adds one nor loses one. -/
theorem mem_sortNames {name : FileName} :
    ∀ {names : List FileName}, name ∈ sortNames names ↔ name ∈ names
  | [] => Iff.rfl
  | next :: rest => by
    show name ∈ insertName next (sortNames rest) ↔ _
    rw [mem_insertName, mem_sortNames, List.mem_cons]

/-- The names in a directory in ascending order. -/
def listSorted (t : FileTree) (p : Path) : Except Fault (List FileName) :=
  (t.list p).map sortNames

/-! ## Programs -/

/-- The program that runs when the file is run; `onScript` decides for a script. -/
def programVia (t : FileTree) (onScript : Bytes → Except Fault Program) (p : Path) :
    Except Fault Program := do
  match ← t.entry p with
  | .file _ (.program program) => .ok program
  | .file _ .shell => .ok Shell.misused
  | .file content .script => onScript content
  | _ => .error .permissionDenied

/-- The program that runs when the file is run. The interpreter of a script may be a
script itself, up to the given number of scripts. -/
def programWithin (t : FileTree) : Nat → Path → Except Fault Program
  | 0 => t.programVia fun _ => .error .tooManyLinks
  | scripts + 1 => t.programVia fun content => do
    match Interpreter.ofScript? content with
    | none => .error .notProgram
    | some interpreter =>
      let file ← interpreter.path
      match ← t.entry file with
      | .file _ .shell => .ok (Shell.program interpreter.argument content)
      | _ => t.programWithin scripts file

/-- How many scripts may run one another. -/
def maxScripts : Nat := 5

/-- The program that runs when the file is run. -/
def program (t : FileTree) (p : Path) : Except Fault Program := t.programWithin maxScripts p

end HybridGraphics.FileTree
