import HybridGraphics.FileTree.Access

/-!
# Changing a file tree

The three changes a run makes: it creates the directories a file needs, it
overwrites a file, and it removes one. A single step that fails leaves the tree
as it was, so a step is a function into `Except Fault FileTree`. A change of
several steps keeps what was done before one of them failed; it yields the tree
it leaves behind beside the outcome.
-/

namespace HybridGraphics.FileTree

/-! ## Creating directories -/

/-- The tree with an empty directory at a path that leads to nothing yet. -/
def makeDir (t : FileTree) (p : Path) : Except Fault FileTree := do
  let place ← t.locate .entry p
  match t.find? place with
  | some _ => .error .alreadyExists
  | none => .ok (t.put place (some (.dir [])))

/-- A directory that is there already will do. -/
def ensureDir (t : FileTree) (p : Path) : FileTree × Except Fault Unit :=
  match t.makeDir p with
  | .ok made => (made, .ok ())
  | .error cause => (t, if t.hasDir p then .ok () else .error cause)

/-- Creates the directory whose names, last first, are given, and the ones above
it. Only a missing directory above makes it look further up. -/
def makeDirsUp (t : FileTree) (base : String) : List FileName → FileTree × Except Fault Unit
  | [] => t.ensureDir { base, names := [] }
  | name :: above =>
    if Path.isIdle name then t.makeDirsUp base above
    else
      let p : Path := { base, names := (name :: above).reverse }
      match t.makeDir p with
      | .error .notFound =>
        -- the directory above is missing as well
        match t.makeDirsUp base above with
        | (made, .ok ()) => made.ensureDir p
        | (made, .error cause) => (made, .error cause)
      | _ => t.ensureDir p

/-- Creates a directory and the ones above it, where they are missing. The directories of the base are
looked at as any others. -/
def makeDirs (t : FileTree) (p : Path) : FileTree × Except Fault Unit :=
  t.makeDirsUp p.spelledOut.base p.spelledOut.names.reverse

/-- Creates the directory that is to hold an entry, where it is missing. -/
def makeParent (t : FileTree) (p : Path) : FileTree × Except Fault Unit :=
  match p.spelledOut.parent? with
  | some parent => t.makeDirs parent
  | none => (t, .ok ())

/-! ## Writing and removing files -/

/-- Overwrites a file, or creates it in a directory that exists. -/
def write (t : FileTree) (p : Path) (content : Bytes) : Except Fault FileTree := do
  let place ← t.locate .create p
  match t.find? place with
  | some (.dir _) => .error .isDirectory
  | some (.file _ runnable) => .ok (t.put place (some (.file content runnable.overwritten)))
  -- a link at the end was followed, so there is nothing here
  | _ => .ok (t.put place (some (.file content .forbidden)))

/-- Overwrites a file, after creating the directory that holds it. -/
def writeWithParents (t : FileTree) (p : Path) (content : Bytes) : FileTree × Except Fault Unit :=
  match t.makeParent p with
  | (made, .error cause) => (made, .error cause)
  | (made, .ok ()) =>
    match made.write p content with
    | .ok written => (written, .ok ())
    | .error cause => (made, .error cause)

/-- Removes a file or a link. -/
def remove (t : FileTree) (p : Path) : Except Fault FileTree := do
  let place ← t.locate .entry p
  match t.find? place with
  | none => .error .notFound
  | some (.dir _) => .error .isDirectory
  -- with a slash after it, only a directory can be meant
  | some _ => if p.endsInSlash then .error .notDirectory else .ok (t.put place none)

/-- Removes a file or a link. Absence is success; the flag says whether it was there. -/
def removeIfPresent (t : FileTree) (p : Path) : Except Fault (FileTree × Bool) :=
  match t.remove p with
  | .ok removed => .ok (removed, true)
  | .error .notFound => .ok (t, false)
  | .error cause => .error cause

/-! ## Laying out a tree -/

/-- Puts an entry of any kind at a path, after creating the directory that holds it. -/
def plant (t : FileTree) (p : Path) (node : Node) : FileTree :=
  let made := (t.makeParent p).1
  match made.locate .entry p with
  | .ok place => made.put place (some node)
  | .error _ => made

/-- Removes whatever is at a path, a directory with all it holds. -/
def prune (t : FileTree) (p : Path) : FileTree :=
  match t.locate .entry p with
  | .ok place => t.put place none
  | .error _ => t

end HybridGraphics.FileTree
