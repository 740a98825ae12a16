import HybridGraphics.FileTree.Basic

/-!
# Following a path

`FileTree.locate` turns the components of a path into the names of the place
they lead to: empty components and single dots stay, double dots climb, and a
symbolic link is replaced by its target, up to forty times. Every component but
the last has to be a directory. The last may be missing, so that a file can be
created there.

A slash after the last name asks for a directory. What that means depends on why
the path is followed, which is its `Aim`: an entry that is looked at has to be a
directory then, a file cannot be created, and for an entry that is added or
removed the caller decides.

The walk proper is `follow`, structural on the components and parametric over
what to do at a link; `locateWithin` supplies that, structural on the number of
links that may still be followed.
-/

namespace HybridGraphics

/-! ## What can be asked of a walk -/

/-- Why a path is followed. It makes a difference at the last name. -/
inductive Aim where
  /-- To look at what the path leads to. -/
  | look
  /-- To overwrite the file that the path leads to, or to create it. -/
  | create
  /-- To add or remove the last name itself, be it a link or not. -/
  | entry
  deriving DecidableEq, Repr

namespace Path

/-- How many bytes a name may have. -/
def maxNameBytes : Nat := 255

/-- How many bytes the text of a path may have. -/
def maxTextBytes : Nat := 4095

/-- Why the machine refuses a path before it looks anything up. -/
def refusal? (p : Path) : Option Fault :=
  if '\x00' ∈ p.text.toList then some .nulInPath
  else if maxTextBytes < p.text.utf8ByteSize then some .nameTooLong
  else none

end Path

namespace FileTree

/-! ## The walk -/

/-- Follows `components` from the directory `here`. At a link, `atLink` goes on
from a directory with the components of the target and the ones left. -/
def follow (t : FileTree) (atLink : List FileName → List FileName → Except Fault (List FileName))
    (aim : Aim) : List FileName → List FileName → Except Fault (List FileName)
  | here, [] => .ok here
  | here, name :: rest =>
    if Path.isIdle name then follow t atLink aim here rest
    else if name = ".." then follow t atLink aim here.dropLast rest
    else
      let place := here ++ [name]
      -- nothing but slashes may stand after the last name
      let isLast := rest.all (· = "")
      if aim = .create && isLast && !rest.isEmpty then .error .isDirectory
      else if Path.maxNameBytes < name.utf8ByteSize then .error .nameTooLong
      else
        match t.find? place with
        | none => if isLast then .ok place else .error .notFound
        | some (.dir _) => follow t atLink aim place rest
        | some (.file _ _) =>
          if rest.isEmpty || (isLast && aim = .entry) then .ok place else .error .notDirectory
        | some (.link target) =>
          if isLast && aim = .entry then .ok place
          else
            -- a target that begins with a slash starts over at the root
            let start := if target.toList.head? == some '/' then [] else here
            atLink start (Path.components target ++ rest)

/-- Follows components through at most `links` symbolic links. -/
def locateWithin (t : FileTree) (aim : Aim) :
    Nat → List FileName → List FileName → Except Fault (List FileName)
  | 0 => t.follow (fun _ _ => .error .tooManyLinks) aim
  | links + 1 => t.follow (t.locateWithin aim links) aim

/-- How many links one walk may follow. -/
def maxLinks : Nat := 40

/-- The place that a path leads to. -/
def locate (t : FileTree) (aim : Aim) (p : Path) : Except Fault (List FileName) :=
  match p.refusal? with
  | some cause => .error cause
  | none => t.locateWithin aim maxLinks [] p.route

end FileTree

end HybridGraphics
