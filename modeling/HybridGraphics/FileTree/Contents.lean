import HybridGraphics.FileTree.Basic

/-!
# All files of a tree

`FileTree.files` lists the regular files of a tree with their bytes, each under
the names that lead to it. Links are neither listed nor entered, so a file shows
up once. It is how two states of a tree are compared from the outside.
-/

namespace HybridGraphics

namespace Node

mutual

/-- The regular files below an entry. -/
def files : Node → List (List FileName × Bytes)
  | .file content _ => [([], content)]
  | .link _ => []
  | .dir entries => filesIn entries

/-- The regular files below the entries of a directory. -/
def filesIn : List (FileName × Node) → List (List FileName × Bytes)
  | [] => []
  | (name, node) :: rest =>
    (files node).map (fun (names, content) => (name :: names, content)) ++ filesIn rest

end

end Node

namespace FileTree

def files (t : FileTree) : List (List FileName × Bytes) := Node.filesIn t.entries

end FileTree

end HybridGraphics
