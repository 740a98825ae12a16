import HybridGraphics.FileTree.Access

/-!
# Trees in another order

The machine lists a directory in an order of its own. `Reordered t t'` says of two trees that they
hold the same in every place, but for these orders. What a path leads to is a matter of the kinds of
the entries on its way, which are the same in both, links and all: a path leads to the same place
(`locate_reordered`), a file there reads the same (`readText_reordered`), and a directory there
lists the same names (`list_reordered`).
-/

namespace HybridGraphics

/-- What is found in a place is the same, but for the order of the names in a directory. -/
inductive SameButOrder : Option Node → Option Node → Prop
  | missing : SameButOrder none none
  | file (content : Bytes) (runnable : Runnable) :
    SameButOrder (some (.file content runnable)) (some (.file content runnable))
  | link (target : String) : SameButOrder (some (.link target)) (some (.link target))
  | dir {entries entries' : List (FileName × Node)}
    (names : (Node.entryNames entries).Perm (Node.entryNames entries')) :
    SameButOrder (some (.dir entries)) (some (.dir entries'))

namespace FileTree

/-- The trees hold the same in every place, but for the order in which directories are listed. -/
def Reordered (t t' : FileTree) : Prop := ∀ place, SameButOrder (t.find? place) (t'.find? place)

variable {t t' : FileTree} {p : Path}

theorem Reordered.symm (h : Reordered t t') : Reordered t' t := by
  intro place
  have hplace := h place
  generalize t.find? place = found at hplace ⊢
  generalize t'.find? place = found' at hplace ⊢
  cases hplace with
  | missing => exact .missing
  | file content runnable => exact .file content runnable
  | link target => exact .link target
  | dir names => exact .dir names.symm

/-- A walk does not depend on the order of entries, if what it does at a link does not. -/
theorem follow_reordered (h : Reordered t t')
    (atLink : List FileName → List FileName → Except Fault (List FileName)) (aim : Aim) :
    ∀ names here : List FileName,
      t'.follow atLink aim here names = t.follow atLink aim here names
  | [], _ => rfl
  | name :: rest, here => by
    have ih := follow_reordered h atLink aim rest
    have hplace := h (here ++ [name])
    simp only [follow, ih]
    generalize t.find? (here ++ [name]) = found at hplace ⊢
    generalize t'.find? (here ++ [name]) = found' at hplace ⊢
    cases hplace <;> rfl

/-- No walk through links depends on the order of entries. -/
theorem locateWithin_reordered (h : Reordered t t') (aim : Aim) :
    ∀ links : Nat, t'.locateWithin aim links = t.locateWithin aim links
  | 0 => by
    funext here names
    exact follow_reordered h _ aim names here
  | links + 1 => by
    funext here names
    rw [locateWithin, locateWithin, locateWithin_reordered h aim links]
    exact follow_reordered h _ aim names here

/-- A path leads to the same place. -/
theorem locate_reordered (h : Reordered t t') (aim : Aim) (p : Path) :
    t'.locate aim p = t.locate aim p := by
  unfold locate
  rw [locateWithin_reordered h]

/-- A file reads the same. -/
theorem readText_reordered (h : Reordered t t') (p : Path) : t'.readText p = t.readText p := by
  unfold readText read entry
  rw [locate_reordered h]
  cases t.locate .look p with
  | error cause => rfl
  | ok place =>
    have hplace := h place
    simp only [bind, Except.bind]
    generalize t.find? place = found at hplace ⊢
    generalize t'.find? place = found' at hplace ⊢
    cases hplace <;> rfl

/-- A directory lists the same names. -/
theorem list_reordered (h : Reordered t t') {names : List FileName} (hlist : t.list p = .ok names) :
    ∃ names', t'.list p = .ok names' ∧ names.Perm names' := by
  unfold list entry at hlist ⊢
  rw [locate_reordered h]
  cases hlocate : t.locate .look p with
  | error cause =>
    rw [hlocate] at hlist
    cases hlist
  | ok place =>
    have hplace := h place
    rw [hlocate] at hlist
    simp only [bind, Except.bind] at hlist ⊢
    generalize t.find? place = found at hplace hlist
    generalize t'.find? place = found' at hplace ⊢
    cases hplace with
    | missing => cases hlist
    | file content runnable => cases hlist
    | link target => cases hlist
    | dir same =>
      cases hlist
      exact ⟨_, rfl, same⟩

end FileTree

end HybridGraphics
