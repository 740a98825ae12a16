import HybridGraphics.FileTree.Program
import HybridGraphics.Text.Utf8

/-!
# File trees

The files a run sees: directories of named entries, regular files with their
bytes, and symbolic links. A tree is addressed by the list of names that lead
to an entry; links are not followed here (see `HybridGraphics.FileTree.Route`).

`Node.find?` looks an entry up and `Node.put` sets or removes one. The lemmas
say that `put` is seen at the names it was made for and nowhere else:
`find?_put_self` and `find?_put_of_disjoint`.
-/

namespace HybridGraphics

inductive Node where
  | file (content : Bytes) (runnable : Runnable)
  | link (target : String)
  | dir (entries : List (FileName × Node))

namespace Node

/-! ## Directory listings -/

/-- The entry of a directory listing with this name; of two, the first. -/
def entry? (name : FileName) : List (FileName × Node) → Option Node
  | [] => none
  | (other, node) :: rest => if other = name then some node else entry? name rest

/-- A directory listing without the entries of this name. -/
def without (name : FileName) : List (FileName × Node) → List (FileName × Node)
  | [] => []
  | (other, node) :: rest =>
    if other = name then without name rest else (other, node) :: without name rest

/-- A directory listing in which the name has this entry, or none. -/
def setEntry (name : FileName) (new : Option Node) (entries : List (FileName × Node)) :
    List (FileName × Node) :=
  match new with
  | some node => (name, node) :: without name entries
  | none => without name entries

/-- The names of a directory listing, each once. -/
def entryNames : List (FileName × Node) → List FileName
  | [] => []
  | (name, _) :: rest => name :: (entryNames rest).filter (· ≠ name)

/-! ## Looking up and putting -/

/-- The entry that the names lead to. -/
def find? : List FileName → Node → Option Node
  | [], node => some node
  | name :: rest, .dir entries =>
    match entry? name entries with
    | some node => find? rest node
    | none => none
  | _ :: _, _ => none

/-- Sets or removes the entry that the names lead to. Nothing changes if the
directory that would hold it does not exist. -/
def put (new : Option Node) : List FileName → Node → Node
  | [], node => node
  | [name], .dir entries => .dir (setEntry name new entries)
  | name :: rest, .dir entries =>
    match entry? name entries with
    | some node => .dir (setEntry name (some (put new rest node)) entries)
    | none => .dir entries
  | _ :: _, node => node

def isDir : Node → Bool
  | dir _ => true
  | _ => false

/-! ## A listing after a change -/

theorem entry?_without_of_ne {name other : FileName} (h : other ≠ name) :
    ∀ entries : List (FileName × Node), entry? name (without other entries) = entry? name entries
  | [] => rfl
  | (n, node) :: rest => by
    have ih := entry?_without_of_ne h rest
    by_cases hn : n = other
    · subst hn
      simp [without, entry?, h, ih]
    · simp [without, entry?, hn, ih]

theorem entry?_without_self (name : FileName) : ∀ entries : List (FileName × Node),
    entry? name (without name entries) = none
  | [] => rfl
  | (n, node) :: rest => by
    have ih := entry?_without_self name rest
    by_cases hn : n = name
    · simp [without, hn, ih]
    · simp [without, entry?, hn, ih]

theorem entry?_setEntry_self (name : FileName) (new : Option Node)
    (entries : List (FileName × Node)) : entry? name (setEntry name new entries) = new := by
  cases new with
  | none => exact entry?_without_self name entries
  | some node => simp [setEntry, entry?]

theorem entry?_setEntry_of_ne {name other : FileName} (h : other ≠ name) (new : Option Node)
    (entries : List (FileName × Node)) :
    entry? name (setEntry other new entries) = entry? name entries := by
  cases new with
  | none => exact entry?_without_of_ne h entries
  | some node => simpa [setEntry, entry?, h] using entry?_without_of_ne h entries

/-! ## A tree after a change -/

theorem find?_append (names more : List FileName) :
    ∀ node : Node, find? (names ++ more) node = (find? names node).bind (find? more) := by
  induction names with
  | nil => intro node; rfl
  | cons name rest ih =>
    intro node
    cases node with
    | dir entries =>
      simp only [List.cons_append, find?]
      cases entry? name entries with
      | none => rfl
      | some n => exact ih n
    | file content runnable => rfl
    | link target => rfl

/-- What was put is found, if there is a directory to hold it. -/
theorem find?_put_self (new : Option Node) (name : FileName) :
    ∀ (names : List FileName) (node : Node) (entries : List (FileName × Node)),
      find? names node = some (.dir entries) →
        find? (names ++ [name]) (put new (names ++ [name]) node) = new
  | [], node, entries, h => by
    simp only [find?, Option.some.injEq] at h
    subst h
    simp only [List.nil_append, put, find?, entry?_setEntry_self]
    cases new <;> rfl
  | a :: rest, node, entries, h => by
    cases node with
    | file content runnable => simp [find?] at h
    | link target => simp [find?] at h
    | dir es =>
      simp only [find?] at h
      cases he : entry? a es with
      | none => rw [he] at h; cases h
      | some n =>
        rw [he] at h
        have ih := find?_put_self new name rest n entries h
        cases hr : rest ++ [name] with
        | nil => simp at hr
        | cons b bs =>
          rw [hr] at ih
          simp only [List.cons_append, hr, put, he, find?, entry?_setEntry_self, ih]

/-- What was put is not seen at names that neither lead to it nor through it. -/
theorem find?_put_of_disjoint (new : Option Node) :
    ∀ (names others : List FileName) (node : Node),
      ¬ names <+: others → ¬ others <+: names →
        find? others (put new names node) = find? others node
  | [], others, _, h, _ => absurd List.nil_prefix h
  | _ :: _, [], _, _, h => absurd List.nil_prefix h
  | a :: rest, b :: others, node, h, h' => by
    cases node with
    | file content runnable => cases rest <;> rfl
    | link target => cases rest <;> rfl
    | dir es =>
      by_cases hab : a = b
      · subst hab
        have h1 : ¬ rest <+: others := fun hp => h (List.cons_prefix_cons.mpr ⟨rfl, hp⟩)
        have h2 : ¬ others <+: rest := fun hp => h' (List.cons_prefix_cons.mpr ⟨rfl, hp⟩)
        cases rest with
        | nil => exact absurd List.nil_prefix h1
        | cons c cs =>
          simp only [put]
          cases he : entry? a es with
          | none => rfl
          | some n =>
            simp only [find?, entry?_setEntry_self, he]
            exact find?_put_of_disjoint new (c :: cs) others n h1 h2
      · cases rest with
        | nil => simp only [put, find?, entry?_setEntry_of_ne hab]
        | cons c cs =>
          simp only [put]
          cases he : entry? a es with
          | none => rfl
          | some n => simp only [find?, entry?_setEntry_of_ne hab]

end Node

/-! ## Whole trees -/

/-- A whole tree: the entries of its root directory. -/
structure FileTree where
  entries : List (FileName × Node) := []

namespace FileTree

def root (t : FileTree) : Node := .dir t.entries

/-- The entry that the names lead to, without following links. -/
def find? (t : FileTree) (names : List FileName) : Option Node := t.root.find? names

/-- Sets or removes the entry that the names lead to, without following links. -/
def put (t : FileTree) (names : List FileName) (new : Option Node) : FileTree :=
  match t.root.put new names with
  | .dir entries => ⟨entries⟩
  | _ => t

theorem put_root (t : FileTree) (names : List FileName) (new : Option Node) :
    (t.put names new).root = t.root.put new names := by
  unfold put root
  match names with
  | [] => rfl
  | [name] => rfl
  | a :: b :: rest =>
    simp only [Node.put]
    cases Node.entry? a t.entries <;> rfl

theorem find?_put_self (t : FileTree) (new : Option Node) (names : List FileName)
    (name : FileName) (entries : List (FileName × Node))
    (h : t.find? names = some (.dir entries)) :
    (t.put (names ++ [name]) new).find? (names ++ [name]) = new := by
  rw [find?, put_root]
  exact Node.find?_put_self new name names t.root entries h

theorem find?_put_of_disjoint (t : FileTree) (new : Option Node) (names others : List FileName)
    (h : ¬ names <+: others) (h' : ¬ others <+: names) :
    (t.put names new).find? others = t.find? others := by
  rw [find?, put_root, Node.find?_put_of_disjoint new names others t.root h h']
  rfl

/-- No symbolic links anywhere. -/
def LinkFree (t : FileTree) : Prop := ∀ names target, t.find? names ≠ some (.link target)

end FileTree

end HybridGraphics
