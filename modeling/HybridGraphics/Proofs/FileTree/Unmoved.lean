import HybridGraphics.Proofs.FileTree.Touches

/-!
# Reading what has not changed

A run reads what earlier runs have left, and most of what it reads no run writes.
`SameBelow p t t'` says that two trees answer alike at a path and at the paths that lead on
from it, links or not. Then every reader gets the same answer there. `Unmoved p t t'` is the
usual reason for it: two trees without links have the same entries at the place of the path
and below it (`Unmoved.sameBelow`).

The same answer, that is, as far as a run can tell: a path that leads to nothing may be
refused for different causes in the two trees, since directories above the place may
have come or gone. `SameAnswer` leaves the cause of a refusal open.

A file's bytes can be read alike even where directories have changed:
`sameAnswer_read_of_bytes?` asks for no more than the bytes at the place.
-/

namespace HybridGraphics

/-- Both answers are the same, or both are refusals. -/
inductive SameAnswer {ε α : Type} : Except ε α → Except ε α → Prop
  | ok (a : α) : SameAnswer (.ok a) (.ok a)
  | error (cause cause' : ε) : SameAnswer (.error cause) (.error cause')

namespace SameAnswer

variable {ε ε' α β : Type}

theorem refl (x : Except ε α) : SameAnswer x x := by
  cases x with
  | ok a => exact .ok a
  | error cause => exact .error cause cause

/-- Answers that succeed alike are the same answer, since refusals count as one. -/
theorem of_iff {x y : Except ε α} (h : ∀ a, x = .ok a ↔ y = .ok a) : SameAnswer x y := by
  cases x with
  | ok a =>
    rw [(h a).mp rfl]
    exact .ok a
  | error cause =>
    cases y with
    | ok a => cases (h a).mpr rfl
    | error cause' => exact .error cause cause'

/-- Going on alike from the same answer comes to the same answer. -/
theorem bind {x y : Except ε α} {f g : α → Except ε β} (h : SameAnswer x y)
    (hf : ∀ a, SameAnswer (f a) (g a)) : SameAnswer (x >>= f) (y >>= g) := by
  cases h with
  | ok a => exact hf a
  | error cause cause' => exact .error cause cause'

theorem map {x y : Except ε α} (h : SameAnswer x y) (f : α → β) :
    SameAnswer (x.map f) (y.map f) := by
  cases h with
  | ok a => exact .ok (f a)
  | error cause cause' => exact .error cause cause'

/-- What a refusal is called does not matter. -/
theorem mapError {x y : Except ε α} (h : SameAnswer x y) (f : ε → ε') :
    SameAnswer (x.mapError f) (y.mapError f) := by
  cases h with
  | ok a => exact .ok a
  | error cause cause' => exact .error _ _

/-- Both answers are this value, or neither is. -/
theorem ok_iff {x y : Except ε α} (h : SameAnswer x y) {a : α} : x = .ok a ↔ y = .ok a := by
  cases h with
  | ok b => exact Iff.rfl
  | error cause cause' => constructor <;> intro he <;> cases he

end SameAnswer

namespace FileTree

open HybridGraphics.Path (named EndsInName)

/-! ## Trees that answer alike -/

/-- The trees answer alike at the path and at every path that leads on from it. -/
structure SameBelow (p : Path) (t t' : FileTree) : Prop where
  here : SameAnswer (t.entry p) (t'.entry p)
  below : ∀ names, ".." ∉ names → SameAnswer (t.entry (p.below names)) (t'.entry (p.below names))

namespace SameBelow

variable {p : Path} {t t' : FileTree}

theorem child (h : SameBelow p t t') {name : FileName} (hn : name ≠ "..") :
    SameBelow (p.child name) t t' where
  here := h.below [name] fun hm => hn (List.mem_singleton.mp hm).symm
  below names hnames := by
    have hbelow : (p.child name).below names = p.below (name :: names) := by
      simp [Path.below, Path.child]
    rw [hbelow]
    refine h.below _ fun hm => ?_
    rcases List.mem_cons.mp hm with he | hm
    · exact hn he.symm
    · exact hnames hm

/-- Both trees have something at the path, or neither has. -/
theorem has (h : SameBelow p t t') : t'.has p = t.has p := by
  have he := h.here
  unfold FileTree.has
  generalize t.entry p = x at he ⊢
  generalize t'.entry p = y at he ⊢
  cases he <;> rfl

theorem hasDir (h : SameBelow p t t') : t'.hasDir p = t.hasDir p := by
  have he := h.here
  unfold FileTree.hasDir
  generalize t.entry p = x at he ⊢
  generalize t'.entry p = y at he ⊢
  cases he <;> rfl

/-- The file at the path reads alike, or is refused by both. -/
theorem read (h : SameBelow p t t') : SameAnswer (t.read p) (t'.read p) := by
  refine h.here.bind fun node => ?_
  cases node <;> exact .refl _

theorem readText (h : SameBelow p t t') : SameAnswer (t.readText p) (t'.readText p) :=
  h.read.bind fun _ => .refl _

theorem list (h : SameBelow p t t') : SameAnswer (t.list p) (t'.list p) := by
  refine h.here.bind fun node => ?_
  cases node <;> exact .refl _

end SameBelow

/-! ## Trees that are the same somewhere -/

/-- The trees have the same entries at the place of the path and below it. -/
structure Unmoved (p : Path) (t t' : FileTree) : Prop where
  linkFree : t.LinkFree
  linkFree' : t'.LinkFree
  descends : p.Descends
  same : ∀ more, t'.find? (p.place ++ more) = t.find? (p.place ++ more)

/-- Changes elsewhere leave what is at a path and below it. -/
theorem Touches.unmoved {places : List (List FileName)} {t t' : FileTree}
    (h : Touches places t t') (free : t.LinkFree) {p : Path} (down : p.Descends)
    (hp : ∀ s ∈ places, Apart s p.place) : Unmoved p t t' where
  linkFree := free
  linkFree' := h.linkFree
  descends := down
  same more := h.find?_eq _ fun s hs => (hp s hs).below more

namespace Unmoved

variable {p : Path} {t t' t'' : FileTree}

theorem trans (h : Unmoved p t t') (h' : Unmoved p t' t'') : Unmoved p t t'' where
  linkFree := h.linkFree
  linkFree' := h'.linkFree'
  descends := h.descends
  same more := (h'.same more).trans (h.same more)

/-- What holds of a path holds of every path that leads on from it. -/
theorem below (h : Unmoved p t t') {names : List FileName} (hn : ".." ∉ names) :
    Unmoved (p.below names) t t' where
  linkFree := h.linkFree
  linkFree' := h.linkFree'
  descends := h.descends.below hn
  same more := by
    rw [Path.place_below, List.append_assoc]
    exact h.same _

theorem child (h : Unmoved p t t') {name : FileName} (hn : name ≠ "..") :
    Unmoved (p.child name) t t' :=
  h.below fun hm => hn (List.mem_singleton.mp hm).symm

/-! ## Readers -/

/-- The walk along the path finds the same entry, or is refused in both trees. -/
theorem entry (h : Unmoved p t t') : SameAnswer (t.entry p) (t'.entry p) := by
  refine .of_iff fun node => ?_
  have hsame := h.same []
  rw [List.append_nil] at hsame
  rw [entry_eq_ok_iff h.linkFree h.descends, entry_eq_ok_iff h.linkFree' h.descends, hsame]

/-- Trees with the same entries answer alike. -/
theorem sameBelow (h : Unmoved p t t') : SameBelow p t t' :=
  ⟨h.entry, fun _ hn => (h.below hn).entry⟩

theorem has (h : Unmoved p t t') : t'.has p = t.has p := h.sameBelow.has

theorem read (h : Unmoved p t t') : SameAnswer (t.read p) (t'.read p) := h.sameBelow.read

theorem readText (h : Unmoved p t t') : SameAnswer (t.readText p) (t'.readText p) :=
  h.sameBelow.readText

theorem list (h : Unmoved p t t') : SameAnswer (t.list p) (t'.list p) := h.sameBelow.list

theorem listSorted (h : Unmoved p t t') : SameAnswer (t.listSorted p) (t'.listSorted p) :=
  h.list.map _

end Unmoved

/-! ## Files by their bytes -/

/-- In trees without links, a file reads alike as soon as its bytes are the same. -/
theorem sameAnswer_read_of_bytes? {t t' : FileTree} (free : t.LinkFree) (free' : t'.LinkFree)
    {p : Path} (down : p.Descends) (h : t'.bytes? p.place = t.bytes? p.place) :
    SameAnswer (t.read p) (t'.read p) := by
  refine .of_iff fun content => ?_
  rw [read_eq_ok_iff free down, read_eq_ok_iff free' down, h]

end FileTree

end HybridGraphics
