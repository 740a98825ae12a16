import HybridGraphics.FileTree.Access
import Mathlib.Data.List.Sort
import Mathlib.Data.String.Basic
import Mathlib.Order.Bounds.Basic

/-!
# Listings in order

Sorting by insertion is the library's `insertionSort`, so a sorted listing holds the names of the
directory in ascending order, and as they are listed without repetition, each of them once.
-/

namespace HybridGraphics.FileTree

variable {t : FileTree} {p : Path} {names : List FileName}

theorem insertName_eq (name : FileName) :
    ∀ names : List FileName, insertName name names = names.orderedInsert (· ≤ ·) name
  | [] => rfl
  | next :: rest => by
    rw [insertName, List.orderedInsert_cons, insertName_eq name rest]

/-- Sorting names is insertion sort by their order. -/
theorem sortNames_eq (names : List FileName) : sortNames names = names.insertionSort (· ≤ ·) := by
  induction names with
  | nil => rfl
  | cons name rest ih =>
    show insertName name (sortNames rest) = _
    rw [insertName_eq, ih, List.insertionSort_cons]

theorem sortNames_perm (names : List FileName) : (sortNames names).Perm names := by
  rw [sortNames_eq]
  exact List.perm_insertionSort _ names

theorem sortNames_pairwise (names : List FileName) : (sortNames names).Pairwise (· ≤ ·) := by
  rw [sortNames_eq]
  exact List.pairwise_insertionSort _ names

/-- A directory lists each name once, whatever entries it was built from. -/
theorem entryNames_nodup : ∀ entries : List (FileName × Node), (Node.entryNames entries).Nodup
  | [] => List.nodup_nil
  | (name, node) :: rest => by
    unfold Node.entryNames
    exact List.nodup_cons.mpr ⟨by simp, (entryNames_nodup rest).filter _⟩

/-- A directory is listed without repetition. -/
theorem nodup_of_list (h : t.list p = .ok names) : names.Nodup := by
  unfold list at h
  simp only [bind, Except.bind] at h
  split at h
  next => cases h
  next node _ =>
    cases node with
    | dir entries =>
      cases h
      exact entryNames_nodup entries
    | file content runnable => cases h
    | link target => cases h

/-- What is listed is in strictly ascending order once it is sorted. -/
theorem ascending_of_list (h : t.list p = .ok names) : (sortNames names).Pairwise (· < ·) := by
  have hnodup := (sortNames_perm names).nodup_iff.mpr (nodup_of_list h)
  exact (sortNames_pairwise names).and hnodup |>.imp fun h => lt_of_le_of_ne h.1 h.2

/-- The first name in order that passes a test is the least that does. -/
theorem find?_sortNames_eq_some_iff {test : FileName → Bool} {name : FileName} :
    (sortNames names).find? test = some name ↔
      IsLeast {other | other ∈ names ∧ test other = true} name := by
  have hleast : ∀ {name}, (sortNames names).find? test = some name →
      IsLeast {other | other ∈ names ∧ test other = true} name := by
    intro name h
    obtain ⟨htest, before, after, hsplit, hbefore⟩ := List.find?_eq_some_iff_append.mp h
    have hsorted := sortNames_pairwise names
    rw [hsplit, List.pairwise_append, List.pairwise_cons] at hsorted
    have hmem : ∀ other, other ∈ names ↔ other ∈ before ++ name :: after := by
      intro other
      rw [← hsplit, mem_sortNames]
    refine ⟨⟨(hmem name).mpr (by simp), htest⟩, fun other hother => ?_⟩
    rcases List.mem_append.mp ((hmem other).mp hother.1) with hearlier | hlater
    · have hfails := hbefore other hearlier
      rw [hother.2] at hfails
      cases hfails
    · rcases List.mem_cons.mp hlater with rfl | hlater
      · exact le_refl _
      · exact hsorted.2.1.1 other hlater
  refine ⟨hleast, fun h => ?_⟩
  cases hfind : (sortNames names).find? test with
  | none => exact absurd h.1.2 (List.find?_eq_none.mp hfind name (mem_sortNames.mpr h.1.1))
  | some first => rw [(hleast hfind).unique h]

end HybridGraphics.FileTree
