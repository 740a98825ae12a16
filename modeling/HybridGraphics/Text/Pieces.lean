/-!
# Cutting sequences at separators

Snapshot lines, bus addresses, module listings and paths are all read by
cutting a sequence at separators first. `pieces` is that one operation, over
any element type: it serves characters and, where a file need not be valid
text, bytes as well. `joined` puts pieces back together, and `joined_pieces`
states that a cut loses nothing.

`lines` is the reading of a text file: a line ends at a newline, a carriage
return just before the newline belongs to the line ending, and text after the
last newline is a line of its own unless it is empty.
-/

namespace HybridGraphics.Text

variable {α : Type}

/-! ## Pieces and what joins them -/

/-- The runs between the elements on which `sep` holds, in order. There is
always at least one run, and there is one more run than there are separators. -/
def pieces (sep : α → Bool) : List α → List (List α)
  | [] => [[]]
  | x :: xs =>
    if sep x then [] :: pieces sep xs
    else
      match pieces sep xs with
      | [] => [[x]]
      | run :: runs => (x :: run) :: runs

/-- Pieces put together again with the separator `s` between them. -/
def joined (s : α) : List (List α) → List α
  | [] => []
  | [run] => run
  | run :: next :: runs => run ++ s :: joined s (next :: runs)

theorem pieces_ne_nil (sep : α → Bool) (xs : List α) : pieces sep xs ≠ [] := by
  cases xs with
  | nil => simp [pieces]
  | cons x xs =>
    unfold pieces
    split
    · simp
    · split <;> simp

/-- Putting the pieces back together restores the sequence. -/
theorem joined_pieces [BEq α] [LawfulBEq α] (s : α) :
    ∀ xs : List α, joined s (pieces (· == s) xs) = xs
  | [] => rfl
  | x :: xs => by
    have ih := joined_pieces s xs
    have hne := pieces_ne_nil (· == s) xs
    unfold pieces
    cases hp : pieces (· == s) xs with
    | nil => exact absurd hp hne
    | cons run runs =>
      rw [hp] at ih
      split
      next h =>
        have hx : x = s := eq_of_beq h
        simp [joined, ih, hx]
      next =>
        cases runs with
        | nil => simpa [joined] using ih
        | cons next runs => simpa [joined] using ih

/-- No piece holds a separator. -/
theorem not_sep_of_mem_pieces (sep : α → Bool) :
    ∀ (xs : List α), ∀ run ∈ pieces sep xs, ∀ x ∈ run, sep x = false
  | [], run, hr, x, hx => by
    simp only [pieces, List.mem_singleton] at hr
    subst hr
    cases hx
  | y :: ys, run, hr, x, hx => by
    have ih := not_sep_of_mem_pieces sep ys
    unfold pieces at hr
    split at hr
    next =>
      rcases List.mem_cons.mp hr with h | h
      · subst h; cases hx
      · exact ih run h x hx
    next hy =>
      split at hr
      next =>
        simp only [List.mem_singleton] at hr
        subst hr
        rcases List.mem_cons.mp hx with h | h
        · subst h; simpa using hy
        · cases h
      next first rest hp =>
        rcases List.mem_cons.mp hr with h | h
        · subst h
          rcases List.mem_cons.mp hx with h | h
          · subst h; simpa using hy
          · exact ih first (by rw [hp]; exact List.mem_cons_self) x h
        · exact ih run (by rw [hp]; exact List.mem_cons_of_mem _ h) x hx

/-- A sequence without separators is one piece. -/
theorem pieces_of_forall_not (sep : α → Bool) :
    ∀ xs : List α, (∀ x ∈ xs, sep x = false) → pieces sep xs = [xs]
  | [], _ => rfl
  | x :: xs, h => by
    have hx := h x List.mem_cons_self
    have ih := pieces_of_forall_not sep xs (fun y hy => h y (List.mem_cons_of_mem _ hy))
    simp [pieces, hx, ih]

/-- A cut at the first separator: what stands before it, alone, and the pieces
of what stands after it. -/
theorem pieces_append_cons (sep : α → Bool) (s : α) (hs : sep s = true) (ys : List α) :
    ∀ xs : List α, (∀ x ∈ xs, sep x = false) → pieces sep (xs ++ s :: ys) = xs :: pieces sep ys
  | [], _ => by simp [pieces, hs]
  | x :: xs, h => by
    have hx := h x List.mem_cons_self
    have ih := pieces_append_cons sep s hs ys xs (fun y hy => h y (List.mem_cons_of_mem _ hy))
    simp [pieces, hx, ih]

/-! ## Cuts at one place -/

/-- What stands before the first `s` and what stands after it, if `s` occurs. -/
def splitAtFirst [BEq α] (s : α) : List α → Option (List α × List α)
  | [] => none
  | x :: xs =>
    if x == s then some ([], xs)
    else (splitAtFirst s xs).map fun (before, after) => (x :: before, after)

/-- The sequence without its last element, if that element is `x`. -/
def dropLastIf [BEq α] (x : α) (xs : List α) : List α :=
  if xs.getLast? == some x then xs.dropLast else xs

/-! ## Lines -/

/-- Pieces of a file at its newlines, without the empty piece after a final newline.
The flag says whether a newline ended the piece. -/
def terminated : List (List α) → List (List α × Bool)
  | [] => []
  | [run] => if run.isEmpty then [] else [(run, false)]
  | run :: next :: runs => (run, true) :: terminated (next :: runs)

/-- The lines of a text, without their line endings. -/
def lines (text : List Char) : List (List Char) :=
  (terminated (pieces (· == '\n') text)).map fun (line, ended) =>
    if ended then dropLastIf '\r' line else line

/-- True if `part` occurs in `whole` as a contiguous run. -/
def occursIn [BEq α] (part : List α) : List α → Bool
  | [] => part.isEmpty
  | x :: xs => part.isPrefixOf (x :: xs) || occursIn part xs

end HybridGraphics.Text
