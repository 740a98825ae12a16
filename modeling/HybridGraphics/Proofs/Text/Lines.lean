import HybridGraphics.Proofs.Text.Cuts

/-!
# Texts and their lines

A text consists of its lines, each with its line ending, of which the last may lack one
(`consistsOf_lines`). Lines that are put together with newlines are the lines of that text again,
less a carriage return at their end, which is then part of the line ending (`lines_unlined`). That
makes no difference to what does not see a carriage return at the end (`dropLastIf_unseen`), such as
the words of a line (`words_append_blank`).
-/

namespace HybridGraphics.Text

/-! ## What a text consists of -/

/-- The text consists of these lines, each with an ending of its own. The last may have none. -/
inductive ConsistsOf : List Char → List (List Char) → Prop
  | done : ConsistsOf [] []
  | unended (line) : ConsistsOf line [line]
  | newline {rest lines} (line) (more : ConsistsOf rest lines) :
      ConsistsOf (line ++ '\n' :: rest) (line :: lines)
  | returned {rest lines} (line) (more : ConsistsOf rest lines) :
      ConsistsOf (line ++ '\r' :: '\n' :: rest) (line :: lines)

/-- At most one element was dropped, and that at the end. -/
theorem eq_dropLastIf_or {α : Type} [BEq α] [LawfulBEq α] (x : α) (xs : List α) :
    xs = dropLastIf x xs ∨ xs = dropLastIf x xs ++ [x] := by
  unfold dropLastIf
  split
  next hlast =>
    obtain ⟨before, rfl⟩ := List.getLast?_eq_some_iff.mp (eq_of_beq hlast)
    rw [List.dropLast_concat]
    exact .inr rfl
  next => exact .inl rfl

/-- What does not see an element at the end does not see it dropped. -/
theorem dropLastIf_unseen {α β : Type} [BEq α] [LawfulBEq α] {f : List α → β} {x : α}
    (h : ∀ xs, f (xs ++ [x]) = f xs) (xs : List α) : f (dropLastIf x xs) = f xs := by
  rcases eq_dropLastIf_or x xs with hsame | hdropped
  · rw [← hsame]
  · calc f (dropLastIf x xs) = f (dropLastIf x xs ++ [x]) := (h _).symm
      _ = f xs := by rw [← hdropped]

/-- Runs that newlines join consist of lines, the last without an end unless it is empty. -/
theorem consistsOf_joined : ∀ {runs : List (List Char)}, runs ≠ [] →
    ConsistsOf (joined '\n' runs)
      ((terminated runs).map fun (line, ended) => if ended then dropLastIf '\r' line else line)
  | [run], _ => by
    cases run with
    | nil => exact .done
    | cons c rest => exact .unended (c :: rest)
  | run :: next :: runs, _ => by
    have ih := consistsOf_joined (List.cons_ne_nil next runs)
    show ConsistsOf (run ++ '\n' :: joined '\n' (next :: runs)) (dropLastIf '\r' run :: _)
    rcases eq_dropLastIf_or '\r' run with hrun | hrun
    · rw [← hrun]
      exact .newline run ih
    · have hreturned := ConsistsOf.returned (dropLastIf '\r' run) ih
      rwa [List.append_cons, ← hrun] at hreturned

/-- A text consists of its lines. -/
theorem consistsOf_lines (text : List Char) : ConsistsOf text (lines text) := by
  have hjoined := consistsOf_joined (pieces_ne_nil (· == '\n') text)
  rwa [joined_pieces] at hjoined

/-- A text of lines that end in newlines consists of them. -/
theorem consistsOf_unlined (ls : List (List Char)) : ConsistsOf (ls.flatMap (· ++ ['\n'])) ls := by
  induction ls with
  | nil => exact .done
  | cons line rest ih =>
    rw [List.flatMap_cons, List.append_assoc, List.singleton_append]
    exact .newline line ih

/-! ## Reading lines back -/

theorem mem_of_mem_terminated {α : Type} {run : List α} {ended : Bool} :
    ∀ {runs : List (List α)}, (run, ended) ∈ terminated runs → run ∈ runs
  | [last], h => by
    unfold terminated at h
    split at h
    next => exact absurd h List.not_mem_nil
    next => exact List.mem_singleton.mpr (Prod.mk.inj (List.mem_singleton.mp h)).1
  | first :: next :: runs, h => by
    rcases List.mem_cons.mp h with heq | hmore
    · exact List.mem_cons.mpr (.inl (Prod.mk.inj heq).1)
    · exact List.mem_cons_of_mem first (mem_of_mem_terminated hmore)

theorem newline_not_mem_lines {text line : List Char} (h : line ∈ lines text) : '\n' ∉ line := by
  obtain ⟨⟨run, ended⟩, hrun, rfl⟩ := List.mem_map.mp h
  have hplain : '\n' ∉ run := fun hmem => by
    have hsep := not_sep_of_mem_pieces _ text run (mem_of_mem_terminated hrun) '\n' hmem
    rw [beq_self_eq_true] at hsep
    cases hsep
  cases ended with
  | false => exact hplain
  | true =>
    rcases eq_dropLastIf_or '\r' run with hsame | hreturn
    · rw [hsame] at hplain
      exact hplain
    · rw [hreturn] at hplain
      exact fun hmem => hplain (List.mem_append_left _ hmem)

theorem lines_cons_newline {line : List Char} (h : '\n' ∉ line) (rest : List Char) :
    lines (line ++ '\n' :: rest) = dropLastIf '\r' line :: lines rest := by
  unfold lines
  rw [pieces_cons_of_not_mem h]
  cases hp : pieces (· == '\n') rest with
  | nil => exact absurd hp (pieces_ne_nil _ rest)
  | cons next more => rfl

/-- Lines that are put together with newlines are read again, up to a carriage return at their
end. -/
theorem lines_unlined {ls : List (List Char)} (h : ∀ line ∈ ls, '\n' ∉ line) :
    lines (ls.flatMap (· ++ ['\n'])) = ls.map (dropLastIf '\r') := by
  induction ls with
  | nil => rfl
  | cons line rest ih =>
    obtain ⟨hline, hrest⟩ := List.forall_mem_cons.mp h
    rw [List.flatMap_cons, List.append_assoc, List.singleton_append, lines_cons_newline hline,
      ih hrest, List.map_cons]

theorem dropLastIf_of_getLast? {α : Type} [BEq α] [LawfulBEq α] {x : α} {xs : List α}
    (h : xs.getLast? ≠ some x) : dropLastIf x xs = xs := by
  unfold dropLastIf
  rw [if_neg (by rwa [beq_iff_eq])]

/-! ## Words -/

/-- A blank at the end makes no word. -/
theorem words_append_blank {c : Char} (hc : isBlank c = true) (text : List Char) :
    words (text ++ [c]) = words text := by
  unfold words
  rw [pieces_append_sep isBlank c hc, List.filter_append]
  exact List.append_nil _

end HybridGraphics.Text
