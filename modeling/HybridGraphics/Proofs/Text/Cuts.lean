import HybridGraphics.Text.Blank
import Mathlib.Data.List.TakeWhile

/-!
# Cuts and blanks

A cut at a separator is told by what does not hold the separator: a sequence that does not hold it is
one piece, and one that does is what stands before it and after it. That goes for all pieces
(`pieces_append_sep`) and for a cut at the first place only (`splitAtFirst_append_cons`).
-/

namespace HybridGraphics.Text

/-! ## Cuts at one place -/

/-- What stands before and after the first separator. -/
theorem splitAtFirst_append_cons (s : Char) (ys : List Char) :
    ∀ {xs : List Char}, s ∉ xs → splitAtFirst s (xs ++ s :: ys) = some (xs, ys)
  | [], _ => by simp [splitAtFirst]
  | x :: xs, h => by
    have hx : (x == s) = false := by
      simpa using fun he : x = s => h (he ▸ List.mem_cons_self)
    have ih := splitAtFirst_append_cons s ys fun hm => h (List.mem_cons_of_mem x hm)
    simp only [List.cons_append, splitAtFirst, hx, Bool.false_eq_true, if_false, ih, Option.map_some]

/-- Two sequences are cut alike at a separator that stands before neither cut. -/
theorem append_cons_inj {s : Char} {xs xs' ys ys' : List Char} (h : s ∉ xs) (h' : s ∉ xs')
    (heq : xs ++ s :: ys = xs' ++ s :: ys') : xs = xs' ∧ ys = ys' := by
  have hcut := splitAtFirst_append_cons s ys h
  rw [heq, splitAtFirst_append_cons s ys' h'] at hcut
  obtain ⟨hbefore, hafter⟩ := Prod.mk.inj (Option.some.inj hcut)
  exact ⟨hbefore.symm, hafter.symm⟩

/-- What was cut can be put together again. -/
theorem eq_of_splitAtFirst {α : Type} [BEq α] [LawfulBEq α] {s : α} :
    ∀ {xs before after : List α}, splitAtFirst s xs = some (before, after) →
      xs = before ++ s :: after
  | x :: xs, before, after, h => by
    unfold splitAtFirst at h
    split at h
    next hx =>
      obtain ⟨rfl, rfl⟩ := Prod.mk.inj (Option.some.inj h)
      rw [eq_of_beq hx, List.nil_append]
    next =>
      obtain ⟨⟨first, rest⟩, hrest, heq⟩ := Option.map_eq_some_iff.mp h
      obtain ⟨rfl, rfl⟩ := Prod.mk.inj heq
      rw [eq_of_splitAtFirst hrest, List.cons_append]

/-! ## Pieces -/

/-- A separator cuts, whatever stands before and after it. -/
theorem pieces_append_sep {α : Type} (sep : α → Bool) (s : α) (hs : sep s = true) (ys : List α) :
    ∀ xs : List α, pieces sep (xs ++ s :: ys) = pieces sep xs ++ pieces sep ys
  | [] => by simp [pieces, hs]
  | x :: xs => by
    have ih := pieces_append_sep sep s hs ys xs
    rw [List.cons_append, pieces, ih, pieces]
    split
    · rfl
    · cases hp : pieces sep xs with
      | nil => exact absurd hp (pieces_ne_nil sep xs)
      | cons run runs => rfl

/-- Of all runs, only the last may be without an end. -/
theorem terminated_append {α : Type} {more : List (List α)} (hne : more ≠ []) :
    ∀ runs : List (List α), terminated (runs ++ more) = runs.map (·, true) ++ terminated more
  | [] => rfl
  | [run] => by
    cases more with
    | nil => exact absurd rfl hne
    | cons next more => rfl
  | run :: next :: runs => by
    have ih := terminated_append hne (next :: runs)
    rw [List.cons_append] at ih ⊢
    rw [List.cons_append, terminated, ih]
    rfl

theorem pieces_of_not_mem {s : Char} {xs : List Char} (h : s ∉ xs) :
    pieces (· == s) xs = [xs] :=
  pieces_of_forall_not _ xs fun x hx => by
    simpa using fun he : x = s => h (he ▸ hx)

theorem pieces_cons_of_not_mem {s : Char} {xs : List Char} (h : s ∉ xs) (ys : List Char) :
    pieces (· == s) (xs ++ s :: ys) = xs :: pieces (· == s) ys :=
  pieces_append_cons _ s (by simp) ys xs fun x hx => by
    simpa using fun he : x = s => h (he ▸ hx)

/-- Runs that hold no separator are the pieces of what they are put together to. -/
theorem pieces_joined {s : Char} :
    ∀ {runs : List (List Char)}, runs ≠ [] → (∀ run ∈ runs, s ∉ run) →
      pieces (· == s) (joined s runs) = runs
  | [], hne, _ => absurd rfl hne
  | [run], _, h => pieces_of_not_mem (h run List.mem_cons_self)
  | run :: next :: runs, _, h => by
    obtain ⟨hrun, hrest⟩ := List.forall_mem_cons.mp h
    show pieces (· == s) (run ++ s :: joined s (next :: runs)) = run :: next :: runs
    rw [pieces_cons_of_not_mem hrun, pieces_joined (List.cons_ne_nil _ _) hrest]

/-- The last piece is empty if there is nothing to cut or a separator ends it. -/
theorem getLast?_pieces_iff {s : Char} :
    ∀ xs : List Char, (pieces (· == s) xs).getLast? = some [] ↔ xs = [] ∨ xs.getLast? = some s
  | [] => by simp [pieces]
  | x :: xs => by
    have ih := getLast?_pieces_iff (s := s) xs
    have hlast : (x :: xs).getLast? = some s ↔ xs = [] ∧ x = s ∨ xs.getLast? = some s := by
      cases xs with
      | nil => simp
      | cons y ys => simp [List.getLast?_cons_cons]
    simp only [List.cons_ne_nil, false_or, hlast]
    unfold pieces
    cases hp : pieces (· == s) xs with
    | nil => exact absurd hp (pieces_ne_nil _ xs)
    | cons run runs =>
      rw [hp] at ih
      by_cases hx : x = s
      · rw [if_pos (beq_iff_eq.mpr hx), List.getLast?_cons_cons, ih]
        simp [hx]
      · rw [if_neg (mt beq_iff_eq.mp hx)]
        cases runs with
        | cons next runs =>
          have hne : xs ≠ [] := by
            intro he
            rw [he] at hp
            cases hp
          rw [List.getLast?_cons_cons] at ih ⊢
          rw [ih]
          simp [hx, hne]
        | nil =>
          -- one piece only, and it is not empty
          have hxs : xs = run := by
            have hjoined := joined_pieces s xs
            rw [hp] at hjoined
            exact hjoined.symm
          have hnone : xs.getLast? ≠ some s := by
            intro hs
            have hempty : run = [] := by simpa using ih.mpr (.inr hs)
            rw [hxs, hempty] at hs
            cases hs
          simp [hx, hnone]

/-! ## Blanks -/

/-- Trimming takes nothing away but blanks. -/
theorem mem_trim {c : Char} {text : List Char} (hc : isBlank c = false) (h : c ∈ text) :
    c ∈ trim text := by
  have hdrop : ∀ {xs : List Char}, c ∈ xs → c ∈ xs.dropWhile isBlank := by
    intro xs hmem
    have hparts := @List.takeWhile_append_dropWhile _ isBlank xs
    rw [← hparts] at hmem
    refine (List.mem_append.mp hmem).resolve_left fun hblank => ?_
    rw [List.mem_takeWhile_imp hblank] at hc
    cases hc
  unfold trim trimEnd trimStart
  rw [List.mem_reverse]
  exact hdrop (List.mem_reverse.mpr (hdrop h))

/-- Blanks around a text are trimmed away. -/
theorem trim_surrounded {before after : List Char} (hbefore : ∀ c ∈ before, isBlank c = true)
    (hafter : ∀ c ∈ after, isBlank c = true) (text : List Char) :
    trim (before ++ text ++ after) = trim text := by
  have htail : ∀ xs : List Char, trimEnd (xs ++ after) = trimEnd xs := by
    intro xs
    unfold trimEnd
    rw [List.reverse_append,
      List.dropWhile_append_of_pos fun c hc => hafter c (List.mem_reverse.mp hc)]
  unfold trim trimStart
  rw [List.append_assoc, List.dropWhile_append_of_pos hbefore, List.dropWhile_append]
  split
  next hall =>
    rw [List.dropWhile_eq_nil_iff.mpr hafter, List.isEmpty_iff.mp hall]
  next => exact htail _

/-- A blank at the end makes no difference to a trimmed text. -/
theorem trim_append_blank {c : Char} (hc : isBlank c = true) (text : List Char) :
    trim (text ++ [c]) = trim text :=
  @trim_surrounded [] [c] (fun _ h => absurd h List.not_mem_nil)
    (fun _ h => List.mem_singleton.mp h ▸ hc) text

end HybridGraphics.Text
