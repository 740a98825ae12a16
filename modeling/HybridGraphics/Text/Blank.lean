import HybridGraphics.Text.Pieces

/-!
# Blank characters

The characters with the Unicode property White_Space, and what is read by
them: the text of a line without the blanks around it (`trim`) and the words of
a line (`words`). The property is stable, so the list is complete.
-/

namespace HybridGraphics.Text

/-- True for the 25 characters of the Unicode property White_Space. -/
def isBlank (c : Char) : Bool :=
  let n := c.toNat
  (0x09 ≤ n && n ≤ 0x0d) || n == 0x20 || n == 0x85 || n == 0xa0 || n == 0x1680
    || (0x2000 ≤ n && n ≤ 0x200a) || n == 0x2028 || n == 0x2029 || n == 0x202f
    || n == 0x205f || n == 0x3000

/-! ## Trimming and words -/

/-- The text without the blanks at its start. -/
def trimStart (text : List Char) : List Char := text.dropWhile isBlank

/-- The text without the blanks at its end. -/
def trimEnd (text : List Char) : List Char := (text.reverse.dropWhile isBlank).reverse

/-- The text without the blanks around it. -/
def trim (text : List Char) : List Char := trimEnd (trimStart text)

/-- The maximal runs of characters that are not blank. -/
def words (text : List Char) : List (List Char) :=
  (pieces isBlank text).filter fun word => !word.isEmpty

/-- A text that starts and ends with a character that is not blank is its own trimming. -/
theorem trim_eq_self {text : List Char} (hd : ∀ c, text.head? = some c → isBlank c = false)
    (tl : ∀ c, text.getLast? = some c → isBlank c = false) : trim text = text := by
  have hs : trimStart text = text := by
    cases text with
    | nil => rfl
    | cons c cs => simp [trimStart, hd c rfl]
  rw [trim, hs, trimEnd]
  cases hr : text.reverse with
  | nil => simpa using hr
  | cons c cs =>
    have hc : isBlank c = false := by
      apply tl
      rw [← List.head?_reverse, hr]
      rfl
    rw [List.dropWhile_cons, hc]
    simpa using congrArg List.reverse hr.symm

/-- ASCII letters in lower case; every other character as it is. -/
def lowerAscii (text : List Char) : List Char := text.map Char.toLower

end HybridGraphics.Text
