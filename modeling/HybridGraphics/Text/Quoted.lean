import HybridGraphics.Text.Hidden
import HybridGraphics.Text.Numeral

/-!
# Quoted text

Messages that name a path or a value put it in double quotes, so that blanks
and line breaks in it can be seen. A backslash and a double quote are written
after a backslash, the usual controls have short forms, and a character that
cannot be seen is written as its code point in braces. All others stand for
themselves, an apostrophe too.
-/

namespace HybridGraphics.Text

/-- A character as it stands between the quotes. -/
def escaped (c : Char) : List Char :=
  if c = '\x00' then ['\\', '0']
  else if c = '\t' then ['\\', 't']
  else if c = '\n' then ['\\', 'n']
  else if c = '\r' then ['\\', 'r']
  else if c = '\\' || c = '"' then ['\\', c]
  else if isHidden c then ['\\', 'u', '\x7b'] ++ hex c.toNat ++ ['\x7d']
  else [c]

/-- The text in double quotes. -/
def quote (text : String) : String :=
  String.ofList ('"' :: text.toList.flatMap escaped ++ ['"'])

end HybridGraphics.Text
