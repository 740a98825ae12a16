import HybridGraphics.FileTree.Fault
import HybridGraphics.FileTree.Path
import HybridGraphics.Text.Utf8

/-!
# Scripts

A script is a file that names its interpreter: the first line begins with the
mark `#!`, and what follows is the interpreter's path and, after a blank, one
argument for it. `Interpreter.ofScript?` reads that line as the machine does, from
the head of the file alone. A head without an interpreter makes the file no
program at all.

Blanks at the end of the line are dropped if a newline ends it. A line may also
end in a NUL or with the file; then such blanks count, and the path may even be
empty. A line that goes on past the head is taken only if its path ends there.
-/

namespace HybridGraphics

/-- The interpreter that a script names. -/
structure Interpreter where
  name : Bytes
  /-- What the interpreter is given before the script. -/
  argument : Option Bytes := none
  deriving DecidableEq, Repr

namespace Interpreter

/-! ## The first line of a script -/

/-- How much of a script the machine looks at. -/
def headBytes : Nat := 256

/-- The blanks of an interpreter line are the space and the tab. -/
def isBlankByte (b : UInt8) : Bool := b = 0x20 || b = 0x09

/-- The bytes without the blanks at their end. -/
def withoutTrailingBlanks (bytes : Bytes) : Bytes := (bytes.reverse.dropWhile isBlankByte).reverse

/-- The interpreter in the text after the mark. -/
def ofLine (line : Bytes) : Interpreter :=
  let text := line.dropWhile isBlankByte
  let name := text.takeWhile (!isBlankByte ·)
  match text.dropWhile (!isBlankByte ·) with
  | [] => { name }
  | rest => { name, argument := some (rest.dropWhile isBlankByte) }

/-- The interpreter that a script names, if it names one. -/
def ofScript? (script : Bytes) : Option Interpreter :=
  match script.take headBytes with
  | 0x23 :: 0x21 :: rest =>
    let line := rest.takeWhile fun b => b != 0x0a && b != 0x00
    let closed := ofLine (withoutTrailingBlanks line)
    if rest[line.length]? = some 0x0a then
      if closed.name.isEmpty then none else some closed
    else if line.length + 2 = headBytes then
      -- the line may go on past the head, but the path has to end in it
      let isWhole := (line.dropWhile isBlankByte).any isBlankByte
      if closed.name.isEmpty || !isWhole then none else some closed
    else some (ofLine line)
  | _ => none

/-! ## Where the interpreter is -/

/-- The path of the interpreter. A name without a slash in front is looked up in the
working directory, which holds nothing that a run has to do with. -/
def path (i : Interpreter) : Except Fault Path :=
  match Text.decode? i.name with
  | none => .error .notFound
  | some name =>
    let text := String.ofList name
    if name.head? = some '/' then .ok (Path.join "/" text)
    -- an empty name is the working directory itself
    else if (Path.components text).all fun c => Path.isIdle c || c = ".." then
      .error .permissionDenied
    else .error .notFound

end Interpreter

end HybridGraphics
