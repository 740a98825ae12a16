import HybridGraphics.FileTree.Program
import HybridGraphics.Text.Blank
import HybridGraphics.Text.Numeral
import HybridGraphics.Text.Utf8

/-!
# The shell

What a shell makes of a script, as far as the ending goes. A script is a
sequence of commands, each a list of words. The shell knows the commands that
set its status or end it; any other it cannot find, and goes on.
`Shell.runCommands` is structural on the commands: a script ends with the status
of its last command, unless one of them ends it before.
-/

namespace HybridGraphics.Shell

/-! ## The commands of a script -/

/-- The blanks between words are the space and the tab. -/
def isBlank (c : Char) : Bool := c = ' ' || c = '\t'

/-- A line without its comment, which begins with a hash in front of a word. -/
def withoutComment (atWordStart : Bool) : List Char → List Char
  | [] => []
  | c :: rest =>
    if atWordStart && c = '#' then []
    else c :: withoutComment (isBlank c || c = ';') rest

/-- The words of a command. -/
def words (command : List Char) : List String :=
  ((Text.pieces isBlank command).filter (!·.isEmpty)).map String.ofList

/-- The commands of a script, in order. A command ends at a semicolon or with its line. -/
def commands (script : List Char) : List (List String) :=
  let lines := (Text.pieces (· == '\n') script).map (withoutComment true)
  (lines.flatMap fun line => (Text.pieces (· == ';') line).map words).filter (!·.isEmpty)

/-! ## Running them -/

/-- What comes of a command: the shell goes on, or it ends. -/
inductive Step where
  | next (status : UInt8)
  | ended (exit : Exit)
  deriving DecidableEq, Repr

/-- The status of a shell that makes no sense of what it is given. -/
def misuseStatus : UInt8 := 2

/-- The largest number that a shell takes for a status. -/
def maxOperand : Nat := 0x7fffffff

/-- The status that the operand of `exit` stands for. A blank of another kind, such as a
carriage return, may stand at its end. -/
def statusOf (operand : String) : UInt8 :=
  match Text.read? 10 maxOperand (Text.trim operand.toList) with
  | some n => UInt8.ofNat n
  | none => misuseStatus

/-- Signals that end a program, by number and by name. -/
def signals : List (Nat × String) :=
  [(1, "HUP"), (2, "INT"), (3, "QUIT"), (6, "ABRT"), (9, "KILL"), (10, "USR1"), (11, "SEGV"),
    (12, "USR2"), (13, "PIPE"), (14, "ALRM"), (15, "TERM")]

/-- The signal that an option of `kill` stands for. -/
def signalOf? (option : String) : Option Nat :=
  match option.toList with
  | '-' :: text =>
    let fits := fun ((number, name) : Nat × String) =>
      text == Text.decimal number || text == name.toList
    (signals.find? fits).map (·.1)
  | _ => none

/-- Runs one command. The status of the one before it is the status of an `exit` of its own. -/
def perform (last : UInt8) : List String → Step
  | ["exit"] => .ended (.status last)
  | "exit" :: operand :: _ => .ended (.status (statusOf operand))
  | "true" :: _ => .next 0
  | ":" :: _ => .next 0
  | "echo" :: _ => .next 0
  | "false" :: _ => .next 1
  -- a shell knows itself by two dollar signs
  | ["kill", "$$"] => .ended (.signal 15)
  | ["kill", option, "$$"] =>
    match signalOf? option with
    | some number => .ended (.signal number)
    | none => .next misuseStatus
  | _ => .next Exit.commandNotFoundStatus

/-- Runs commands in order. `stopsAtFailure` ends the script at the first that fails. -/
def runCommands (stopsAtFailure : Bool) : UInt8 → List (List String) → Exit
  | last, [] => .status last
  | last, command :: rest =>
    match perform last command with
    | .ended exit => exit
    | .next status =>
      if stopsAtFailure && status ≠ 0 then .status status
      else runCommands stopsAtFailure status rest

/-! ## Running a script -/

/-- The option that makes a script stop at the first command that fails. -/
def stopOption : Char := 'e'

/-- The options that a shell takes before a script. -/
def options : List Char := stopOption :: "abCEfImuvVx".toList

/-- How a shell ends that is given a script after the argument. -/
def exitOf (argument : Option Bytes) (script : Bytes) : Exit :=
  -- bytes that are no text hold no commands
  let commands := commands ((Text.decode? script).getD [])
  match argument.map Text.decode? with
  | none => runCommands false 0 commands
  | some (some ('-' :: given)) =>
    if given.all options.contains then runCommands (given.contains stopOption) 0 commands
    else .status misuseStatus
  -- the argument is taken for a script, which is not there
  | some _ => .status misuseStatus

/-- A shell given a script after the argument, as a program. -/
def program (argument : Option Bytes) (script : Bytes) : Program :=
  { exit := exitOf argument script, isRecorded := false }

/-- A shell given nothing but options of another program. -/
def misused : Program := { exit := .status misuseStatus, isRecorded := false }

end HybridGraphics.Shell
