import HybridGraphics.FileTree.Fault
import HybridGraphics.FileTree.Path

/-!
# Programs

What running a program amounts to, as far as its caller can tell: it prints, it
may overwrite one file, and it ends with a status or by a signal.
`Exit.outcome` is how a caller that needs success reads the ending.

A file is run by what it holds, but only if it may be run at all. `Runnable`
says both, and `Runnable.overwritten` what other bytes make of it: the
permission stays, and what was written is the script to run.
-/

namespace HybridGraphics

/-- How a program ended. -/
inductive Exit where
  | status (code : UInt8)
  | signal (number : Nat)
  deriving DecidableEq, Repr

namespace Exit

/-- The status a shell gives when it cannot find a command. -/
def commandNotFoundStatus : UInt8 := 127

/-- Only status zero is success. -/
def outcome : Exit → Except Fault Unit
  | status code =>
    if code = 0 then .ok ()
    else if code = commandNotFoundStatus then .error .commandNotFound
    else .error (.exitStatus code)
  | signal number => .error (.terminatedBySignal number)

end Exit

structure Program where
  output : String := ""
  /-- A file that a run overwrites, with its new text. -/
  overwrites : Option (Path × String) := none
  exit : Exit := .status 0
  /-- True if every call of the program is kept in the record of calls. -/
  isRecorded : Bool := true
  deriving DecidableEq, Repr

/-- What comes of running a file. -/
inductive Runnable where
  /-- The file may not be run. -/
  | forbidden
  /-- The file is this program. -/
  | program (program : Program)
  /-- The file is a shell. -/
  | shell
  /-- The file is run as the script that it holds. -/
  | script
  deriving DecidableEq, Repr

namespace Runnable

/-- What comes of running the file after text was written over it. -/
def overwritten : Runnable → Runnable
  | forbidden => forbidden
  | _ => script

end Runnable

end HybridGraphics
