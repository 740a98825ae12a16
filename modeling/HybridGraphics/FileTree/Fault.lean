/-!
# Why an operation on the machine failed

The causes a file operation or a command can fail with, and the sentence each
is reported with. Nothing in the program depends on the wording; some decisions
depend on the cause, such as taking a missing file for an absent one.
-/

namespace HybridGraphics

inductive Fault where
  /-- No entry of that name, or no program of that name. -/
  | notFound
  /-- The file may not be run. -/
  | permissionDenied
  | alreadyExists
  | notDirectory
  | isDirectory
  | tooManyLinks
  /-- A name, or the text of a whole path, is longer than the machine takes. -/
  | nameTooLong
  /-- The file may be run, but what it holds is no program. -/
  | notProgram
  /-- The text of a path holds the character that ends a text for the machine. -/
  | nulInPath
  /-- A program's name or an argument holds that character. -/
  | nulInCall
  /-- The file ended before the bytes that were needed. -/
  | endOfFile
  /-- The file is not UTF-8. -/
  | invalidText
  /-- A command ended with the status for a command that cannot be found. -/
  | commandNotFound
  | terminatedBySignal (signal : Nat)
  | exitStatus (status : UInt8)
  /-- A refusal in the words of the one who refused. -/
  | refused (reason : String)
  deriving DecidableEq, Repr

namespace Fault

def message : Fault → String
  | notFound => "No such file or directory (os error 2)"
  | permissionDenied => "Permission denied (os error 13)"
  | alreadyExists => "File exists (os error 17)"
  | notDirectory => "Not a directory (os error 20)"
  | isDirectory => "Is a directory (os error 21)"
  | tooManyLinks => "Too many levels of symbolic links (os error 40)"
  | nameTooLong => "File name too long (os error 36)"
  | notProgram => "Exec format error (os error 8)"
  | nulInPath => "file name contained an unexpected NUL byte"
  | nulInCall => "nul byte found in provided data"
  | endOfFile => "failed to fill whole buffer"
  | invalidText => "stream did not contain valid UTF-8"
  | commandNotFound => "command was not found"
  | terminatedBySignal signal => s!"terminated with signal {signal}"
  | exitStatus status => s!"status is unknown: exit status: {status}"
  | refused reason => reason

end Fault

/-- The one-line form of an error and its causes, outermost first. -/
def explained (chain : List String) : String := ": ".intercalate chain

end HybridGraphics
