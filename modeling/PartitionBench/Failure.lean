import PartitionBench.Warning

/-!
Contract: the ways in which a submission run can fail.

Owns: the kinds of failure, their messages and the exit code of each kind.

Does not own: the wording of failures that come from the system or from a
configuration reader; they carry their text.
-/

namespace PartitionBench

/-- A failure of a run, or of one of its parts. -/
inductive Failure where
  /-- The file to be partitioned is not there; the warnings were found before it was
  looked up. -/
  | missingInput (fileName : String) (warnings : List Warning)
  /-- The arguments are not acceptable. -/
  | usage (message : String)
  /-- The configuration cannot be read, or is not acceptable. -/
  | configuration (message : String)
  /-- The configuration file at a path is not well formed. -/
  | malformed (path : String)
  /-- A descriptor was refused, or the scheduler command failed. -/
  | submission (message : String)
  /-- The input ended before a question was answered. -/
  | promptClosed
  /-- A failure of the system, passed on as it came. -/
  | system (message : String)
  /-- A value was used as something that it is not. -/
  | unusable (message : String)
  deriving DecidableEq, Repr

namespace Failure

/-- What a message on a configuration file that is not well formed begins with. -/
def malformedOpening (path : String) : String :=
  "Cannot parse config file " ++ path ++ ": "

def message : Failure → String
  | .missingInput fileName _ => "file " ++ fileName ++ " does not exist."
  | .usage message => message
  | .configuration message => message
  | .malformed path => malformedOpening path ++ "the document is not well formed"
  | .submission message => message
  | .promptClosed => "Input closed before a Y/N answer was given"
  | .system message => message
  | .unusable message => message

/-- The exit code of the program for a failure. Whatever is not one of the
program's own failures counts as a failed submission. -/
def exitCode : Failure → Nat
  | .missingInput _ _ => 1
  | .usage _ => 2
  | .configuration _ => 3
  | .malformed _ => 3
  | .submission _ => 4
  | .promptClosed => 4
  | .system _ => 4
  | .unusable _ => 4

end Failure

def successCode : Nat := 0

end PartitionBench
