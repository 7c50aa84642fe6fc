/-!
Contract: the lines that tell the operator how a run goes.

Owns: the kinds of log entry and the line that each is written as.

Does not own: where the lines go and when entries are made.
-/

namespace PartitionBench.Log

/-- An entry of the log. -/
inductive Entry where
  | info (message : String)
  | detail (message : String)
  | warning (message : String)
  | error (message : String)
  /-- A job was handed to the scheduler, which answered with an identifier or with
  something that could not be read as one. -/
  | submitted (name : String) (identifier : Option String)
  /-- The script of a job was written and nothing else was done with it. -/
  | written (name : String)
  deriving DecidableEq, Repr

def Entry.line : Entry → String
  | .info message => "ℹ️  " ++ message
  | .detail message => "   " ++ message
  | .warning message => "⚠️  WARNING: " ++ message
  | .error message => "💥 ERROR: " ++ message
  | .submitted name identifier =>
      "🚀 " ++ name ++ " submitted as job " ++ identifier.getD "(unknown id)"
  | .written name => "📝 " ++ name ++ " written (not submitted)"

end PartitionBench.Log
