import PartitionBench.Check

/-!
Contract: the jobs that a scheduler is given.

Owns: a planned job, a job that was handed on, and their shapes as document
values.

Does not own: planning (`Job.Plan`), names (`Job.Name`) and scripts
(`Job.Script`).
-/

namespace PartitionBench

open PartitionBench.Document

/-- A job: one run of one tool with one block count. A word of the command is
absent when what the look-up of the program gave is no text. -/
structure Job where
  name : String
  tool : String
  blockCount : Int
  nodes : Int
  tasks : Int
  command : List (Option String)
  scriptPath : String
  deriving DecidableEq, Repr

/-- A job that was handed on, with the identifier that the scheduler gave it, if
one could be read. -/
structure SubmittedJob where
  job : Job
  identifier : Option String
  deriving DecidableEq, Repr

namespace Job

def checkFields (fields : List (String × Value)) : Checked Job :=
  Job.mk
    <$> Check.field "name" Check.someText fields
    <*> Check.field "tool" Check.someText fields
    <*> Check.field "blockCount" (Check.integerOf Check.positiveWhole) fields
    <*> Check.field "nodes" (Check.integerOf Check.positiveWhole) fields
    <*> Check.field "tasks" (Check.integerOf Check.positiveWhole) fields
    <*> Check.field "command" (Check.someList fun word => some <$> Check.anyText word) fields
    <*> Check.field "scriptPath" Check.someText fields

def check : Value → Checked Job :=
  Check.record checkFields

def wordValue : Option String → Value
  | some word => .text word
  | none => .null

def fields (job : Job) : List (String × Value) :=
  [("name", .text job.name),
    ("tool", .text job.tool),
    ("blockCount", .ofInt job.blockCount),
    ("nodes", .ofInt job.nodes),
    ("tasks", .ofInt job.tasks),
    ("command", .list (job.command.map wordValue)),
    ("scriptPath", .text job.scriptPath)]

def toValue (job : Job) : Value :=
  .record job.fields

end Job

namespace SubmittedJob

/-- An identifier, or null where there is none. -/
def identifierCheck : Value → Checked (Option String)
  | .null => .sound none
  | value => some <$> Check.someText value

def check : Value → Checked SubmittedJob :=
  Check.record fun fields =>
    SubmittedJob.mk <$> Job.checkFields fields <*> Check.field "jobId" identifierCheck fields

def toValue (submitted : SubmittedJob) : Value :=
  .record (submitted.job.fields ++ [("jobId", Job.wordValue submitted.identifier)])

end SubmittedJob

end PartitionBench
