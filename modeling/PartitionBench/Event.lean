import PartitionBench.Document.Value
import PartitionBench.Log

/-!
Contract: what an observer of a run sees, in order.

Owns: the events of a run, the dialogue among them, and the part of them that reaches
the two output streams of the program.

Does not own: the state that a run leaves behind (`Activity`).
-/

namespace PartitionBench

open PartitionBench.Document

/-- What a submission is for: one tool, or all competitors together. -/
inductive Target where
  | tool (name : String)
  | allCompetitors
  deriving DecidableEq, Repr

/-- One observable step of a run. -/
inductive Event where
  | lookedUp (fileName : String)
  | logged (entry : Log.Entry)
  | printed (line : String)
  /-- A question was asked; there is no answer when the input had ended. -/
  | asked (question : String) (answer : Option String)
  /-- A submitter was called with a descriptor. -/
  | requested (descriptor : Value) (target : Target)
  /-- A command was started. -/
  | ran (command : String) (arguments : List String)
  deriving Repr

namespace Event

/-- An event of the dialogue in which submissions are decided on: a question, or a
request to submit. -/
def isDialogue : Event → Bool
  | .asked _ _ => true
  | .requested _ _ => true
  | _ => false

/-- What an event adds to the standard output: printed lines, and questions, which
end no line. -/
def output : Event → String
  | .printed line => line ++ "\n"
  | .asked question _ => question
  | _ => ""

/-- What an event adds to the error output: the lines of the log. -/
def errorOutput : Event → String
  | .logged entry => entry.line ++ "\n"
  | _ => ""

end Event

def outputOf (events : List Event) : String :=
  String.join (events.map Event.output)

/-- The error output of a run, as far as it comes from the log. -/
def errorOutputOf (events : List Event) : String :=
  String.join (events.map Event.errorOutput)

end PartitionBench
