import PartitionBench.Activity

/-!
Contract: questions to the operator.

Owns:
- the answers that the operator has still to give, one line each, and what happens
  when there are none left;
- asking, and asking until the answer is a clear yes or no.

Does not own: what is asked, and what follows from the answers (`Dispatch`).
-/

namespace PartitionBench.Consent

/-- What stands behind the last answer. -/
inductive Ending where
  /-- The input is closed. -/
  | closed
  /-- The list of prepared answers is used up. -/
  | exhausted
  deriving DecidableEq, Repr

/-- The failure of a question that finds no answer. -/
def Ending.failure : Ending → String → Failure
  | .closed, _ => .promptClosed
  | .exhausted, question => .system ("No scripted answer left for: " ++ question)

/-- The operator: the answers that are still to come, in order. -/
structure Operator where
  answers : List String
  ending : Ending
  deriving DecidableEq, Repr

/-- Ask one question and take the next answer, whatever it is. -/
def ask (question : String) : Activity Operator String :=
  fun operator =>
    match operator.answers with
    | [] => ⟨.error (operator.ending.failure question), [.asked question none], operator⟩
    | answer :: rest =>
        ⟨.ok answer, [.asked question (some answer)], { operator with answers := rest }⟩

/-- What an answer says, if it is clear: exactly a letter Y or N in either case. -/
def verdict? (answer : String) : Option Bool :=
  if answer = "Y" ∨ answer = "y" then some true
  else if answer = "N" ∨ answer = "n" then some false
  else none

/-- What is asked when an answer was not clear. -/
def retryQuestion : String := "Please type Y/y or N/n: "

/-- Ask until one of the given answers is clear. -/
def confirmFrom (ending : Ending) (question : String) : List String → Outcome Operator Bool
  | [] => ⟨.error (ending.failure question), [.asked question none], ⟨[], ending⟩⟩
  | answer :: rest =>
      let asked := Event.asked question (some answer)
      match verdict? answer with
      | some verdict => ⟨.ok verdict, [asked], ⟨rest, ending⟩⟩
      | none =>
          let later := confirmFrom ending retryQuestion rest
          ⟨later.result, asked :: later.events, later.state⟩

/-- Ask a question, and again until the answer is clear. -/
def confirm (question : String) : Activity Operator Bool :=
  fun operator => confirmFrom operator.ending question operator.answers

end PartitionBench.Consent
