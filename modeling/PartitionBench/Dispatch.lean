import PartitionBench.Consent
import PartitionBench.Job.Plan
import PartitionBench.Submitter

/-!
Contract: submission with the operator's consent.

Owns:
- the questions, one for each tool or one for all competitors;
- the order of the work: a tool is asked for, and submitted before the next is
  asked for;
- the account of what was submitted and what was not.

Does not own: reading the answers (`Consent`) and submitting (`Submitter`).
-/

namespace PartitionBench

open PartitionBench.Document

/-- What a run with an operator works on: the answers still to come, and the state
of the submitter. -/
structure Session (σ : Type) where
  operator : Consent.Operator
  backend : σ

namespace Session

variable {σ α : Type}

def withOperator (step : Activity Consent.Operator α) : Activity (Session σ) α :=
  .on operator (fun session operator => { session with operator := operator }) step

def withBackend (step : Activity σ α) : Activity (Session σ) α :=
  .on backend (fun session backend => { session with backend := backend }) step

end Session

namespace Dispatch

variable {σ : Type}

/-- The account of a dispatch: the labels that were submitted and skipped, and the
jobs. -/
structure Account where
  allCompetitors : Bool
  submitted : List String := []
  skipped : List String := []
  jobs : List SubmittedJob := []
  deriving DecidableEq, Repr

/-- The account of one thing first and of others behind it. -/
def Account.before (first later : Account) : Account :=
  { allCompetitors := first.allCompetitors
    submitted := first.submitted ++ later.submitted
    skipped := first.skipped ++ later.skipped
    jobs := first.jobs ++ later.jobs }

/-- The word that stands for all competitors when it is the first tool. -/
def allWord : String := "all"

/-- The question whether a tool is to be submitted. -/
def toolQuestion (tool : String) : String :=
  "Submit experiments with >>> " ++ tool ++ " <<< Y/N:"

/-- The question whether all competitors are to be submitted. -/
def allQuestion : String := "Continue? :"

/-- What is asked before a target is submitted. -/
def question : Target → String
  | .tool name => toolQuestion name
  | .allCompetitors => allQuestion

/-- What is logged when a target is declined. -/
def declined : Target → String
  | .tool _ => "Not submitting experiments..."
  | .allCompetitors => "Not submitting experiments, aborting..."

def request (submitter : Submitter σ) (descriptor : Value) (target : Target) :
    Activity (Session σ) (List SubmittedJob) := do
  Activity.leave (.requested descriptor target)
  Session.withBackend (submitter.submit descriptor target)

/-- Ask about a target, and submit it if the operator says so. -/
def offer (submitter : Submitter σ) (descriptor : Value) (target : Target) :
    Activity (Session σ) Account := do
  let account : Account := { allCompetitors := target = .allCompetitors }
  let yes ← Session.withOperator (Consent.confirm (question target))
  if yes then
    let jobs ← request submitter descriptor target
    return { account with submitted := [Job.label target], jobs := jobs }
  else
    Activity.log (.info (declined target))
    return { account with skipped := [Job.label target] }

def offerTools (submitter : Submitter σ) (descriptor : Value) :
    List String → Activity (Session σ) Account
  | [] => return { allCompetitors := false }
  | tool :: rest => do
      let first ← offer submitter descriptor (.tool tool)
      let later ← offerTools submitter descriptor rest
      return first.before later

/-- Say what the word for all competitors means, and which tools behind it count
for nothing. -/
def announceAll (ignored : List String) : Activity (Session σ) Unit := do
  Activity.log (.warning
    "Will call the all-competitors executable that runs the experiment with all tools!!")
  if ignored ≠ [] then
    Activity.log (.detail ("Ignoring the other tools given: " ++ String.intercalate ", " ignored))

/-- Submit an experiment for the tools that the operator agrees to, or for all
competitors when the first tool is the word for them. -/
def dispatch (submitter : Submitter σ) (descriptor : Value) (tools : List String) :
    Activity (Session σ) Account :=
  if tools.head? = some allWord then do
    announceAll tools.tail
    offer submitter descriptor .allCompetitors
  else offerTools submitter descriptor tools

end Dispatch

end PartitionBench
