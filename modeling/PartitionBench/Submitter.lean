import PartitionBench.Activity
import PartitionBench.Job

/-!
Contract: what a submission run needs of the part that submits.

Owns: the interface of a submitter, what comes of calling it again and again, and the
submitter that only takes note of what it is asked for.

Does not own: the submitter that hands jobs to a scheduler (`Batch`).
-/

namespace PartitionBench

open PartitionBench.Document

/-- A submitter: given the descriptor of an experiment and a target, it submits
one job for each block count. Its state is `σ`. It takes no part in the dialogue that
decides what it is asked for. -/
structure Submitter (σ : Type) where
  submit : Value → Target → Activity σ (List SubmittedJob)
  discreet : ∀ descriptor target,
    (submit descriptor target).Leaves (fun event => event.isDialogue = false)

namespace Submitter

/-- The submitter that submits nothing and succeeds. -/
def idle (σ : Type) : Submitter σ :=
  ⟨fun _ _ => .done [], fun _ _ => Activity.leaves_pure []⟩

structure Call where
  descriptor : Value
  target : Target

variable {σ : Type}

def call (submitter : Submitter σ) (call : Call) : Activity σ (List SubmittedJob) :=
  submitter.submit call.descriptor call.target

/-- What comes of calls that are made one after another, each in the state that the one
before it left, whether or not that one failed. -/
def outcomes (submitter : Submitter σ) : σ → List Call → List (Outcome σ (List SubmittedJob))
  | _, [] => []
  | state, call :: rest =>
      let outcome := submitter.call call state
      outcome :: submitter.outcomes outcome.state rest

/-- The state after calls that are made one after another. -/
def after (submitter : Submitter σ) (state : σ) (calls : List Call) : σ :=
  calls.foldl (fun state call => (submitter.call call state).state) state

theorem outcomes_cons (submitter : Submitter σ) (state : σ) (call : Call) (rest : List Call) :
    submitter.outcomes state (call :: rest) =
      submitter.call call state :: submitter.outcomes (submitter.call call state).state rest :=
  rfl

theorem after_cons (submitter : Submitter σ) (state : σ) (call : Call) (rest : List Call) :
    submitter.after state (call :: rest) =
      submitter.after (submitter.call call state).state rest :=
  rfl

theorem after_append (submitter : Submitter σ) (state : σ) (calls more : List Call) :
    submitter.after state (calls ++ more) =
      submitter.after (submitter.after state calls) more :=
  List.foldl_append

/-- The calls that follow start from what those before them left. -/
theorem outcomes_append (submitter : Submitter σ) (state : σ) (calls more : List Call) :
    submitter.outcomes state (calls ++ more) =
      submitter.outcomes state calls ++
        submitter.outcomes (submitter.after state calls) more := by
  induction calls generalizing state with
  | nil => rfl
  | cons call rest inductionHypothesis =>
      rw [List.cons_append, outcomes_cons, outcomes_cons, after_cons, inductionHypothesis]
      rfl

end Submitter

end PartitionBench
