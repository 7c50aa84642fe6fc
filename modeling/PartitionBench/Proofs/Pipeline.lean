import PartitionBench.Pipeline
import PartitionBench.Proofs.Batch.Watch

/-!
Contract: the parts of a submission run in their order.

Owns:
- what is reported and shown before the operator is asked;
- what comes of a run whose file is there, and of one whose file is missing.

Does not own: what a dispatch does (`Proofs.Dispatch`).
-/

namespace PartitionBench

/-- An outcome with events before it. -/
def Outcome.behind {σ α : Type} (events : List Event) (outcome : Outcome σ α) : Outcome σ α :=
  { outcome with events := events ++ outcome.events }

theorem Outcome.behind_behind {σ α : Type} (first second : List Event) (outcome : Outcome σ α) :
    (outcome.behind second).behind first = outcome.behind (first ++ second) := by
  simp only [Outcome.behind, List.append_assoc]

namespace Activity

/-- Behind a step that gives a value, the next step goes on. -/
theorem bind_eq_behind {σ α β : Type} {first : Activity σ α} {second : α → Activity σ β}
    {state after : σ} {value : α} {events : List Event}
    (done : first state = ⟨.ok value, events, after⟩) :
    (first >>= second) state = (second value after).behind events := by
  have succeeded : (first state).result = .ok value := by rw [done]
  rw [bind_of_ok succeeded, done]
  rfl

/-- A sequence succeeds when both of its steps do. -/
theorem bind_succeeds {σ α β : Type} {first : Activity σ α} {second : α → Activity σ β}
    {state : σ} {value : β} (succeeded : ((first >>= second) state).result = .ok value) :
    ∃ middle, (first state).result = .ok middle ∧
      (second middle (first state).state).result = .ok value ∧
      (first >>= second) state =
        (second middle (first state).state).behind (first state).events := by
  cases ended : (first state).result with
  | error failure =>
      rw [bind_of_error ended] at succeeded
      cases succeeded
  | ok middle =>
      rw [bind_of_ok ended] at succeeded ⊢
      exact ⟨middle, rfl, succeeded, rfl⟩

/-- To leave an event for each item succeeds and changes nothing. -/
theorem forEach_leave {σ α : Type} (event : α → Event) (items : List α) (state : σ) :
    forEach (fun item => leave (event item)) items state =
      ⟨.ok (), items.map event, state⟩ := by
  induction items with
  | nil => rfl
  | cons item rest inductionHypothesis =>
      have first : leave (event item) state = ⟨.ok (), [event item], state⟩ := rfl
      change (leave (event item) >>= fun _ => forEach _ rest) state = _
      rw [bind_eq_behind first, inductionHypothesis]
      rfl

end Activity

namespace Pipeline

open Activity

variable {σ : Type}

/-! ## Events -/

/-- The entries of the log for warnings. -/
def advising (warnings : List Warning) : List Event :=
  warnings.map fun warning => .logged (.warning warning.text)

/-- The lines that show an experiment. -/
def showing (experiment : Experiment) : List Event :=
  experiment.summary.map .printed

/-- What happens before the operator is asked, when the file is there. -/
def opening (arguments : Arguments) : List Event :=
  .lookedUp arguments.fileName ::
    (advising (Validation.advice arguments) ++ showing (.ofArguments arguments))

/-- The last entry of the log of a run that completes. -/
def farewell (scriptName : String) : Event :=
  .logged (.info ("Exiting " ++ scriptName ++ " script"))

/-- All that happens when the file is missing. -/
def aborting (arguments : Arguments) : List Event :=
  .lookedUp arguments.fileName ::
    (advising (Validation.formatAdvice arguments) ++
      [.logged (.error (abortion (.missingInput arguments.fileName [])))])

/-- What a dispatch makes of the rest of a run. -/
def concluded (scriptName : String) (arguments : Arguments)
    (dispatched : Outcome (Session σ) Dispatch.Account) : Outcome (Session σ) Result :=
  match dispatched.result with
  | .error failure => ⟨.error failure, dispatched.events, dispatched.state⟩
  | .ok account =>
      ⟨.ok
          { exitCode := successCode
            warnings := Validation.advice arguments
            experiment := Experiment.ofArguments arguments
            account := account },
        dispatched.events ++ [farewell scriptName], dispatched.state⟩

/-- No command is run before the operator is asked. -/
theorem no_runs_in_opening (arguments : Arguments) :
    (opening arguments).filterMap Event.run? = [] := by
  rw [List.filterMap_eq_nil_iff]
  intro event member
  simp only [opening, advising, showing, List.mem_cons, List.mem_append, List.mem_map] at member
  rcases member with rfl | ⟨_, _, rfl⟩ | ⟨_, _, rfl⟩ <;> rfl

theorem no_runs_in_aborting (arguments : Arguments) :
    (aborting arguments).filterMap Event.run? = [] := by
  rw [List.filterMap_eq_nil_iff]
  intro event member
  simp only [aborting, advising, List.mem_cons, List.mem_append, List.mem_map, List.not_mem_nil,
    or_false] at member
  rcases member with rfl | ⟨_, _, rfl⟩ | rfl <;> rfl

/-! ## Steps -/

theorem report_eq (warnings : List Warning) (state : σ) :
    report warnings state = ⟨.ok (), advising warnings, state⟩ :=
  forEach_leave _ warnings state

theorem present_eq (experiment : Experiment) (state : σ) :
    present experiment state = ⟨.ok (), showing experiment, state⟩ :=
  forEach_leave _ experiment.summary state

section Run

variable (submitter : Submitter σ) (scriptName : String) (arguments : Arguments)
  (session : Session σ)

theorem proceed_eq :
    proceed submitter scriptName arguments (Validation.advice arguments) session =
      (concluded scriptName arguments
        (Dispatch.dispatch submitter (Experiment.ofArguments arguments).toValue arguments.tools
          session)).behind
        (advising (Validation.advice arguments) ++ showing (.ofArguments arguments)) := by
  unfold proceed
  rw [bind_eq_behind (report_eq _ session), bind_eq_behind (present_eq _ session),
    Outcome.behind_behind]
  congr 1
  cases ended : (Dispatch.dispatch submitter (Experiment.ofArguments arguments).toValue
      arguments.tools session).result with
  | error failure =>
      rw [bind_of_error ended]
      simp only [concluded, ended]
  | ok account =>
      rw [bind_of_ok ended]
      simp only [concluded, ended]
      rfl

variable {lookUp : Session σ → String → Except Failure Bool}

/-- A run whose file is there warns, shows the experiment and dispatches it. -/
theorem run_of_present (isThere : lookUp session arguments.fileName = .ok true) :
    run submitter lookUp scriptName arguments session =
      (concluded scriptName arguments
        (Dispatch.dispatch submitter (Experiment.ofArguments arguments).toValue arguments.tools
          session)).behind (opening arguments) := by
  have validated : (Validation.validate lookUp arguments).settled session =
      ⟨.ok (.ok (Validation.advice arguments)), [.lookedUp arguments.fileName], session⟩ := by
    simp only [settled, Validation.validate, isThere]
  unfold run
  rw [bind_eq_behind validated]
  dsimp only
  rw [proceed_eq, Outcome.behind_behind]
  rfl

/-- A run whose file is missing reports that, and does nothing else. -/
theorem run_of_missing (isMissing : lookUp session arguments.fileName = .ok false) :
    run submitter lookUp scriptName arguments session =
      ⟨.ok
          { exitCode := 1
            warnings := Validation.formatAdvice arguments },
        aborting arguments, session⟩ := by
  have validated : (Validation.validate lookUp arguments).settled session =
      ⟨.ok (.error (.missingInput arguments.fileName (Validation.formatAdvice arguments))),
        [.lookedUp arguments.fileName], session⟩ := by
    simp only [settled, Validation.validate, isMissing]
  unfold run
  rw [bind_eq_behind validated]
  dsimp only
  rw [bind_eq_behind (report_eq _ session), Outcome.behind_behind]
  rfl

/-- A look-up that reports the file as missing itself is believed, with the warnings it brings. -/
theorem run_of_reported {fileName : String} {warnings : List Warning}
    (isReported : lookUp session arguments.fileName = .error (.missingInput fileName warnings)) :
    run submitter lookUp scriptName arguments session =
      ⟨.ok { exitCode := 1, warnings },
        .lookedUp arguments.fileName :: (advising warnings ++
          [.logged (.error (abortion (.missingInput fileName warnings)))]), session⟩ := by
  have validated : (Validation.validate lookUp arguments).settled session =
      ⟨.ok (.error (.missingInput fileName warnings)), [.lookedUp arguments.fileName],
        session⟩ := by
    simp only [settled, Validation.validate, isReported]
  unfold run
  rw [bind_eq_behind validated]
  dsimp only
  rw [bind_eq_behind (report_eq _ session), Outcome.behind_behind]
  rfl

/-- Any other failure of the look-up ends the run at once. -/
theorem run_of_failed {failure : Failure}
    (failed : lookUp session arguments.fileName = .error failure)
    (isOther : ∀ fileName warnings, failure ≠ .missingInput fileName warnings) :
    run submitter lookUp scriptName arguments session =
      ⟨.error failure, [.lookedUp arguments.fileName], session⟩ := by
  have validated : (Validation.validate lookUp arguments).settled session =
      ⟨.ok (.error failure), [.lookedUp arguments.fileName], session⟩ := by
    simp only [settled, Validation.validate, failed]
  unfold run
  rw [bind_eq_behind validated]
  cases failure with
  | missingInput fileName warnings => exact absurd rfl (isOther fileName warnings)
  | _ => rfl

/-- A run that succeeds has found the file and completed its dispatch. -/
theorem dispatched_of_success {result : Result}
    (completed : (run submitter lookUp scriptName arguments session).result = .ok result)
    (isSuccess : result.exitCode = 0) :
    ∃ account, result.account = some account ∧
      (Dispatch.dispatch submitter (Experiment.ofArguments arguments).toValue arguments.tools
        session).result = .ok account ∧
      run submitter lookUp scriptName arguments session =
        (concluded scriptName arguments
          (Dispatch.dispatch submitter (Experiment.ofArguments arguments).toValue arguments.tools
            session)).behind (opening arguments) := by
  cases found : lookUp session arguments.fileName with
  | error failure =>
      cases failure with
      | missingInput fileName warnings =>
          rw [run_of_reported submitter scriptName arguments session found] at completed
          cases completed
          cases isSuccess
      | _ =>
          rw [run_of_failed submitter scriptName arguments session found (by simp)] at completed
          cases completed
  | ok isThere =>
      cases isThere with
      | false =>
          rw [run_of_missing submitter scriptName arguments session found] at completed
          cases completed
          cases isSuccess
      | true =>
          have whole := run_of_present submitter scriptName arguments session found
          rw [whole] at completed
          cases ended : (Dispatch.dispatch submitter (Experiment.ofArguments arguments).toValue
              arguments.tools session).result with
          | error failure =>
              simp only [concluded, ended, Outcome.behind] at completed
              cases completed
          | ok account =>
              simp only [concluded, ended, Outcome.behind] at completed
              cases completed
              exact ⟨account, rfl, rfl, whole⟩

end Run

end Pipeline

end PartitionBench
