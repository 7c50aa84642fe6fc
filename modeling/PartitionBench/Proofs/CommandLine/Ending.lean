import PartitionBench.CommandLine.Action
import PartitionBench.Proofs.Batch.Watch
import PartitionBench.Proofs.CommandLine.Offences
import PartitionBench.Proofs.Consent.Answers
import PartitionBench.Proofs.Dispatch.Reach
import PartitionBench.Proofs.Pipeline
import PartitionBench.Proofs.Settings

/-!
Contract: how the submit command ends.

Owns:
- the exit code of a failure in each stage, none of which is the code of another stage;
- what a command leaves that ends before the operator is asked;
- the standard output of a command that comes so far as to ask.

Does not own: what a dispatch does between its first question and its end (`Proofs.Dispatch`), how
the options of the command line are read (`CommandLine.Usage`), and what the usage error says of
them (`Proofs.CommandLine.Offences`).
-/

namespace PartitionBench

open PartitionBench.Document

/-! ## Failures before the run -/

namespace CommandLine.SubmitOptions

theorem ofValue_exitCode {options : SubmitOptions} {failure : Failure}
    (refused : Arguments.ofValue options.toValue = .error failure) : failure.exitCode = 2 := by
  obtain ⟨_, rfl⟩ := ofValue_eq_error_iff.mp refused
  rfl

end CommandLine.SubmitOptions

/-! ## Output -/

/-- An event that prints no line. -/
def Event.IsUnprinted : Event → Prop
  | .printed _ => False
  | _ => True

theorem outputOf_append (first second : List Event) :
    outputOf (first ++ second) = outputOf first ++ outputOf second := by
  rw [outputOf, List.map_append, String.join_append]
  rfl

theorem asksIn_append (first second : List Event) :
    asksIn (first ++ second) = asksIn first ++ asksIn second :=
  List.filterMap_append

/-- Where no line is printed, the output consists of the questions. -/
theorem outputOf_unprinted {events : List Event}
    (areUnprinted : ∀ event ∈ events, event.IsUnprinted) :
    outputOf events = String.join ((asksIn events).map Prod.fst) := by
  induction events with
  | nil => rfl
  | cons event rest inductionHypothesis =>
      obtain ⟨isUnprinted, others⟩ := List.forall_mem_cons.mp areUnprinted
      have whole : outputOf (event :: rest) =
          event.output ++ String.join ((asksIn rest).map Prod.fst) := by
        rw [← inductionHypothesis others]
        exact String.join_cons
      rw [whole]
      cases event with
      | printed line => cases isUnprinted
      | asked question answer =>
          rw [← String.join_cons]
          rfl
      | lookedUp fileName => exact String.empty_append
      | logged entry => exact String.empty_append
      | requested descriptor target => exact String.empty_append
      | ran command arguments => exact String.empty_append

namespace Pipeline

theorem outputOf_advising (warnings : List Warning) : outputOf (advising warnings) = "" := by
  have asks : asksIn (advising warnings) = [] := by
    rw [asksIn, List.filterMap_eq_nil_iff]
    intro event member
    obtain ⟨warning, _, rfl⟩ := List.mem_map.mp member
    rfl
  rw [outputOf_unprinted, asks]
  · rfl
  · intro event member
    obtain ⟨warning, _, rfl⟩ := List.mem_map.mp member
    trivial

theorem outputOf_opening (arguments : Arguments) :
    outputOf (opening arguments) =
      String.join ((Experiment.ofArguments arguments).summary.map (· ++ "\n")) := by
  have shown : outputOf (showing (.ofArguments arguments)) =
      String.join ((Experiment.ofArguments arguments).summary.map (· ++ "\n")) := by
    rw [outputOf, showing, List.map_map]
    rfl
  rw [opening, ← List.singleton_append, outputOf_append, outputOf_append, outputOf_advising, shown,
    String.empty_append]
  exact String.empty_append

theorem outputOf_aborting (arguments : Arguments) : outputOf (aborting arguments) = "" := by
  rw [aborting, ← List.singleton_append, outputOf_append, outputOf_append, outputOf_advising]
  rfl

theorem asksIn_opening (arguments : Arguments) : asksIn (opening arguments) = [] := by
  rw [asksIn, List.filterMap_eq_nil_iff]
  intro event member
  simp only [opening, advising, showing, List.mem_cons, List.mem_append, List.mem_map] at member
  rcases member with rfl | ⟨_, _, rfl⟩ | ⟨_, _, rfl⟩ <;> rfl

end Pipeline

namespace CommandLine

variable {τ : Type}

/-! ## The command -/

/-- The settings in the configuration file of a command, which only a command that names one must
find. -/
def loaded (options : SubmitOptions) (surroundings : Surroundings) : Except Failure Settings :=
  Settings.load surroundings.files (options.config.getD Settings.standardPath)
    options.config.isNone

/-- What happens in the course of a submit command: nothing before its arguments and settings are
read. -/
def history (scheduler : Scheduler τ) (queue : τ) (scriptName : String) (options : SubmitOptions)
    (surroundings : Surroundings) : List Event :=
  match Arguments.ofValue options.toValue, settingsFor options.config surroundings with
  | .ok arguments, .ok settings =>
      (submission scheduler queue scriptName arguments settings options.dryRun surroundings).events
  | _, _ => []

/-- What comes of the dispatch that a submission leads to when its file is there. -/
def dispatching (scheduler : Scheduler τ) (queue : τ) (arguments : Arguments) (settings : Settings)
    (dryRun : Bool) (surroundings : Surroundings) :
    Outcome (Session (Batch.Site τ)) Dispatch.Account :=
  Dispatch.dispatch (Batch.submitter scheduler settings dryRun)
    (Experiment.ofArguments arguments).toValue arguments.tools
    { operator := ⟨Text.lines surroundings.input, .closed⟩
      backend := ⟨surroundings.files, [], queue⟩ }

/-- A command that did nothing: the files are as they were, no command was started and nothing
was written to the output. It would have ended alike with any other scheduler. -/
structure Idle (scriptName : String) (options : SubmitOptions) (surroundings : Surroundings)
    (finished : Finished) (events : List Event) : Prop where
  files : finished.files = surroundings.files
  runs : events.filterMap Event.run? = []
  output : finished.output = ""
  unscheduled : ∀ (other : Type) (scheduler : Scheduler other) (queue : other),
    submit scheduler queue scriptName options surroundings = finished

/-- The end of a command by the first of its stages that ends it: the arguments are not
acceptable, the settings cannot be read, the file is missing, or the dispatch ends in one way or
the other, behind an output of the experiment and then the questions. -/
def Ends (scheduler : Scheduler τ) (queue : τ) (scriptName : String) (options : SubmitOptions)
    (surroundings : Surroundings) (finished : Finished) (events : List Event) : Prop :=
  match Arguments.ofValue options.toValue with
  | .error _ => finished.exitCode = 2 ∧ Idle scriptName options surroundings finished events
  | .ok arguments =>
      match loaded options surroundings with
      | .error _ => finished.exitCode = 3 ∧ Idle scriptName options surroundings finished events
      | .ok settings =>
          match surroundings.files.isThere arguments.fileName with
          | false => finished.exitCode = 1 ∧ Idle scriptName options surroundings finished events
          | true =>
              (match (dispatching scheduler queue arguments
                  (settings.overridden surroundings.environment) options.dryRun
                  surroundings).result with
                | .ok _ => finished.exitCode = 0
                | .error _ => finished.exitCode = 4) ∧
              finished.output =
                String.join ((Experiment.ofArguments arguments).summary.map (· ++ "\n")) ++
                  String.join ((asksIn events).map Prod.fst)

/-! ## A submission -/

section Submission

variable (scheduler : Scheduler τ) (queue : τ) (scriptName : String) {arguments : Arguments}
  (settings : Settings) (dryRun : Bool) {surroundings : Surroundings}

theorem submission_of_missing
    (isMissing : surroundings.files.isThere arguments.fileName = false) :
    submission scheduler queue scriptName arguments settings dryRun surroundings =
      ⟨.ok
          { exitCode := 1
            warnings := Validation.formatAdvice arguments },
        Pipeline.aborting arguments,
        { operator := ⟨Text.lines surroundings.input, .closed⟩
          backend := ⟨surroundings.files, [], queue⟩ }⟩ := by
  unfold submission
  apply Pipeline.run_of_missing
  exact congrArg Except.ok isMissing

theorem submission_of_present
    (isThere : surroundings.files.isThere arguments.fileName = true) :
    submission scheduler queue scriptName arguments settings dryRun surroundings =
      (Pipeline.concluded scriptName arguments
        (dispatching scheduler queue arguments settings dryRun surroundings)).behind
        (Pipeline.opening arguments) := by
  unfold submission dispatching
  apply Pipeline.run_of_present
  exact congrArg Except.ok isThere

theorem dispatching_unprinted :
    ∀ event ∈ (dispatching scheduler queue arguments settings dryRun surroundings).events,
      event.IsUnprinted := by
  refine Dispatch.dispatch_leaves ?_ (fun _ _ => trivial) (fun _ => trivial) (fun _ => trivial) _ _
  intro target
  exact Batch.submit_leaves scheduler settings dryRun _ target (fun _ _ => trivial)
    fun _ => trivial

theorem dispatching_exitCode {failure : Failure}
    (failed : (dispatching scheduler queue arguments settings dryRun surroundings).result =
      .error failure) : failure.exitCode = 4 :=
  Dispatch.dispatch_failsWith (Batch.submit_failsWith scheduler settings dryRun _) _ _ failure
    failed

theorem submission_of_completed {account : Dispatch.Account}
    (isThere : surroundings.files.isThere arguments.fileName = true)
    (completed : (dispatching scheduler queue arguments settings dryRun surroundings).result =
      .ok account) :
    ∃ result, (submission scheduler queue scriptName arguments settings dryRun
      surroundings).result = .ok result ∧ result.exitCode = 0 := by
  rw [submission_of_present scheduler queue scriptName settings dryRun isThere]
  simp only [Pipeline.concluded, completed, Outcome.behind, Except.ok.injEq, exists_eq_left']
  rfl

theorem submission_of_failed {failure : Failure}
    (isThere : surroundings.files.isThere arguments.fileName = true)
    (failed : (dispatching scheduler queue arguments settings dryRun surroundings).result =
      .error failure) :
    (submission scheduler queue scriptName arguments settings dryRun surroundings).result =
      .error failure := by
  rw [submission_of_present scheduler queue scriptName settings dryRun isThere]
  simp only [Pipeline.concluded, failed, Outcome.behind]

/-- A submission that gives a result was completed or found no file, and one that fails has failed
in its dispatch. -/
theorem submission_exitCodes :
    match (submission scheduler queue scriptName arguments settings dryRun surroundings).result with
      | .ok result => result.exitCode ≤ 1
      | .error failure => failure.exitCode = 4 := by
  cases isThere : surroundings.files.isThere arguments.fileName with
  | false =>
      have isMissing := submission_of_missing scheduler queue scriptName settings dryRun isThere
      generalize submission scheduler queue scriptName arguments settings dryRun surroundings =
        outcome at isMissing ⊢
      subst isMissing
      exact Nat.le_refl 1
  | true =>
      cases ended : (dispatching scheduler queue arguments settings dryRun surroundings).result with
      | ok account =>
          obtain ⟨result, isResult, code⟩ :=
            submission_of_completed scheduler queue scriptName settings dryRun isThere ended
          rw [isResult]
          omega
      | error failure =>
          rw [submission_of_failed scheduler queue scriptName settings dryRun isThere ended]
          exact dispatching_exitCode scheduler queue settings dryRun ended

/-- A submission whose file is there writes the experiment and the questions. -/
theorem submission_output (isThere : surroundings.files.isThere arguments.fileName = true) :
    outputOf (submission scheduler queue scriptName arguments settings dryRun surroundings).events =
      String.join ((Experiment.ofArguments arguments).summary.map (· ++ "\n")) ++
        String.join ((asksIn (submission scheduler queue scriptName arguments settings dryRun
          surroundings).events).map Prod.fst) := by
  have unprinted := @dispatching_unprinted τ scheduler queue arguments settings dryRun surroundings
  rw [submission_of_present scheduler queue scriptName settings dryRun isThere]
  change outputOf (Pipeline.opening arguments ++ _) =
    _ ++ String.join ((asksIn (Pipeline.opening arguments ++ _)).map Prod.fst)
  rw [outputOf_append, Pipeline.outputOf_opening, asksIn_append, Pipeline.asksIn_opening,
    List.nil_append]
  congr 1
  apply outputOf_unprinted
  unfold Pipeline.concluded
  split
  · exact unprinted
  · refine List.forall_mem_append.mpr ⟨unprinted, ?_⟩
    exact List.forall_mem_singleton.mpr trivial

end Submission

/-! ## The end -/

section Ending

variable (scheduler : Scheduler τ) (queue : τ) (scriptName : String) {options : SubmitOptions}
  {surroundings : Surroundings}

theorem settingsFor_of_error {failure : Failure}
    (failed : loaded options surroundings = .error failure) :
    settingsFor options.config surroundings = .error failure := by
  unfold settingsFor
  rw [← loaded, failed]

theorem settingsFor_of_ok {settings : Settings}
    (isLoaded : loaded options surroundings = .ok settings) :
    settingsFor options.config surroundings =
      .ok (settings.overridden surroundings.environment) := by
  unfold settingsFor
  rw [← loaded, isLoaded]

theorem submit_of_misused {failure : Failure}
    (refused : Arguments.ofValue options.toValue = .error failure) :
    submit scheduler queue scriptName options surroundings =
      .stopped failure surroundings.files := by
  simp only [submit, refused]

theorem submit_of_unconfigured {arguments : Arguments} {failure : Failure}
    (isRead : Arguments.ofValue options.toValue = .ok arguments)
    (failed : loaded options surroundings = .error failure) :
    submit scheduler queue scriptName options surroundings =
      .stopped failure surroundings.files := by
  simp only [submit, isRead, settingsFor_of_error failed]

theorem submit_of_read {arguments : Arguments} {settings : Settings}
    (isRead : Arguments.ofValue options.toValue = .ok arguments)
    (isLoaded : loaded options surroundings = .ok settings) :
    submit scheduler queue scriptName options surroundings =
      .ofOutcome (submission scheduler queue scriptName arguments
        (settings.overridden surroundings.environment) options.dryRun surroundings) := by
  simp only [submit, isRead, settingsFor_of_ok isLoaded]

theorem history_of_misused {failure : Failure}
    (refused : Arguments.ofValue options.toValue = .error failure) :
    history scheduler queue scriptName options surroundings = [] := by
  simp only [history, refused]

theorem history_of_unconfigured {arguments : Arguments} {failure : Failure}
    (isRead : Arguments.ofValue options.toValue = .ok arguments)
    (failed : loaded options surroundings = .error failure) :
    history scheduler queue scriptName options surroundings = [] := by
  simp only [history, isRead, settingsFor_of_error failed]

theorem history_of_read {arguments : Arguments} {settings : Settings}
    (isRead : Arguments.ofValue options.toValue = .ok arguments)
    (isLoaded : loaded options surroundings = .ok settings) :
    history scheduler queue scriptName options surroundings =
      (submission scheduler queue scriptName arguments
        (settings.overridden surroundings.environment) options.dryRun surroundings).events := by
  simp only [history, isRead, settingsFor_of_ok isLoaded]

/-- A command that is stopped before its run does nothing, and has the exit code of its failure. -/
theorem idle_of_stopped {failure : Failure}
    (stopped : ∀ (other : Type) (scheduler : Scheduler other) (queue : other),
      submit scheduler queue scriptName options surroundings =
        .stopped failure surroundings.files) :
    Idle scriptName options surroundings (.stopped failure surroundings.files) [] where
  files := rfl
  runs := rfl
  output := rfl
  unscheduled := stopped

theorem idle_of_missing {arguments : Arguments} {settings : Settings}
    (isRead : Arguments.ofValue options.toValue = .ok arguments)
    (isLoaded : loaded options surroundings = .ok settings)
    (isMissing : surroundings.files.isThere arguments.fileName = false) :
    (submit scheduler queue scriptName options surroundings).exitCode = 1 ∧
      Idle scriptName options surroundings
        (submit scheduler queue scriptName options surroundings)
        (history scheduler queue scriptName options surroundings) := by
  have ended : ∀ (other : Type) (scheduler : Scheduler other) (queue : other),
      submit scheduler queue scriptName options surroundings =
        { exitCode := 1
          output := outputOf (Pipeline.aborting arguments)
          logged := errorOutputOf (Pipeline.aborting arguments)
          failure := none
          files := surroundings.files } := by
    intro other scheduler queue
    rw [submit_of_read scheduler queue scriptName isRead isLoaded,
      submission_of_missing scheduler queue scriptName _ _ isMissing]
    rfl
  rw [ended τ scheduler queue, history_of_read scheduler queue scriptName isRead isLoaded,
    submission_of_missing scheduler queue scriptName _ _ isMissing]
  refine ⟨rfl, rfl, ?_, ?_, ended⟩
  · exact Pipeline.no_runs_in_aborting arguments
  · exact Pipeline.outputOf_aborting arguments

theorem exitCode_of_present {arguments : Arguments} {settings : Settings}
    (isRead : Arguments.ofValue options.toValue = .ok arguments)
    (isLoaded : loaded options surroundings = .ok settings)
    (isThere : surroundings.files.isThere arguments.fileName = true) :
    match (dispatching scheduler queue arguments
        (settings.overridden surroundings.environment) options.dryRun surroundings).result with
      | .ok _ => (submit scheduler queue scriptName options surroundings).exitCode = 0
      | .error _ => (submit scheduler queue scriptName options surroundings).exitCode = 4 := by
  rw [submit_of_read scheduler queue scriptName isRead isLoaded]
  split
  next account completed =>
    obtain ⟨result, isResult, code⟩ :=
      submission_of_completed scheduler queue scriptName _ _ isThere completed
    simp only [Finished.ofOutcome, isResult, code]
  next failure failed =>
    have isResult := submission_of_failed scheduler queue scriptName _ _ isThere failed
    have code := dispatching_exitCode scheduler queue _ _ failed
    simp only [Finished.ofOutcome, isResult, code]

end Ending

/-- What is told of a command: its output is that of what happened in its course, its error output
is the log of that, and behind the log stands the failure, if it ended by one. That is so for every
exit code above 1; a missing file is told of in the log. -/
structure Told (finished : Finished) (events : List Event) : Prop where
  output : finished.output = outputOf events
  errorOutput : finished.errorOutput =
    errorOutputOf events ++ (finished.failure.map Finished.failureLine).getD ""
  failure : finished.failure.isSome ↔ 1 < finished.exitCode

theorem told_of_stopped {failure : Failure} (files : FileTree) (isLate : 1 < failure.exitCode) :
    Told (.stopped failure files) [] where
  output := rfl
  errorOutput := rfl
  failure := by
    constructor
    · intro _
      exact isLate
    · intro _
      rfl

theorem told_of_submission (scheduler : Scheduler τ) (queue : τ) (scriptName : String)
    (arguments : Arguments) (settings : Settings) (dryRun : Bool) (surroundings : Surroundings) :
    Told
      (.ofOutcome (submission scheduler queue scriptName arguments settings dryRun surroundings))
      (submission scheduler queue scriptName arguments settings dryRun surroundings).events := by
  have codes := @submission_exitCodes τ scheduler queue scriptName arguments settings dryRun
    surroundings
  generalize submission scheduler queue scriptName arguments settings dryRun surroundings =
    outcome at codes
  obtain ⟨ended, events, session⟩ := outcome
  cases ended with
  | error failure =>
      have isLate : failure.exitCode = 4 := codes
      refine ⟨rfl, rfl, fun _ => ?_, fun _ => rfl⟩
      change 1 < failure.exitCode
      omega
  | ok result =>
      have isEarly : result.exitCode ≤ 1 := codes
      refine ⟨rfl, String.append_empty.symm, ?_, ?_⟩
      · intro isSome
        cases isSome
      · intro isLate
        have contrary : 1 < result.exitCode := isLate
        omega

/-- **Exit codes and effects of the submit command.** Whatever the options, the input, the
environment, the files and the scheduler are, the command ends by the first of its stages that
ends it, with the exit code of that stage. -/
theorem submit_ends (scheduler : Scheduler τ) (queue : τ) (scriptName : String)
    (options : SubmitOptions) (surroundings : Surroundings) :
    Ends scheduler queue scriptName options surroundings
        (submit scheduler queue scriptName options surroundings)
        (history scheduler queue scriptName options surroundings) ∧
      Told (submit scheduler queue scriptName options surroundings)
        (history scheduler queue scriptName options surroundings) := by
  unfold Ends
  cases isRead : Arguments.ofValue options.toValue with
  | error failure =>
      have isUsage := options.ofValue_exitCode isRead
      rw [submit_of_misused scheduler queue scriptName isRead,
        history_of_misused scheduler queue scriptName isRead]
      refine ⟨⟨isUsage, ?_⟩, told_of_stopped _ (by omega)⟩
      exact idle_of_stopped scriptName fun _ scheduler queue =>
        submit_of_misused scheduler queue scriptName isRead
  | ok arguments =>
      cases isLoaded : loaded options surroundings with
      | error failure =>
          have isConfiguration : failure.exitCode = 3 := (Settings.ofReading_fails isLoaded).exitCode
          rw [submit_of_unconfigured scheduler queue scriptName isRead isLoaded,
            history_of_unconfigured scheduler queue scriptName isRead isLoaded]
          refine ⟨⟨isConfiguration, ?_⟩, told_of_stopped _ (by omega)⟩
          exact idle_of_stopped scriptName fun _ scheduler queue =>
            submit_of_unconfigured scheduler queue scriptName isRead isLoaded
      | ok settings =>
          have told : Told (submit scheduler queue scriptName options surroundings)
              (history scheduler queue scriptName options surroundings) := by
            rw [submit_of_read scheduler queue scriptName isRead isLoaded,
              history_of_read scheduler queue scriptName isRead isLoaded]
            apply told_of_submission
          refine ⟨?_, told⟩
          dsimp only
          cases isThere : surroundings.files.isThere arguments.fileName with
          | false => exact idle_of_missing scheduler queue scriptName isRead isLoaded isThere
          | true =>
              have output := submission_output scheduler queue scriptName
                (settings.overridden surroundings.environment) options.dryRun isThere
              rw [← history_of_read scheduler queue scriptName isRead isLoaded] at output
              refine ⟨?_, told.output.trans output⟩
              exact exitCode_of_present scheduler queue scriptName isRead isLoaded isThere

end CommandLine

end PartitionBench
