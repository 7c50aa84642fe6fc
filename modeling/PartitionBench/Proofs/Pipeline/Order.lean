import PartitionBench.Proofs.Pipeline
import PartitionBench.Proofs.Validation

/-!
Contract: the order of a submission run.

Owns:
- what happens in a run, from the look-up of the file to the leave-taking, for each thing that the
  look-up can come to;
- that a failure of the look-up is passed on unless it is itself the report that a file is missing,
  and that such a report is answered instead;
- that the warnings of a run whose file is missing open those of a run whose file is there.

Does not own: what a dispatch does (`Proofs.Dispatch`).
-/

namespace PartitionBench.Pipeline

open Activity

variable {σ : Type}

/-- The warnings of a run without its file, and the one error in the log that ends it. -/
def missed (fileName : String) (warnings : List Warning) : List Event :=
  advising warnings ++ [.logged (.error ("file " ++ fileName ++ " does not exist.\nAborting..."))]

/-- What comes of a run, by what the look-up of its file comes to.
- The file is there: the warnings, the summary, the dispatch, and leave is taken if the dispatch
  completed; its failure is passed on otherwise.
- The file is missing: the warning on the format and an error, and the run ends with code 1.
- The look-up fails with the report that a file is missing: the report is not passed on. Its
  warnings and its message are logged, and the run ends with code 1.
- The look-up fails with any other failure: that is passed on, and nothing else happens. -/
def InOrder (submitter : Submitter σ) (lookUp : Session σ → String → Except Failure Bool)
    (scriptName : String) (arguments : Arguments) (session : Session σ)
    (outcome : Outcome (Session σ) Result) : Prop :=
  match lookUp session arguments.fileName with
  | .ok true =>
      let experiment := Experiment.ofArguments arguments
      let dispatched := Dispatch.dispatch submitter experiment.toValue arguments.tools session
      outcome.events =
          .lookedUp arguments.fileName ::
            (advising (Validation.warningsDue arguments) ++ showing experiment
              ++ dispatched.events
              ++ if dispatched.result.isOk then [farewell scriptName] else []) ∧
        outcome.result = dispatched.result.map (fun account =>
          { exitCode := 0
            warnings := Validation.warningsDue arguments
            experiment := experiment
            account := account }) ∧
        outcome.state = dispatched.state
  | .ok false =>
      outcome =
        ⟨.ok { exitCode := 1, warnings := Validation.disagreement arguments },
          .lookedUp arguments.fileName ::
            missed arguments.fileName (Validation.disagreement arguments), session⟩
  | .error (.missingInput fileName warnings) =>
      outcome =
        ⟨.ok { exitCode := 1, warnings },
          .lookedUp arguments.fileName :: missed fileName warnings, session⟩
  | .error failure => outcome = ⟨.error failure, [.lookedUp arguments.fileName], session⟩

theorem abortion_eq (fileName : String) (warnings : List Warning) :
    abortion (.missingInput fileName warnings) =
      "file " ++ fileName ++ " does not exist.\nAborting..." :=
  String.append_assoc

section Concluded

variable (scriptName : String) (arguments : Arguments)
  (dispatched : Outcome (Session σ) Dispatch.Account)

/-- Leave is taken when the dispatch has completed, and only then. -/
theorem concluded_events :
    (concluded scriptName arguments dispatched).events =
      dispatched.events ++ if dispatched.result.isOk then [farewell scriptName] else [] := by
  unfold concluded
  cases dispatched.result with
  | error failure => exact (List.append_nil _).symm
  | ok account => rfl

theorem concluded_result :
    (concluded scriptName arguments dispatched).result =
      dispatched.result.map (fun account =>
        { exitCode := 0
          warnings := Validation.advice arguments
          experiment := Experiment.ofArguments arguments
          account := account }) := by
  unfold concluded
  cases dispatched.result with
  | error failure => rfl
  | ok account => rfl

theorem concluded_state :
    (concluded scriptName arguments dispatched).state = dispatched.state := by
  unfold concluded
  cases dispatched.result with
  | error failure => rfl
  | ok account => rfl

end Concluded

/-- **The order of a run.** Whatever the arguments, the look-up, the answers and the submitter
are, a run does its parts in order and none of them twice. -/
theorem run_in_order (submitter : Submitter σ)
    (lookUp : Session σ → String → Except Failure Bool) (scriptName : String)
    (arguments : Arguments) (session : Session σ) :
    InOrder submitter lookUp scriptName arguments session
        (run submitter lookUp scriptName arguments session) ∧
      IsExtension arguments.fileName (fileExtension arguments.fileName) ∧
      Validation.disagreement arguments <+: Validation.warningsDue arguments := by
  refine ⟨?_, fileExtension_isExtension _, Validation.disagreement_opens arguments⟩
  unfold InOrder
  split
  next isThere =>
    intro experiment dispatched
    rw [run_of_present submitter scriptName arguments session isThere, ← Validation.advice_eq]
    refine ⟨?_, concluded_result scriptName arguments dispatched,
      concluded_state scriptName arguments dispatched⟩
    rw [Outcome.behind, concluded_events, List.append_assoc]
    rfl
  next isMissing =>
    rw [run_of_missing submitter scriptName arguments session isMissing,
      ← Validation.formatAdvice_eq, missed, ← abortion_eq _ []]
    rfl
  next fileName warnings isReported =>
    rw [run_of_reported submitter scriptName arguments session isReported, abortion_eq]
    rfl
  next failure isOther failed =>
    exact run_of_failed submitter scriptName arguments session failed isOther

/-- A missing file is answered in the log, in an entry of two lines. A look-up that fails with a
report of its own on another file is answered in the same way: the run completes, and the report
is not passed on. -/
theorem report_of_look_up_is_answered :
    let arguments : Arguments := ⟨["metis"], "g.graph", [16], 1, 2⟩
    let report : Failure := .missingInput "b.graph" [.dimension 0]
    let runWith (found : Except Failure Bool) : Outcome (Session Unit) Result :=
      run (Submitter.idle Unit) (fun _ _ => found) "partsubmit" arguments ⟨⟨[], .closed⟩, ()⟩
    (runWith (.ok false)).events =
        [.lookedUp "g.graph", .logged (.error "file g.graph does not exist.\nAborting...")] ∧
      (runWith (.error report)).result = .ok { exitCode := 1, warnings := [.dimension 0] } ∧
      (runWith (.error report)).events =
        [.lookedUp "g.graph", .logged (.warning "wrong value for dimension: 0"),
          .logged (.error "file b.graph does not exist.\nAborting...")] :=
  ⟨rfl, rfl, rfl⟩

end PartitionBench.Pipeline
