import PartitionBench.Proofs.Batch.Calls
import PartitionBench.Proofs.Experiment

/-!
Contract: a refused descriptor has no effect at all.

Owns:
- the calls that are admitted: those whose descriptor describes an experiment;
- that a call which is not admitted fails as a submission and does nothing;
- that a sequence of calls goes the same without the calls that are not admitted.

Does not own: what an admitted call does (`Proofs.Batch.Scripts`).
-/

namespace PartitionBench.Batch

open PartitionBench.Document

variable {τ : Type}

/-- A call is admitted when its descriptor is accepted. -/
def isAdmitted (call : Submitter.Call) : Bool :=
  (Experiment.check call.descriptor).accepted.isOk

theorem isAdmitted_iff (call : Submitter.Call) :
    isAdmitted call = true ↔ ∃ experiment, Experiment.Describes call.descriptor experiment := by
  simp only [← Experiment.check_accepts_iff, ← Checked.accepted_eq_ok_iff, isAdmitted]
  cases (Experiment.check call.descriptor).accepted <;> simp [Except.isOk, Except.toBool]

/-- The failure of a call that is refused for some issues. -/
def refusal (issues : List Issue) : Failure :=
  .submission ("Refusing to submit invalid experiment: " ++ Issue.summary issues)

/-- A call that is not admitted reports the issues of its descriptor and does nothing. -/
theorem call_of_refused (scheduler : Scheduler τ) (settings : Settings) (dryRun : Bool)
    {call : Submitter.Call} (refused : isAdmitted call = false) :
    ∃ issues, (Experiment.check call.descriptor).accepted = .error issues ∧
      ∀ site, (submitter scheduler settings dryRun).call call site =
        ⟨.error (refusal issues), [], site⟩ := by
  unfold isAdmitted at refused
  cases read : (Experiment.check call.descriptor).accepted with
  | ok experiment =>
      rw [read] at refused
      cases refused
  | error issues =>
      have isRefused : accepted call.descriptor = .error (refusal issues) := by
        rw [accepted, read]
        rfl
      exact ⟨issues, rfl, fun site =>
        submit_of_refused scheduler settings dryRun call.target site isRefused⟩

/-! ## Sequences of calls -/

section Sequences

variable (scheduler : Scheduler τ) (settings : Settings) (dryRun : Bool)

/-- What comes of the admitted calls in a sequence of calls. -/
def admittedOutcomes (site : Site τ) (calls : List Submitter.Call) :
    List (Outcome (Site τ) (List SubmittedJob)) :=
  ((calls.zip ((submitter scheduler settings dryRun).outcomes site calls)).filter
    fun entry => isAdmitted entry.1).map Prod.snd

theorem admittedOutcomes_eq (site : Site τ) (calls : List Submitter.Call) :
    admittedOutcomes scheduler settings dryRun site calls =
      (submitter scheduler settings dryRun).outcomes site (calls.filter isAdmitted) := by
  induction calls generalizing site with
  | nil => rfl
  | cons call rest inductionHypothesis =>
      have later := inductionHypothesis ((submitter scheduler settings dryRun).call call site).state
      rw [admittedOutcomes] at later
      rw [admittedOutcomes, Submitter.outcomes_cons, List.zip_cons_cons, List.filter_cons,
        List.filter_cons]
      cases admitted : isAdmitted call with
      | true =>
          simp only [if_true, List.map_cons, Submitter.outcomes_cons, later]
      | false =>
          -- The rest begins at the site at which the refused call began.
          obtain ⟨issues, _, nothing⟩ := call_of_refused scheduler settings dryRun admitted
          rw [nothing site] at later ⊢
          simpa using later

theorem after_filter (site : Site τ) (calls : List Submitter.Call) :
    (submitter scheduler settings dryRun).after site (calls.filter isAdmitted) =
      (submitter scheduler settings dryRun).after site calls := by
  induction calls generalizing site with
  | nil => rfl
  | cons call rest inductionHypothesis =>
      rw [List.filter_cons, Submitter.after_cons]
      cases admitted : isAdmitted call with
      | true => rw [if_pos rfl, Submitter.after_cons, inductionHypothesis]
      | false =>
          obtain ⟨issues, _, nothing⟩ := call_of_refused scheduler settings dryRun admitted
          rw [nothing site, if_neg Bool.false_ne_true, inductionHypothesis]

end Sequences

/-- **A refused descriptor has no effect at all.** The calls that are not admitted are those
whose descriptor describes no experiment. Whenever such a call is made, it fails as a submission
with the issues of its descriptor, shows nothing, and leaves the files, the names taken and the
queue as they were. Taken out of a sequence of calls, these calls change neither what comes of
any other call nor what is left behind in the end. -/
theorem refused_calls_vanish (scheduler : Scheduler τ) (settings : Settings) (dryRun : Bool)
    (site : Site τ) (calls : List Submitter.Call) :
    (∀ call, isAdmitted call = false ↔
      ¬ ∃ experiment, Experiment.Describes call.descriptor experiment) ∧
    (∀ call, isAdmitted call = false →
      ∃ issues, (Experiment.check call.descriptor).accepted = .error issues ∧
        ∀ reached, (submitter scheduler settings dryRun).call call reached =
          ⟨.error (refusal issues), [], reached⟩) ∧
    admittedOutcomes scheduler settings dryRun site calls =
      (submitter scheduler settings dryRun).outcomes site (calls.filter isAdmitted) ∧
    (submitter scheduler settings dryRun).after site calls =
      (submitter scheduler settings dryRun).after site (calls.filter isAdmitted) := by
  refine ⟨?_, ?_, admittedOutcomes_eq scheduler settings dryRun site calls,
    (after_filter scheduler settings dryRun site calls).symm⟩
  · intro call
    rw [← isAdmitted_iff, Bool.not_eq_true]
  · intro call refused
    exact call_of_refused scheduler settings dryRun refused

/-- A call without a descriptor and one with a path too few, around a call that is admitted. -/
theorem refused_calls_vanish_around_admitted :
    let submit := submitter Scheduler.scripted Settings.standard false
    let site : Site Scheduler.Script := ⟨⟨[], []⟩, [], ⟨[.error (.error "queue is down")], 0⟩⟩
    let absent : Submitter.Call := ⟨.null, .allCompetitors⟩
    let short : Submitter.Call :=
      ⟨(Experiment.mk 2 2 0 (-1) [4, 16] 2 ["a"] ["a", "a"]).toValue, .tool "metis"⟩
    let whole : Submitter.Call :=
      ⟨(Experiment.mk 2 2 0 (-1) [4, 16] 2 ["a", "a"] ["a", "a"]).toValue, .tool "metis"⟩
    (∃ issues, (Experiment.check short.descriptor).accepted = .error issues ∧
      ∀ reached, submit.call short reached = ⟨.error (refusal issues), [], reached⟩) ∧
    submit.after site [absent, whole, short] = submit.after site [whole] := by
  intro submit site absent short whole
  obtain ⟨_, refused, _, sameSite⟩ := refused_calls_vanish Scheduler.scripted Settings.standard
    false site [absent, whole, short]
  exact ⟨refused short rfl, sameSite⟩

end PartitionBench.Batch
