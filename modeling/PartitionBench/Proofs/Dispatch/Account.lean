import PartitionBench.Proofs.Batch.Watch
import PartitionBench.Proofs.Consent.Answers
import PartitionBench.Proofs.Dispatch.Consent
import PartitionBench.Proofs.Dispatch.Reach
import PartitionBench.Proofs.Pipeline

/-!
Contract: what the account of a dispatch that succeeded says.

Owns:
- how answers decide on targets one after another;
- that the account splits the targets by what was decided, and that its jobs are those which the
  calls of the submitter gave, one after another.

Does not own: when a request may be made (`Proofs.Dispatch.Consent`), and what the calls of the
batch submitter give (`Proofs.Batch.Accounting`).
-/

namespace PartitionBench.Dispatch

open PartitionBench.Document Activity

variable {σ α β : Type}

/-! ## Decisions -/

/-- The items on which it was decided in the given way, in their order. -/
def kept (way : Bool) : List α → List Bool → List α
  | item :: items, verdict :: verdicts =>
      if verdict = way then item :: kept way items verdicts else kept way items verdicts
  | _, _ => []

theorem kept_cons (way : Bool) (item : α) (items : List α) (verdict : Bool)
    (verdicts : List Bool) :
    kept way (item :: items) (verdict :: verdicts) =
      kept way [item] [verdict] ++ kept way items verdicts := by
  by_cases isWay : verdict = way
  · simp [kept, isWay]
  · simp [kept, isWay]

theorem kept_map (way : Bool) (f : α → β) (items : List α) (verdicts : List Bool) :
    kept way (items.map f) verdicts = (kept way items verdicts).map f := by
  induction items generalizing verdicts with
  | nil => cases verdicts <;> rfl
  | cons item items inductionHypothesis =>
      cases verdicts with
      | nil => rfl
      | cons verdict verdicts =>
          by_cases isWay : verdict = way
          · simp [kept, isWay, inductionHypothesis]
          · simp [kept, isWay, inductionHypothesis]

/-- Answers decide on one thing after another. On each it is the first clear answer that decides,
behind any number of others. -/
inductive Decides : List String → List Bool → List String → Prop
  | done (answers : List String) : Decides answers [] answers
  | next {unclear answers rest : List String} {answer : String} {verdicts : List Bool}
      (noneClear : ∀ other ∈ unclear, other ∉ Consent.clearAnswers)
      (isClear : answer ∈ Consent.clearAnswers) (later : Decides answers verdicts rest) :
      Decides (unclear ++ answer :: answers) (decide (answer = "Y" ∨ answer = "y") :: verdicts)
        rest

theorem Decides.before {answers middle rest : List String} {verdict : Bool} {verdicts : List Bool}
    (first : Decides answers [verdict] middle) (later : Decides middle verdicts rest) :
    Decides answers (verdict :: verdicts) rest := by
  cases first with
  | next noneClear isClear nothing =>
      cases nothing
      exact Decides.next noneClear isClear later

theorem Decides.behind {answers rest : List String} {verdict : Bool} {verdicts : List Bool}
    {unclear : String} (notClear : unclear ∉ Consent.clearAnswers)
    (decides : Decides answers (verdict :: verdicts) rest) :
    Decides (unclear :: answers) (verdict :: verdicts) rest := by
  cases decides with
  | next noneClear isClear later =>
      exact Decides.next (List.forall_mem_cons.mpr ⟨notClear, noneClear⟩) isClear later

theorem confirmFrom_decides {ending : Consent.Ending} {asking : String} {answers : List String}
    {verdict : Bool}
    (succeeded : (Consent.confirmFrom ending asking answers).result = .ok verdict) :
    Decides answers [verdict] (Consent.confirmFrom ending asking answers).state.answers := by
  induction answers generalizing asking with
  | nil => cases succeeded
  | cons answer answers inductionHypothesis =>
      by_cases isClear : answer ∈ Consent.clearAnswers
      · simp only [Consent.confirmFrom, Consent.verdict?_of_clear isClear] at succeeded ⊢
        cases succeeded
        exact @Decides.next [] _ _ _ _ (List.forall_mem_nil _) isClear (Decides.done answers)
      · simp only [Consent.confirmFrom, Consent.verdict?_of_unclear isClear] at succeeded ⊢
        exact (inductionHypothesis succeeded).behind isClear

/-! ## What a dispatch settles -/

/-- Targets are settled one after another, from one session to another. The account has the labels
of those that were agreed to and of those that were not. For each of the former the submitter was
called, in their order, every call succeeded, and the jobs of the account are what the calls gave.
No command was run but by these calls. -/
structure Settles (submitter : Submitter σ) (descriptor : Value) (first : Session σ)
    (targets : List Target) (verdicts : List Bool) (given : List (List SubmittedJob))
    (account : Account) (events : List Event) (last : Session σ) : Prop where
  decided : verdicts.length = targets.length
  answers : Decides first.operator.answers verdicts last.operator.answers
  submitted : account.submitted = (kept true targets verdicts).map Job.label
  skipped : account.skipped = (kept false targets verdicts).map Job.label
  results :
    (submitter.outcomes first.backend (callsFor descriptor (kept true targets verdicts))).map
      Outcome.result = given.map .ok
  jobs : account.jobs = given.flatten
  backend : last.backend =
    submitter.after first.backend (callsFor descriptor (kept true targets verdicts))
  runs : events.filterMap Event.run? =
    ((submitter.outcomes first.backend (callsFor descriptor (kept true targets verdicts))).flatMap
      Outcome.events).filterMap Event.run?

section Settles

variable {submitter : Submitter σ} {descriptor : Value} {first middle last : Session σ}
  {targets : List Target} {verdicts : List Bool} {given : List (List SubmittedJob)}
  {account : Account} {events : List Event}

/-- One target settled, and then others from where that leads. -/
theorem Settles.before {target : Target} {verdict : Bool} {more : List (List SubmittedJob)}
    {later : Account} {laterEvents : List Event}
    (byFirst : Settles submitter descriptor first [target] [verdict] given account events middle)
    (byOthers : Settles submitter descriptor middle targets verdicts more later laterEvents last) :
    Settles submitter descriptor first (target :: targets) (verdict :: verdicts) (given ++ more)
      (account.before later) (events ++ laterEvents) last := by
  have calls : callsFor descriptor (kept true (target :: targets) (verdict :: verdicts)) =
      callsFor descriptor (kept true [target] [verdict]) ++
        callsFor descriptor (kept true targets verdicts) := by
    rw [kept_cons, callsFor, List.map_append]
    rfl
  have outcomes := Submitter.outcomes_append submitter first.backend
    (callsFor descriptor (kept true [target] [verdict]))
    (callsFor descriptor (kept true targets verdicts))
  rw [← byFirst.backend, ← calls] at outcomes
  constructor
  case decided => rw [List.length_cons, List.length_cons, byOthers.decided]
  case answers => exact byFirst.answers.before byOthers.answers
  case submitted =>
    rw [kept_cons, List.map_append, ← byFirst.submitted, ← byOthers.submitted]
    rfl
  case skipped =>
    rw [kept_cons, List.map_append, ← byFirst.skipped, ← byOthers.skipped]
    rfl
  case results =>
    rw [outcomes, List.map_append, byFirst.results, byOthers.results, List.map_append]
  case jobs =>
    rw [List.flatten_append, ← byFirst.jobs, ← byOthers.jobs]
    rfl
  case backend => rw [calls, Submitter.after_append, ← byFirst.backend, byOthers.backend]
  case runs =>
    rw [outcomes, List.flatMap_append, List.filterMap_append, List.filterMap_append, byFirst.runs,
      byOthers.runs]

/-- Of the events nothing matters but the runs of commands among them. -/
theorem Settles.sameRuns {shown : List Event}
    (settles : Settles submitter descriptor first targets verdicts given account events last)
    (same : shown.filterMap Event.run? = events.filterMap Event.run?) :
    Settles submitter descriptor first targets verdicts given account shown last :=
  { settles with runs := same.trans settles.runs }

theorem Settles.behind {before : List Event}
    (noRuns : before.filterMap Event.run? = [])
    (settles : Settles submitter descriptor first targets verdicts given account events last) :
    Settles submitter descriptor first targets verdicts given account (before ++ events) last := by
  apply settles.sameRuns
  rw [List.filterMap_append, noRuns, List.nil_append]

end Settles

/-! ## A dispatch -/

section Dispatch

variable {submitter : Submitter σ} {descriptor : Value} {session : Session σ} {account : Account}

theorem no_runs_in_confirm (operator : Consent.Operator) (asking : String) :
    (Consent.confirm asking operator).events.filterMap Event.run? = [] := by
  have noneRuns : ∀ event ∈ (Consent.confirm asking operator).events, event.run? = none :=
    Consent.confirmFrom_leaves (fun _ _ => rfl) operator.ending asking operator.answers
  exact List.filterMap_eq_nil_iff.mpr noneRuns

theorem offer_settles {target : Target}
    (succeeded : (offer submitter descriptor target session).result = .ok account) :
    ∃ verdict given,
      Settles submitter descriptor session [target] [verdict] given account
        (offer submitter descriptor target session).events
        (offer submitter descriptor target session).state ∧
      account.allCompetitors = decide (target = .allCompetitors) := by
  unfold offer at succeeded ⊢
  obtain ⟨verdict, confirmed, goesOn, whole⟩ := bind_succeeds succeeded
  have decides := confirmFrom_decides confirmed
  have asked := no_runs_in_confirm session.operator (question target)
  rw [whole]
  cases verdict with
  | true =>
      rw [if_pos rfl] at goesOn ⊢
      obtain ⟨jobs, made, ends, rest⟩ := bind_succeeds goesOn
      cases ends
      have called : (submitter.submit descriptor target session.backend).result = .ok jobs := made
      rw [rest]
      refine ⟨true, [jobs], Settles.behind asked ?_, rfl⟩
      constructor
      case decided => rfl
      case answers => exact decides
      case submitted => rfl
      case skipped => rfl
      case results => exact congrArg (fun result => [result]) called
      case jobs => exact List.flatten_singleton.symm
      case backend => rfl
      case runs => rfl
  | false =>
      cases goesOn
      refine ⟨false, [], Settles.behind asked ?_, rfl⟩
      exact ⟨rfl, decides, rfl, rfl, rfl, rfl, rfl, rfl⟩

theorem offerTools_settles {tools : List String}
    (succeeded : (offerTools submitter descriptor tools session).result = .ok account) :
    ∃ verdicts given,
      Settles submitter descriptor session (tools.map .tool) verdicts given account
        (offerTools submitter descriptor tools session).events
        (offerTools submitter descriptor tools session).state ∧
      account.allCompetitors = false := by
  induction tools generalizing session account with
  | nil =>
      cases succeeded
      refine ⟨[], [], ?_, rfl⟩
      exact ⟨rfl, Decides.done _, rfl, rfl, rfl, rfl, rfl, rfl⟩
  | cons tool tools inductionHypothesis =>
      unfold offerTools at succeeded ⊢
      obtain ⟨first, offered, goesOn, whole⟩ := bind_succeeds succeeded
      obtain ⟨later, settled, ends, rest⟩ := bind_succeeds goesOn
      cases ends
      obtain ⟨verdict, given, byFirst, notAll⟩ := offer_settles offered
      obtain ⟨verdicts, more, byOthers, _⟩ := inductionHypothesis settled
      rw [whole, rest]
      refine ⟨verdict :: verdicts, given ++ more, ?_, notAll⟩
      have settles := byFirst.before byOthers
      simpa only [Outcome.behind, pure, done, List.append_nil, List.map_cons] using settles

theorem announceAll_eq (ignored : List String) (session : Session σ) :
    ∃ events, events.filterMap Event.run? = [] ∧
      announceAll ignored session = ⟨.ok (), events, session⟩ := by
  unfold announceAll
  by_cases someIgnored : ignored ≠ []
  · rw [if_pos someIgnored]
    exact ⟨_, rfl, rfl⟩
  · rw [if_neg someIgnored]
    exact ⟨_, rfl, rfl⟩

/-- A dispatch that succeeded has settled all its targets. -/
theorem dispatch_settles {tools : List String}
    (succeeded : (dispatch submitter descriptor tools session).result = .ok account) :
    ∃ verdicts given,
      Settles submitter descriptor session (targetsOf tools) verdicts given account
        (dispatch submitter descriptor tools session).events
        (dispatch submitter descriptor tools session).state ∧
      account.allCompetitors = decide (tools.head? = some allWord) := by
  unfold dispatch at succeeded ⊢
  unfold targetsOf
  by_cases isAll : tools.head? = some allWord
  · rw [if_pos isAll] at succeeded ⊢
    rw [if_pos isAll]
    obtain ⟨_, announced, offered, whole⟩ := bind_succeeds succeeded
    obtain ⟨events, noRuns, announces⟩ := announceAll_eq tools.tail session
    rw [whole]
    rw [announces] at offered ⊢
    obtain ⟨verdict, given, settles, isMarked⟩ := offer_settles offered
    refine ⟨[verdict], given, settles.behind noRuns, ?_⟩
    rw [isMarked, decide_eq_true rfl, decide_eq_true isAll]
  · rw [if_neg isAll] at succeeded ⊢
    rw [if_neg isAll]
    obtain ⟨verdicts, given, settles, notMarked⟩ := offerTools_settles succeeded
    refine ⟨verdicts, given, settles, ?_⟩
    rw [notMarked, decide_eq_false isAll]

end Dispatch

end PartitionBench.Dispatch
