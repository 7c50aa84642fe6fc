import PartitionBench.Batch
import PartitionBench.Dispatch

/-!
Contract: how a dispatch may fail, and which events it may leave.

Owns:
- what the failures of a step have in common, and how it follows from the parts of the step;
- that whatever fails in a dispatch counts as a failed submission;
- that a dispatch leaves nothing but questions, requests, entries of the log and what its
  submitter leaves.

Does not own: the order of these events (`Proofs.Dispatch.Course`).
-/

namespace PartitionBench

open PartitionBench.Document

namespace Activity

variable {σ τ α β : Type}

/-! ## Failures -/

/-- Whenever a step fails, its failure has a property. -/
def FailsWith (property : Failure → Prop) (step : Activity σ α) : Prop :=
  ∀ state failure, (step state).result = .error failure → property failure

section FailsWith

variable {property : Failure → Prop}

theorem failsWith_pure (value : α) : FailsWith property (pure value : Activity σ α) := by
  intro state failure failed
  cases failed

theorem failsWith_log (entry : Log.Entry) :
    FailsWith property (log entry : Activity σ Unit) := by
  intro state failure failed
  cases failed

theorem failsWith_ofResult {result : Except Failure α}
    (ofResult : ∀ failure, result = .error failure → property failure) :
    FailsWith property (Activity.ofResult result : Activity σ α) :=
  fun _ => ofResult

theorem failsWith_bind {first : Activity σ α} {second : α → Activity σ β}
    (ofFirst : FailsWith property first) (ofSecond : ∀ value, FailsWith property (second value)) :
    FailsWith property (first >>= second) := by
  intro state failure failed
  cases ended : (first state).result with
  | error early =>
      rw [bind_of_error ended] at failed
      have same : (Except.error early : Except Failure β) = .error failure := failed
      obtain rfl : early = failure := Except.error.inj same
      exact ofFirst state early ended
  | ok value =>
      rw [bind_of_ok ended] at failed
      exact ofSecond value _ failure failed

theorem failsWith_each {step : α → Activity σ β} (ofStep : ∀ item, FailsWith property (step item))
    (items : List α) : FailsWith property (each step items) := by
  induction items with
  | nil => exact failsWith_pure []
  | cons item rest inductionHypothesis =>
      refine failsWith_bind (ofStep item) fun value => ?_
      exact failsWith_bind inductionHypothesis fun values => failsWith_pure _

theorem failsWith_on {part : σ → τ} {replace : σ → τ → σ} {step : Activity τ α}
    (ofStep : FailsWith property step) : FailsWith property (on part replace step) :=
  fun state => ofStep (part state)

end FailsWith

theorem leaves_on {property : Event → Prop} {part : σ → τ} {replace : σ → τ → σ}
    {step : Activity τ α} (ofStep : Leaves property step) :
    Leaves property (on part replace step) :=
  fun state => ofStep (part state)

theorem leaves_leave {property : Event → Prop} {event : Event} (holds : property event) :
    Leaves property (leave event : Activity σ Unit) :=
  fun _ => List.forall_mem_singleton.mpr holds

end Activity

/-- A failure that counts as a failed submission. -/
def Failure.IsSubmission (failure : Failure) : Prop :=
  failure.exitCode = 4

open Activity

/-! ## The batch submitter -/

namespace Batch

variable {τ : Type}

theorem faultless_fails {α : Type} {result : Except Fault α} {failure : Failure}
    (failed : faultless result = .error failure) : failure.IsSubmission := by
  cases result with
  | ok value => cases failed
  | error fault =>
      cases failed
      change Failure.exitCode (if fault.kind = .unusable then _ else _) = 4
      split <;> rfl

theorem makeDirectories_failsWith (path : String) :
    (makeDirectories path : Activity (Site τ) Unit).FailsWith Failure.IsSubmission :=
  fun _ _ failed => faultless_fails failed

theorem writeFile_failsWith (path text : String) :
    (writeFile path text : Activity (Site τ) Unit).FailsWith Failure.IsSubmission := by
  intro site failure failed
  unfold writeFile change at failed
  dsimp only at failed
  cases written : faultless (site.files.write path text) with
  | ok files =>
      rw [written] at failed
      cases failed
  | error other =>
      rw [written] at failed
      cases failed
      exact faultless_fails written

theorem script_fails {settings : Settings} {job : Job} {failure : Failure}
    (failed : job.script settings = .error failure) : failure.IsSubmission := by
  unfold Job.script at failed
  split at failed
  · cases failed
  · cases failed
    rfl

theorem writeScript_failsWith (settings : Settings) (job : Job) :
    (writeScript settings job : Activity (Site τ) Unit).FailsWith Failure.IsSubmission := by
  unfold writeScript
  refine failsWith_bind (makeDirectories_failsWith _) fun made => ?_
  refine failsWith_bind (failsWith_ofResult fun failure => script_fails) fun text => ?_
  exact writeFile_failsWith job.scriptPath text

theorem commandFailure_fails (settings : Settings) (job : Job) (thrown : Scheduler.Thrown) :
    (commandFailure settings job thrown).IsSubmission := by
  unfold commandFailure
  split
  · rfl
  next failure noWords =>
    rcases Scheduler.Thrown.wordless noWords with ⟨_, rfl⟩ | ⟨_, rfl⟩ <;> rfl

theorem runCommand_failsWith (scheduler : Scheduler τ) (settings : Settings) (job : Job) :
    (runCommand scheduler settings job).FailsWith Failure.IsSubmission := by
  intro site failure failed
  unfold runCommand at failed
  dsimp only at failed
  cases ended : (scheduler.run site.files settings.submitCommand [job.scriptPath]
      site.queue).outcome with
  | ok output =>
      rw [ended] at failed
      cases failed
  | error thrown =>
      rw [ended] at failed
      cases failed
      exact commandFailure_fails settings job thrown

theorem announce_failsWith (settings : Settings) (job : Job) (identifier : Option String) :
    (announce settings job identifier : Activity (Site τ) Unit).FailsWith
      Failure.IsSubmission := by
  unfold announce
  dsimp only
  split
  · exact failsWith_bind (failsWith_log _) fun _ => failsWith_log _
  · exact failsWith_log _

theorem submitJob_failsWith (scheduler : Scheduler τ) (settings : Settings) (dryRun : Bool)
    (job : Job) :
    (submitJob scheduler settings dryRun job).FailsWith Failure.IsSubmission := by
  unfold submitJob
  refine failsWith_bind (writeScript_failsWith settings job) fun written => ?_
  cases dryRun with
  | true => exact failsWith_bind (failsWith_log _) fun _ => failsWith_pure _
  | false =>
      change (handOn scheduler settings job).FailsWith Failure.IsSubmission
      unfold handOn
      refine failsWith_bind (runCommand_failsWith scheduler settings job) fun output => ?_
      exact failsWith_bind (announce_failsWith settings job _) fun _ => failsWith_pure _

theorem accepted_fails {descriptor : Value} {failure : Failure}
    (refused : accepted descriptor = .error failure) : failure.IsSubmission := by
  unfold accepted at refused
  split at refused
  · cases refused
  · cases refused
    rfl

/-- Whatever makes a call fail, a refused descriptor, a fault of the files or the submit command,
counts as a failed submission. -/
theorem submit_failsWith (scheduler : Scheduler τ) (settings : Settings) (dryRun : Bool)
    (descriptor : Value) (target : Target) :
    (submit scheduler settings dryRun descriptor target).FailsWith Failure.IsSubmission := by
  unfold submit
  refine failsWith_bind (failsWith_ofResult fun failure => accepted_fails) fun experiment => ?_
  refine failsWith_bind ?_ fun jobs => ?_
  · intro site failure failed
    cases failed
  · unfold submitAll
    refine failsWith_bind (makeDirectories_failsWith _) fun made => ?_
    exact failsWith_each (submitJob_failsWith scheduler settings dryRun) jobs

end Batch

/-! ## The operator -/

namespace Consent

theorem confirmFrom_fails {ending : Ending} {question : String} {answers : List String}
    {failure : Failure}
    (failed : (confirmFrom ending question answers).result = .error failure) :
    failure.IsSubmission := by
  induction answers generalizing question with
  | nil =>
      cases failed
      cases ending <;> rfl
  | cons answer rest inductionHypothesis =>
      unfold confirmFrom at failed
      dsimp only at failed
      split at failed
      · cases failed
      · exact inductionHypothesis failed

theorem confirmFrom_leaves {property : Event → Prop}
    (ofAsk : ∀ question answer, property (.asked question answer)) (ending : Ending)
    (question : String) (answers : List String) :
    ∀ event ∈ (confirmFrom ending question answers).events, property event := by
  induction answers generalizing question with
  | nil => exact List.forall_mem_singleton.mpr (ofAsk question none)
  | cons answer rest inductionHypothesis =>
      unfold confirmFrom
      dsimp only
      split
      · exact List.forall_mem_singleton.mpr (ofAsk question answer)
      · exact List.forall_mem_cons.mpr ⟨ofAsk question answer, inductionHypothesis retryQuestion⟩

end Consent

/-! ## The dispatch -/

namespace Dispatch

variable {σ : Type} {submitter : Submitter σ} {descriptor : Value}

section Fails

variable (ofSubmit : ∀ target, (submitter.submit descriptor target).FailsWith Failure.IsSubmission)

include ofSubmit

theorem offer_failsWith (target : Target) :
    (offer submitter descriptor target).FailsWith Failure.IsSubmission := by
  unfold offer
  refine failsWith_bind (failsWith_on fun operator failure => Consent.confirmFrom_fails)
    fun yes => ?_
  cases yes with
  | true =>
      refine failsWith_bind ?_ fun jobs => failsWith_pure _
      refine failsWith_bind ?_ fun _ => failsWith_on (ofSubmit target)
      intro session failure failed
      cases failed
  | false => exact failsWith_bind (failsWith_log _) fun _ => failsWith_pure _

theorem offerTools_failsWith (tools : List String) :
    (offerTools submitter descriptor tools).FailsWith Failure.IsSubmission := by
  induction tools with
  | nil => exact failsWith_pure _
  | cons tool rest inductionHypothesis =>
      unfold offerTools
      refine failsWith_bind (offer_failsWith ofSubmit (.tool tool)) fun first => ?_
      exact failsWith_bind inductionHypothesis fun later => failsWith_pure _

/-- Whatever makes a dispatch fail counts as a failed submission, the end of the input too. -/
theorem dispatch_failsWith (tools : List String) :
    (dispatch submitter descriptor tools).FailsWith Failure.IsSubmission := by
  unfold dispatch
  split
  · unfold announceAll
    refine failsWith_bind (failsWith_bind (failsWith_log _) fun _ => ?_) fun _ =>
      offer_failsWith ofSubmit .allCompetitors
    split
    · exact failsWith_log _
    · exact failsWith_pure _
  · exact offerTools_failsWith ofSubmit tools

end Fails

section Leaves

variable {property : Event → Prop}
  (ofSubmit : ∀ target, (submitter.submit descriptor target).Leaves property)
  (ofAsk : ∀ question answer, property (.asked question answer))
  (ofRequest : ∀ target, property (.requested descriptor target))
  (ofEntry : ∀ entry, property (.logged entry))

include ofSubmit ofAsk ofRequest ofEntry

theorem offer_leaves (target : Target) :
    (offer submitter descriptor target).Leaves property := by
  unfold offer
  refine leaves_bind (leaves_on fun operator =>
    Consent.confirmFrom_leaves ofAsk operator.ending _ operator.answers) fun yes => ?_
  cases yes with
  | true =>
      refine leaves_bind ?_ fun jobs => leaves_pure _
      exact leaves_bind (leaves_leave (ofRequest target)) fun _ => leaves_on (ofSubmit target)
  | false => exact leaves_bind (leaves_log (ofEntry _)) fun _ => leaves_pure _

theorem offerTools_leaves (tools : List String) :
    (offerTools submitter descriptor tools).Leaves property := by
  induction tools with
  | nil => exact leaves_pure _
  | cons tool rest inductionHypothesis =>
      unfold offerTools
      refine leaves_bind (offer_leaves ofSubmit ofAsk ofRequest ofEntry (.tool tool)) fun first => ?_
      exact leaves_bind inductionHypothesis fun later => leaves_pure _

/-- A dispatch leaves questions, requests, entries of the log, and what its submitter leaves. -/
theorem dispatch_leaves (tools : List String) :
    (dispatch submitter descriptor tools).Leaves property := by
  unfold dispatch
  split
  · unfold announceAll
    refine leaves_bind (leaves_bind (leaves_log (ofEntry _)) fun _ => ?_) fun _ =>
      offer_leaves ofSubmit ofAsk ofRequest ofEntry .allCompetitors
    split
    · exact leaves_log (ofEntry _)
    · exact leaves_pure _
  · exact offerTools_leaves ofSubmit ofAsk ofRequest ofEntry tools

end Leaves

end Dispatch

end PartitionBench
