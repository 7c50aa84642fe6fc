import Mathlib.Data.List.Forall2
import PartitionBench.Proofs.Batch.Submission
import PartitionBench.Proofs.Batch.Watch

/-!
Contract: a dry run is a faithful rehearsal.

Owns:
- steps that keep pace: from states that are abreast they come to the same failure or to like
  values, and to states that are abreast again;
- submit commands that can be depended on;
- that dry calls keep pace with real ones as long as the submit command can be depended on, and
  that they run no command.

Does not own: what real calls do to files (`Proofs.Batch.Scripts`).
-/

namespace PartitionBench

variable {σ τ α β γ δ : Type}

/-! ## Steps that keep pace -/

namespace Activity

/-- Two results are alike: they are the same failure, or their values are alike. -/
inductive Alike (like : α → β → Prop) : Except Failure α → Except Failure β → Prop
  | succeeded {value : α} {other : β} (values : like value other) :
      Alike like (.ok value) (.ok other)
  | failed (failure : Failure) : Alike like (.error failure) (.error failure)

theorem Alike.same (result : Except Failure α) : Alike Eq result result := by
  cases result with
  | ok value => exact Alike.succeeded rfl
  | error failure => exact Alike.failed failure

/-- Two steps keep pace: from states that are abreast they come to results that are alike and to
states that are abreast. -/
def KeepsPace (abreast : σ → τ → Prop) (like : α → β → Prop) (step : Activity σ α)
    (other : Activity τ β) : Prop :=
  ∀ state otherState, abreast state otherState →
    Alike like (step state).result (other otherState).result ∧
      abreast (step state).state (other otherState).state

section KeepsPace

variable {abreast : σ → τ → Prop}

theorem keepsPace_pure {like : α → β → Prop} {value : α} {other : β}
    (values : like value other) :
    KeepsPace abreast like (pure value : Activity σ α) (pure other : Activity τ β) :=
  fun _ _ areAbreast => ⟨Alike.succeeded values, areAbreast⟩

theorem keepsPace_ofResult (result : Except Failure α) :
    KeepsPace abreast Eq (ofResult result : Activity σ α) (ofResult result : Activity τ α) :=
  fun _ _ areAbreast => ⟨Alike.same result, areAbreast⟩

theorem keepsPace_change {step : σ → Except Failure α × σ} {other : τ → Except Failure α × τ}
    (ofStep : ∀ state otherState, abreast state otherState →
      (step state).1 = (other otherState).1 ∧ abreast (step state).2 (other otherState).2) :
    KeepsPace abreast Eq (change step) (change other) := by
  intro state otherState areAbreast
  obtain ⟨sameResult, areThen⟩ := ofStep state otherState areAbreast
  refine ⟨?_, areThen⟩
  change Alike Eq (step state).1 (other otherState).1
  rw [sameResult]
  exact Alike.same _

theorem keepsPace_bind {like : α → β → Prop} {likeNext : γ → δ → Prop} {first : Activity σ α}
    {otherFirst : Activity τ β} {next : α → Activity σ γ} {otherNext : β → Activity τ δ}
    (ofFirst : KeepsPace abreast like first otherFirst)
    (ofNext : ∀ value other, like value other →
      KeepsPace abreast likeNext (next value) (otherNext other)) :
    KeepsPace abreast likeNext (first >>= next) (otherFirst >>= otherNext) := by
  intro state otherState areAbreast
  obtain ⟨results, areThen⟩ := ofFirst state otherState areAbreast
  -- Results that are alike have the same constructor, which leaves two of the four cases.
  cases ended : (first state).result with
  | error failure =>
      rw [ended] at results
      cases otherEnded : (otherFirst otherState).result with
      | ok other =>
          rw [otherEnded] at results
          cases results
      | error otherFailure =>
          rw [otherEnded] at results
          cases results
          rw [bind_of_error ended, bind_of_error otherEnded]
          exact ⟨Alike.failed failure, areThen⟩
  | ok value =>
      rw [ended] at results
      cases otherEnded : (otherFirst otherState).result with
      | error otherFailure =>
          rw [otherEnded] at results
          cases results
      | ok other =>
          rw [otherEnded] at results
          cases results with
          | succeeded values =>
              rw [bind_of_ok ended, bind_of_ok otherEnded]
              exact ofNext value other values _ _ areThen

theorem keepsPace_each {like : β → γ → Prop} {step : α → Activity σ β} {other : α → Activity τ γ}
    (ofStep : ∀ item, KeepsPace abreast like (step item) (other item)) (items : List α) :
    KeepsPace abreast (List.Forall₂ like) (each step items) (each other items) := by
  induction items with
  | nil => exact keepsPace_pure List.Forall₂.nil
  | cons item rest inductionHypothesis =>
      apply keepsPace_bind (ofStep item)
      intro value otherValue values
      apply keepsPace_bind inductionHypothesis
      intro later otherLater laterValues
      exact keepsPace_pure (List.Forall₂.cons values laterValues)

end KeepsPace

end Activity

/-! ## Commands that can be depended on -/

namespace Scheduler

variable {scheduler : Scheduler τ} {command : String}

/-- However often a command is run from here on, and on whatever, it never fails and changes no
file. -/
def Dependable (scheduler : Scheduler τ) (command : String) (state : τ) : Prop :=
  ∃ holds : τ → Prop, holds state ∧ ∀ files arguments reached, holds reached →
    ∃ output next, scheduler.run files command arguments reached = ⟨.ok output, files, next⟩ ∧
      holds next

theorem Dependable.run {state : τ} (dependable : scheduler.Dependable command state)
    (files : FileTree) (arguments : List String) :
    ∃ output next, scheduler.run files command arguments state = ⟨.ok output, files, next⟩ ∧
      scheduler.Dependable command next := by
  obtain ⟨holds, begins, goesOn⟩ := dependable
  obtain ⟨output, next, answered, stillHolds⟩ := goesOn files arguments state begins
  exact ⟨output, next, answered, holds, stillHolds, goesOn⟩

/-- A script that lays down no failure can be depended on, behind its end too. -/
theorem scripted_dependable {script : Script} (command : String)
    (noFailure : ∀ outcome ∈ script.outcomes, outcome.isOk = true) :
    scripted.Dependable command script := by
  -- Invariant: no outcome that is still to come is a failure.
  refine ⟨fun reached => ∀ outcome ∈ reached.outcomes, outcome.isOk = true, noFailure, ?_⟩
  rintro files arguments ⟨outcomes, calls⟩ noFailureLeft
  cases outcomes with
  | nil => exact ⟨_, _, rfl, List.forall_mem_nil _⟩
  | cons outcome rest =>
      obtain ⟨isOk, restOk⟩ := List.forall_mem_cons.mp noFailureLeft
      cases outcome with
      | error message => cases isOk
      | ok output => exact ⟨output, _, rfl, restOk⟩

end Scheduler

/-! ## Dry calls and real ones -/

namespace Batch

open PartitionBench.Document Activity Scheduler

variable {scheduler : Scheduler τ} {settings : Settings}

/-- A dry site is abreast of a real one: it has the same files, the same names are taken, and the
submit command of the real one can be depended on. -/
structure Abreast (scheduler : Scheduler τ) (settings : Settings) (dry real : Site τ) : Prop where
  files : dry.files = real.files
  taken : dry.taken = real.taken
  dependable : scheduler.Dependable settings.submitCommand real.queue

/-- The same job was submitted, in the dry run without an identifier. -/
structure LikeJob (dry real : SubmittedJob) : Prop where
  job : dry.job = real.job
  noIdentifier : dry.identifier = none

theorem makeDirectories_keepsPace (path : String) :
    KeepsPace (Abreast scheduler settings) Eq (makeDirectories path) (makeDirectories path) := by
  refine keepsPace_change fun dry real abreast => ?_
  rw [abreast.files]
  exact ⟨rfl, rfl, abreast.taken, abreast.dependable⟩

theorem writeFile_keepsPace (path text : String) :
    KeepsPace (Abreast scheduler settings) Eq (writeFile path text) (writeFile path text) := by
  refine keepsPace_change fun dry real abreast => ?_
  rw [abreast.files]
  cases faultless (real.files.write path text) with
  | ok files => exact ⟨rfl, rfl, abreast.taken, abreast.dependable⟩
  | error failure => exact ⟨rfl, abreast⟩

theorem writeScript_keepsPace (job : Job) :
    KeepsPace (Abreast scheduler settings) Eq (writeScript settings job)
      (writeScript settings job) := by
  unfold writeScript
  refine keepsPace_bind (makeDirectories_keepsPace _) fun _ _ _ => ?_
  refine keepsPace_bind (keepsPace_ofResult _) fun text _ sameText => ?_
  rw [← sameText]
  exact writeFile_keepsPace job.scriptPath text

/-- To take a note of a job keeps pace with handing it on to a command that can be depended on. -/
theorem note_keepsPace (job : Job) :
    KeepsPace (Abreast scheduler settings) LikeJob
      (log (.written job.name) >>= fun _ => pure ⟨job, none⟩) (handOn scheduler settings job) := by
  intro dry real abreast
  obtain ⟨output, next, answered, stillDependable⟩ :=
    abreast.dependable.run real.files [job.scriptPath]
  rw [handOn_of_output answered]
  exact ⟨Alike.succeeded ⟨rfl, rfl⟩, abreast.files, abreast.taken, stillDependable⟩

theorem submitJob_keepsPace (job : Job) :
    KeepsPace (Abreast scheduler settings) LikeJob (submitJob scheduler settings true job)
      (submitJob scheduler settings false job) := by
  rw [submitJob_of_dryRun, submitJob_of_real]
  exact keepsPace_bind (writeScript_keepsPace job) fun _ _ _ => note_keepsPace job

theorem planJobs_keepsPace (experiment : Experiment) (target : Target) :
    KeepsPace (Abreast scheduler settings) Eq (planJobs settings experiment target)
      (planJobs settings experiment target) := by
  refine keepsPace_change fun dry real abreast => ?_
  rw [abreast.taken]
  exact ⟨rfl, abreast.files, rfl, abreast.dependable⟩

theorem submit_keepsPace (descriptor : Value) (target : Target) :
    KeepsPace (Abreast scheduler settings) (List.Forall₂ LikeJob)
      (submit scheduler settings true descriptor target)
      (submit scheduler settings false descriptor target) := by
  unfold submit
  refine keepsPace_bind (keepsPace_ofResult _) fun experiment _ sameExperiment => ?_
  rw [← sameExperiment]
  refine keepsPace_bind (planJobs_keepsPace experiment target) fun jobs _ sameJobs => ?_
  rw [← sameJobs]
  unfold submitAll
  refine keepsPace_bind (makeDirectories_keepsPace _) fun _ _ _ => ?_
  exact keepsPace_each submitJob_keepsPace jobs

/-! ## What a dry call shows -/

/-- An event of a dry call: the log tells that a script was written. -/
def IsNote (event : Event) : Prop :=
  ∃ name, event = .logged (.written name)

/-- An event of a real call: an entry in the log, or a run of a command. -/
def IsRunOrEntry (event : Event) : Prop :=
  (∃ entry, event = .logged entry) ∨ ∃ command arguments, event = .ran command arguments

theorem submit_leaves_notes (scheduler : Scheduler τ) (settings : Settings) (descriptor : Value)
    (target : Target) :
    (submit scheduler settings true descriptor target).Leaves IsNote := by
  unfold submit
  refine leaves_bind (leaves_ofResult _) fun experiment => ?_
  refine leaves_bind (leaves_change _) fun jobs => ?_
  unfold submitAll
  refine leaves_bind (leaves_change _) fun made => ?_
  refine leaves_each (fun job => ?_) jobs
  rw [submitJob_of_dryRun]
  refine leaves_bind (writeScript_leaves settings job) fun written => ?_
  exact leaves_bind (leaves_log ⟨job.name, rfl⟩) fun _ => leaves_pure _

theorem submit_leaves_runs (scheduler : Scheduler τ) (settings : Settings) (dryRun : Bool)
    (descriptor : Value) (target : Target) :
    (submit scheduler settings dryRun descriptor target).Leaves IsRunOrEntry :=
  submit_leaves scheduler settings dryRun descriptor target
    (fun command arguments => Or.inr ⟨command, arguments, rfl⟩) fun entry => Or.inl ⟨entry, rfl⟩

/-- A dry call leaves the queue alone. -/
theorem submit_keeps_queue (scheduler : Scheduler τ) (settings : Settings) (descriptor : Value)
    (target : Target) :
    (submit scheduler settings true descriptor target).Keeps Site.queue := by
  unfold submit
  refine keeps_bind (keeps_ofResult _) fun experiment => ?_
  refine keeps_bind (fun site => rfl) fun jobs => ?_
  unfold submitAll
  refine keeps_bind (makeDirectories_keeps (fun _ _ => rfl) _) fun made => ?_
  refine keeps_each (fun job => ?_) jobs
  rw [submitJob_of_dryRun]
  refine keeps_bind (writeScript_keeps (fun _ _ => rfl) settings job) fun written => ?_
  exact keeps_bind (keeps_log _) fun _ => keeps_pure _

theorem after_queue_of_dryRun (scheduler : Scheduler τ) (settings : Settings) (site : Site τ)
    (calls : List Submitter.Call) :
    ((submitter scheduler settings true).after site calls).queue = site.queue := by
  induction calls generalizing site with
  | nil => rfl
  | cons call rest inductionHypothesis =>
      rw [Submitter.after_cons, inductionHypothesis]
      exact submit_keeps_queue scheduler settings call.descriptor call.target site

theorem no_invocations_of_dryRun (scheduler : Scheduler τ) (settings : Settings) (site : Site τ)
    (calls : List Submitter.Call) : invocations scheduler settings true site calls = [] :=
  congrArg Prod.snd (after_queue_of_dryRun scheduler.watched settings (watch site) calls)

/-! ## Sequences of calls -/

/-- A dry call and a real one that come to the same: the same files, the same names taken, and
the same failure or the same jobs. What differs is the identifiers, the log and the runs of the
submit command. -/
structure Rehearsed (dry real : Outcome (Site τ) (List SubmittedJob)) : Prop where
  files : dry.state.files = real.state.files
  taken : dry.state.taken = real.state.taken
  results : Alike (List.Forall₂ LikeJob) dry.result real.result
  dryEvents : ∀ event ∈ dry.events, IsNote event
  realEvents : ∀ event ∈ real.events, IsRunOrEntry event

theorem outcomes_rehearsed (calls : List Submitter.Call) {dry real : Site τ}
    (abreast : Abreast scheduler settings dry real) :
    List.Forall₂ Rehearsed ((submitter scheduler settings true).outcomes dry calls)
      ((submitter scheduler settings false).outcomes real calls) := by
  induction calls generalizing dry real with
  | nil => exact List.Forall₂.nil
  | cons call rest inductionHypothesis =>
      obtain ⟨results, after⟩ := submit_keepsPace call.descriptor call.target dry real abreast
      refine List.Forall₂.cons ?_ (inductionHypothesis after)
      exact ⟨after.files, after.taken, results,
        submit_leaves_notes scheduler settings call.descriptor call.target dry,
        submit_leaves_runs scheduler settings false call.descriptor call.target real⟩

/-- **A dry run is a faithful rehearsal.** Let the submit command be one that can be depended on.
Then any sequence of calls, refused ones and ones that fail at the files among them, comes call by
call to the same in a dry run and in a real one, and the dry run never runs the command. -/
theorem dryRun_rehearses (scheduler : Scheduler τ) (settings : Settings) (site : Site τ)
    (calls : List Submitter.Call)
    (dependable : scheduler.Dependable settings.submitCommand site.queue) :
    List.Forall₂ Rehearsed ((submitter scheduler settings true).outcomes site calls)
        ((submitter scheduler settings false).outcomes site calls) ∧
      invocations scheduler settings true site calls = [] :=
  ⟨outcomes_rehearsed calls ⟨rfl, rfl, dependable⟩,
    no_invocations_of_dryRun scheduler settings site calls⟩

/-- A call that is refused, and one whose first job gets no identifier and whose second meets a
directory in the place of its script. -/
theorem dryRun_rehearses_scripted :
    Scheduler.scripted.Dependable Settings.standard.submitCommand ⟨[.ok "accepted"], 0⟩ ∧
      List.Forall₂ Rehearsed
        ((submitter Scheduler.scripted Settings.standard true).outcomes
          ⟨⟨[(["jobs", "metis_a_k16.sh"], .directory)], []⟩, [], ⟨[.ok "accepted"], 0⟩⟩
          [⟨.null, .allCompetitors⟩,
            ⟨(Experiment.mk 2 2 0 (-1) [4, 16] 2 ["a", "a"] ["a", "a"]).toValue, .tool "metis"⟩])
        ((submitter Scheduler.scripted Settings.standard false).outcomes
          ⟨⟨[(["jobs", "metis_a_k16.sh"], .directory)], []⟩, [], ⟨[.ok "accepted"], 0⟩⟩
          [⟨.null, .allCompetitors⟩,
            ⟨(Experiment.mk 2 2 0 (-1) [4, 16] 2 ["a", "a"] ["a", "a"]).toValue, .tool "metis"⟩]) := by
  have dependable : Scheduler.scripted.Dependable Settings.standard.submitCommand
      ⟨[.ok "accepted"], 0⟩ := scripted_dependable _ (by decide)
  exact ⟨dependable, (dryRun_rehearses Scheduler.scripted Settings.standard
    ⟨⟨[(["jobs", "metis_a_k16.sh"], .directory)], []⟩, [], ⟨[.ok "accepted"], 0⟩⟩ _ dependable).1⟩

end Batch

end PartitionBench
