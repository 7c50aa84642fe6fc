import PartitionBench.Job.Plan
import PartitionBench.Job.Script
import PartitionBench.Scheduler
import PartitionBench.Submitter

/-!
Contract: submission through batch scripts.

Owns:
- the state of a batch submitter: the files, the names given so far and what the
  scheduler remembers;
- the order of its work: check the descriptor, plan all jobs, make the output
  directory, then job by job make its directory, write its script and hand it to
  the scheduler;
- the failures of a refused descriptor and of a failed submit command.

Does not own: plans, scripts and the files themselves.
-/

namespace PartitionBench.Batch

open PartitionBench.Document

/-- What a batch submitter works on. The names given stay taken whatever becomes of
their jobs. -/
structure Site (τ : Type) where
  files : FileTree
  taken : List String
  queue : τ

variable {τ : Type}

/-- The descriptor in a document value, or the refusal of it. -/
def accepted (descriptor : Value) : Except Failure Experiment :=
  match (Experiment.check descriptor).accepted with
  | .ok experiment => .ok experiment
  | .error issues =>
      .error (.submission ("Refusing to submit invalid experiment: " ++ Issue.summary issues))

/-- The result of work on files, with a fault passed on as it is. A path that is none
was used as something that it is not. -/
def faultless {α : Type} (result : Except Fault α) : Except Failure α :=
  match result with
  | .ok value => .ok value
  | .error fault =>
      .error (if fault.kind = .unusable then .unusable fault.text else .system fault.text)

def planJobs (settings : Settings) (experiment : Experiment) (target : Target) :
    Activity (Site τ) (List Job) :=
  .change fun site =>
    let planned := Job.plan settings experiment target site.taken
    (.ok planned.1, { site with taken := planned.2 })

/-- Make a directory and those on the way to it. -/
def makeDirectories (path : String) : Activity (Site τ) Unit :=
  .change fun site =>
    let made := site.files.makeDirectories path
    (faultless made.1, { site with files := made.2 })

def writeFile (path text : String) : Activity (Site τ) Unit :=
  .change fun site =>
    match faultless (site.files.write path text) with
    | .ok files => (.ok (), { site with files := files })
    | .error failure => (.error failure, site)

/-- Write the script of a job, in a directory that is made for it. -/
def writeScript (settings : Settings) (job : Job) : Activity (Site τ) Unit := do
  makeDirectories (Path.directory job.scriptPath)
  let text ← Activity.ofResult (job.script settings)
  writeFile job.scriptPath text

/-- The failure of a submit command for a job. It names both, unless there are no words for
what the command was broken off by. -/
def commandFailure (settings : Settings) (job : Job) (thrown : Scheduler.Thrown) : Failure :=
  match thrown.words with
  | .ok message =>
      .submission (settings.submitCommand ++ " failed for job " ++ job.name ++ ": " ++ message)
  | .error failure => failure

/-- Run the submit command on the script of a job and give what it wrote. The files are
those that the command leaves. -/
def runCommand (scheduler : Scheduler τ) (settings : Settings) (job : Job) :
    Activity (Site τ) String :=
  fun site =>
    let arguments := [job.scriptPath]
    let answer := scheduler.run site.files settings.submitCommand arguments site.queue
    { result := answer.outcome.mapError (commandFailure settings job)
      events := [.ran settings.submitCommand arguments]
      state := { site with files := answer.files, queue := answer.state } }

/-- Log that a job was handed on, after a warning when no identifier could be read. -/
def announce (settings : Settings) (job : Job) (identifier : Option String) :
    Activity (Site τ) Unit := do
  if identifier.isNone then
    Activity.log (.warning ("could not read a job id from " ++ settings.submitCommand
      ++ " output for " ++ job.name))
  Activity.log (.submitted job.name identifier)

def handOn (scheduler : Scheduler τ) (settings : Settings) (job : Job) :
    Activity (Site τ) SubmittedJob := do
  let output ← runCommand scheduler settings job
  let identifier := Scheduler.jobIdentifier? output
  announce settings job identifier
  return ⟨job, identifier⟩

/-- Submit one job: write its script, and unless this is a dry run hand it on. -/
def submitJob (scheduler : Scheduler τ) (settings : Settings) (dryRun : Bool) (job : Job) :
    Activity (Site τ) SubmittedJob := do
  writeScript settings job
  if dryRun then
    Activity.log (.written job.name)
    return ⟨job, none⟩
  else
    handOn scheduler settings job

/-- Submit jobs in their order, after making the directory of their results. -/
def submitAll (scheduler : Scheduler τ) (settings : Settings) (dryRun : Bool) (jobs : List Job) :
    Activity (Site τ) (List SubmittedJob) := do
  makeDirectories settings.outputDirectory
  Activity.each (submitJob scheduler settings dryRun) jobs

def submit (scheduler : Scheduler τ) (settings : Settings) (dryRun : Bool) (descriptor : Value)
    (target : Target) : Activity (Site τ) (List SubmittedJob) := do
  let experiment ← Activity.ofResult (accepted descriptor)
  let jobs ← planJobs settings experiment target
  submitAll scheduler settings dryRun jobs

/-! ## The submitter takes no part in the dialogue -/

section Discreet

open Activity

variable {property : Event → Prop}

theorem writeScript_leaves (settings : Settings) (job : Job) :
    (writeScript settings job : Activity (Site τ) Unit).Leaves property := by
  unfold writeScript
  refine leaves_bind (leaves_change _) fun made => ?_
  refine leaves_bind (leaves_ofResult _) fun text => ?_
  exact leaves_change _

theorem announce_leaves (settings : Settings) (job : Job) (identifier : Option String)
    (ofEntry : ∀ entry, property (.logged entry)) :
    (announce settings job identifier : Activity (Site τ) Unit).Leaves property := by
  unfold announce
  dsimp only
  split
  · exact leaves_bind (leaves_log (ofEntry _)) fun _ => leaves_log (ofEntry _)
  · exact leaves_log (ofEntry _)

theorem submitJob_leaves (scheduler : Scheduler τ) (settings : Settings) (dryRun : Bool)
    (job : Job) (ofRun : ∀ command arguments, property (.ran command arguments))
    (ofEntry : ∀ entry, property (.logged entry)) :
    (submitJob scheduler settings dryRun job).Leaves property := by
  unfold submitJob
  refine leaves_bind (writeScript_leaves settings job) fun written => ?_
  cases dryRun with
  | true => exact leaves_bind (leaves_log (ofEntry _)) fun _ => leaves_pure _
  | false =>
      change (handOn scheduler settings job).Leaves property
      unfold handOn
      refine leaves_bind ?_ fun output => ?_
      · intro site event member
        rw [List.mem_singleton.mp member]
        exact ofRun settings.submitCommand [job.scriptPath]
      · exact leaves_bind (announce_leaves settings job _ ofEntry) fun _ => leaves_pure _

/-- The events of a call are runs of the command and entries in the log. -/
theorem submit_leaves (scheduler : Scheduler τ) (settings : Settings) (dryRun : Bool)
    (descriptor : Value) (target : Target)
    (ofRun : ∀ command arguments, property (.ran command arguments))
    (ofEntry : ∀ entry, property (.logged entry)) :
    (submit scheduler settings dryRun descriptor target).Leaves property := by
  unfold submit
  refine leaves_bind (leaves_ofResult _) fun experiment => ?_
  refine leaves_bind (leaves_change _) fun jobs => ?_
  unfold submitAll
  refine leaves_bind (leaves_change _) fun made => ?_
  exact leaves_each (fun job => submitJob_leaves scheduler settings dryRun job ofRun ofEntry) jobs

end Discreet

/-- The submitter that writes batch scripts and hands them to a scheduler. -/
def submitter (scheduler : Scheduler τ) (settings : Settings) (dryRun : Bool) :
    Submitter (Site τ) where
  submit := submit scheduler settings dryRun
  discreet := fun descriptor target =>
    submit_leaves scheduler settings dryRun descriptor target (fun _ _ => rfl) (fun _ => rfl)

end PartitionBench.Batch
