import PartitionBench.Proofs.Batch.Scripts
import PartitionBench.Proofs.Batch.Submission

/-!
Contract: a call that fails in the middle leaves exactly what it had completed.

Owns:
- what the jobs taken by the queue, and the job that stops, leave in the files, in the log
  and of the names;
- how the job stops: before the submit command, or at it, with a failure that names the command
  and the job whenever there are words for what the command threw;
- the residue of a call in which one job stops: the jobs before it are complete, those behind
  it are not begun, and the names of all of them stay taken.

Does not own: the single steps (`Proofs.Batch.Submission`).
-/

namespace PartitionBench

/-- The name of the job that an event announces as submitted. -/
def Event.announced? : Event → Option String
  | .logged (.submitted name _) => some name
  | _ => none

namespace Batch

open PartitionBench.Document Activity Scheduler

variable {τ : Type} {scheduler : Scheduler τ} {settings : Settings}

/-! ## Runs and announcements -/

theorem taking_runs (settings : Settings) (job : Job) (output : String) :
    (taking settings job output).filterMap Event.run? =
      [(settings.submitCommand, [job.scriptPath])] := by
  unfold taking announcement
  cases jobIdentifier? output <;> rfl

theorem taking_announces (settings : Settings) (job : Job) (output : String) :
    (taking settings job output).filterMap Event.announced? = [job.name] := by
  unfold taking announcement
  cases jobIdentifier? output <;> rfl

theorem TakesAll.runs {before after : Site τ} {jobs : List Job} {outputs : List String}
    (takesAll : TakesAll scheduler settings before jobs outputs after) :
    (takings settings jobs outputs).filterMap Event.run? =
      jobs.map fun job => (settings.submitCommand, [job.scriptPath]) := by
  induction takesAll with
  | nil => rfl
  | cons takes takesRest inductionHypothesis =>
      change (taking settings _ _ ++ takings settings _ _).filterMap Event.run? = _
      rw [List.filterMap_append, taking_runs, inductionHypothesis]
      rfl

theorem TakesAll.announces {before after : Site τ} {jobs : List Job} {outputs : List String}
    (takesAll : TakesAll scheduler settings before jobs outputs after) :
    (takings settings jobs outputs).filterMap Event.announced? = jobs.map Job.name := by
  induction takesAll with
  | nil => rfl
  | cons takes takesRest inductionHypothesis =>
      change (taking settings _ _ ++ takings settings _ _).filterMap Event.announced? = _
      rw [List.filterMap_append, taking_announces, inductionHypothesis]
      rfl

/-! ## Names -/

theorem TakesAll.sameNames {before after : Site τ} {jobs : List Job} {outputs : List String}
    (takesAll : TakesAll scheduler settings before jobs outputs after) :
    after.taken = before.taken := by
  induction takesAll with
  | nil => rfl
  | cons takes takesRest inductionHypothesis =>
      exact inductionHypothesis.trans takes.sameNames

theorem Stops.sameNames {job : Job} {before left : Site τ} {failure : Failure}
    {events : List Event} (stops : Stops scheduler settings job before failure events left) :
    left.taken = before.taken := by
  cases stops <;> rfl

/-! ## Files -/

/-- The name of the file that holds the script of a job. -/
def scriptName (job : Job) : String :=
  job.name ++ ".sh"

/-- Jobs with different names have scripts with different names. -/
theorem scriptNames_nodup {jobs : List Job} (names : (jobs.map Job.name).Nodup) :
    (jobs.map scriptName).Nodup := by
  have extended : Function.Injective fun name : String => name ++ ".sh" := fun _ _ same =>
    (String.append_left_inj ".sh").mp same
  have apart := names.map extended
  rw [List.map_map] at apart
  exact apart

theorem Writes.differOnlyIn {job : Job} {before after : FileTree}
    (placed : Job.Placed settings job) (writes : Writes settings job before after) :
    FileTree.DifferOnlyIn [scriptName job] before after := by
  obtain ⟨made, text, prepares, _, written⟩ := writes
  rw [placed.script] at written
  exact (FileTree.makeDirectories_differOnlyIn prepares).trans (FileTree.write_differOnlyIn
    (Job.extended_isFileName placed.noSlash Job.script_isEnding) written)

theorem Writes.holds {job : Job} {before after : FileTree}
    (writes : Writes settings job before after) : Holds settings after job := by
  obtain ⟨made, text, _, isScript, written⟩ := writes
  exact ⟨text, isScript, FileTree.contents_write written⟩

/-- A command that changes no file leaves the files that it found. -/
theorem files_of_answer (keepsFiles : scheduler.KeepsFiles) {files left : FileTree}
    {command : String} {arguments : List String} {queue next : τ}
    {outcome : Except Thrown String}
    (answered : scheduler.run files command arguments queue = ⟨outcome, left, next⟩) :
    left = files := by
  have sameFiles := keepsFiles files command arguments queue
  rw [answered] at sameFiles
  exact sameFiles

theorem Takes.differOnlyIn (keepsFiles : scheduler.KeepsFiles) {job : Job}
    {before after : Site τ} {output : String} (placed : Job.Placed settings job)
    (takes : Takes scheduler settings job before output after) :
    FileTree.DifferOnlyIn [scriptName job] before.files after.files := by
  obtain ⟨files, writes, answered⟩ := takes.answered
  rw [files_of_answer keepsFiles answered]
  exact writes.differOnlyIn placed

theorem TakesAll.differOnlyIn (keepsFiles : scheduler.KeepsFiles) {before after : Site τ}
    {jobs : List Job} {outputs : List String} (placed : ∀ job ∈ jobs, Job.Placed settings job)
    (takesAll : TakesAll scheduler settings before jobs outputs after) :
    FileTree.DifferOnlyIn (jobs.map scriptName) before.files after.files := by
  induction takesAll with
  | nil site => exact FileTree.DifferOnlyIn.refl site.files
  | cons takes takesRest inductionHypothesis =>
      obtain ⟨firstPlaced, restPlaced⟩ := List.forall_mem_cons.mp placed
      exact (takes.differOnlyIn keepsFiles firstPlaced).trans (inductionHypothesis restPlaced)

theorem Stops.differOnlyIn (keepsFiles : scheduler.KeepsFiles) {job : Job}
    {before left : Site τ} {failure : Failure} {events : List Event}
    (placed : Job.Placed settings job)
    (stops : Stops scheduler settings job before failure events left) :
    FileTree.DifferOnlyIn [scriptName job] before.files left.files := by
  cases stops with
  | directory notMade =>
      exact (FileTree.makeDirectories_differOnlyIn notMade).widen [scriptName job]
  | text prepares noScript =>
      exact (FileTree.makeDirectories_differOnlyIn prepares).widen [scriptName job]
  | file prepares isScript notWritten =>
      exact (FileTree.makeDirectories_differOnlyIn prepares).widen [scriptName job]
  | command writes answered =>
      rw [files_of_answer keepsFiles answered]
      exact writes.differOnlyIn placed

/-! ## Scripts -/

theorem extends_of_made {tree made : FileTree} {path : String} {result : Except Fault Unit}
    (isMade : tree.makeDirectories path = (result, made)) : tree.Extends made := by
  have extension := FileTree.makeDirectories_extends tree path
  rw [isMade] at extension
  exact extension

section OtherScripts

variable {job other : Job} (placed : Job.Placed settings job)
  (otherPlaced : Job.Placed settings other) (different : other.name ≠ job.name)

include placed otherPlaced different

theorem Writes.holds_other {before after : FileTree} (writes : Writes settings job before after)
    (holds : Holds settings before other) : Holds settings after other := by
  obtain ⟨made, text, prepares, _, written⟩ := writes
  exact (holds.extends (extends_of_made prepares)).write_other placed otherPlaced different written

theorem Takes.holds_other (keepsFiles : scheduler.KeepsFiles) {before after : Site τ}
    {output : String} (takes : Takes scheduler settings job before output after)
    (holds : Holds settings before.files other) : Holds settings after.files other := by
  obtain ⟨files, writes, answered⟩ := takes.answered
  rw [files_of_answer keepsFiles answered]
  exact writes.holds_other placed otherPlaced different holds

theorem Stops.holds_other (keepsFiles : scheduler.KeepsFiles) {before left : Site τ}
    {failure : Failure} {events : List Event}
    (stops : Stops scheduler settings job before failure events left)
    (holds : Holds settings before.files other) : Holds settings left.files other := by
  cases stops with
  | directory notMade => exact holds.extends (extends_of_made notMade)
  | text prepares noScript => exact holds.extends (extends_of_made prepares)
  | file prepares isScript notWritten => exact holds.extends (extends_of_made prepares)
  | command writes answered =>
      rw [files_of_answer keepsFiles answered]
      exact writes.holds_other placed otherPlaced different holds

end OtherScripts

theorem TakesAll.holds_other (keepsFiles : scheduler.KeepsFiles) {before after : Site τ}
    {jobs : List Job} {outputs : List String} {other : Job}
    (placed : ∀ job ∈ jobs, Job.Placed settings job) (otherPlaced : Job.Placed settings other)
    (different : other.name ∉ jobs.map Job.name)
    (takesAll : TakesAll scheduler settings before jobs outputs after)
    (holds : Holds settings before.files other) : Holds settings after.files other := by
  induction takesAll with
  | nil => exact holds
  | cons takes takesRest inductionHypothesis =>
      obtain ⟨firstPlaced, restPlaced⟩ := List.forall_mem_cons.mp placed
      rw [List.map_cons, List.mem_cons, not_or] at different
      exact inductionHypothesis restPlaced different.2
        (takes.holds_other firstPlaced otherPlaced different.1 keepsFiles holds)

/-- The scripts of jobs that the queue took stay, because the jobs have different names. -/
theorem TakesAll.holds (keepsFiles : scheduler.KeepsFiles) {before after : Site τ}
    {jobs : List Job} {outputs : List String} (placed : ∀ job ∈ jobs, Job.Placed settings job)
    (names : (jobs.map Job.name).Nodup)
    (takesAll : TakesAll scheduler settings before jobs outputs after) :
    ∀ job ∈ jobs, Holds settings after.files job := by
  induction takesAll with
  | nil => exact List.forall_mem_nil _
  | cons takes takesRest inductionHypothesis =>
      obtain ⟨firstPlaced, restPlaced⟩ := List.forall_mem_cons.mp placed
      obtain ⟨firstFresh, restNames⟩ := List.nodup_cons.mp names
      refine List.forall_mem_cons.mpr ⟨?_, inductionHypothesis restPlaced restNames⟩
      -- The first script outlives the rest of the run, whose jobs have other names.
      obtain ⟨files, writes, answered⟩ := takes.answered
      refine takesRest.holds_other keepsFiles restPlaced firstPlaced firstFresh ?_
      rw [files_of_answer keepsFiles answered]
      exact writes.holds

/-! ## The job that stops -/

/-- The submit command was run for a job, on files that held its script, and was broken off. The
script lies there afterwards. -/
structure Threw (scheduler : Scheduler τ) (settings : Settings) (job : Job) (left : Site τ)
    (thrown : Thrown) : Prop where
  answered : ∃ files queue, Holds settings files job ∧
    scheduler.run files settings.submitCommand [job.scriptPath] queue =
      ⟨.error thrown, left.files, left.queue⟩
  lies : scheduler.KeepsFiles → Holds settings left.files job

/-- How a call is broken off at a job. In the first way the submit command was run for the job and
the failure names the command and the job. In the second it was run as well, but there are no words
for what it threw, and the failure to find them hides both. In the third the command was not run for
the job, and the failure is that of the files or of the script as it came. -/
inductive Ends (scheduler : Scheduler τ) (settings : Settings) (job : Job) (left : Site τ) :
    Failure → List (String × List String) → Prop
  | atCommand {thrown : Thrown} {message : String}
      (threw : Threw scheduler settings job left thrown) (isNamed : thrown.words = .ok message) :
      Ends scheduler settings job left
        (.submission (settings.submitCommand ++ " failed for job " ++ job.name ++ ": " ++ message))
        [(settings.submitCommand, [job.scriptPath])]
  | wordless {thrown : Thrown} {failure : Failure}
      (threw : Threw scheduler settings job left thrown) (noWords : thrown.words = .error failure)
      (unnamed : ∀ message, failure ≠ .submission message) :
      Ends scheduler settings job left failure [(settings.submitCommand, [job.scriptPath])]
  | before {failure : Failure}
      (original : (∃ fault, failure = passedOn fault) ∨ job.script settings = .error failure) :
      Ends scheduler settings job left failure []

theorem threw_of_writes {job : Job} {before : Site τ} {files left : FileTree} {queue : τ}
    {thrown : Thrown} (writes : Writes settings job before.files files)
    (answered : scheduler.run files settings.submitCommand [job.scriptPath] before.queue =
      ⟨.error thrown, left, queue⟩) :
    Threw scheduler settings job { before with files := left, queue := queue } thrown where
  answered := ⟨files, before.queue, writes.holds, answered⟩
  lies := by
    intro keepsFiles
    rw [files_of_answer keepsFiles answered]
    exact writes.holds

theorem Stops.ends {job : Job} {before left : Site τ} {failure : Failure} {events : List Event}
    (stops : Stops scheduler settings job before failure events left) :
    Ends scheduler settings job left failure (events.filterMap Event.run?) := by
  cases stops with
  | directory notMade => exact Ends.before (Or.inl ⟨_, rfl⟩)
  | text prepares noScript => exact Ends.before (Or.inr noScript)
  | file prepares isScript notWritten => exact Ends.before (Or.inl ⟨_, rfl⟩)
  | command writes answered =>
      have threw := threw_of_writes writes answered
      unfold commandFailure
      split
      next message isNamed => exact Ends.atCommand threw isNamed
      next failure noWords =>
        refine Ends.wordless threw noWords fun message same => ?_
        rcases Thrown.wordless noWords with ⟨_, rfl⟩ | ⟨_, rfl⟩ <;> cases same

/-- A job that stops is not announced. -/
theorem Stops.announces {job : Job} {before left : Site τ} {failure : Failure}
    {events : List Event} (stops : Stops scheduler settings job before failure events left) :
    events.filterMap Event.announced? = [] := by
  cases stops <;> rfl

/-! ## Jobs that are taken, and then one that stops -/

section Broken

variable {site reached left : Site τ} {earlier : List Job} {job : Job} {outputs : List String}
  {failure : Failure} {events : List Event} {made : FileTree}

/-- The scripts of the jobs before the one that stops lie where these say: no name comes twice,
so neither the jobs behind them nor the one that stops write there. -/
theorem scripts_lie (keepsFiles : scheduler.KeepsFiles)
    (placed : ∀ other ∈ earlier ++ [job], Job.Placed settings other)
    (names : ((earlier ++ [job]).map Job.name).Nodup)
    (takesAll : TakesAll scheduler settings site earlier outputs reached)
    (stops : Stops scheduler settings job reached failure events left) :
    ∀ other ∈ earlier, Holds settings left.files other := by
  intro other member
  have ofEarlier : ∀ first ∈ earlier, Job.Placed settings first := fun first isEarlier =>
    placed first (List.mem_append_left _ isEarlier)
  have ofJob : Job.Placed settings job := placed job (by simp)
  rw [List.map_append, List.map_singleton] at names
  obtain ⟨earlierNames, _, apart⟩ := List.nodup_append.mp names
  have different : other.name ≠ job.name :=
    apart _ (List.mem_map_of_mem member) _ (List.mem_singleton_self _)
  have lay : Holds settings reached.files other :=
    takesAll.holds keepsFiles ofEarlier earlierNames other member
  exact stops.holds_other ofJob (ofEarlier other member) different keepsFiles lay

/-- From the directory of the results to the job that stops, only scripts are written. -/
theorem broken_differOnlyIn (keepsFiles : scheduler.KeepsFiles) {files : FileTree} {path : String}
    (isMade : files.makeDirectories path = (.ok (), made)) (begins : site.files = made)
    (placed : ∀ other ∈ earlier ++ [job], Job.Placed settings other)
    (takesAll : TakesAll scheduler settings site earlier outputs reached)
    (stops : Stops scheduler settings job reached failure events left) :
    FileTree.DifferOnlyIn ((earlier ++ [job]).map scriptName) files left.files := by
  have ofEarlier : FileTree.DifferOnlyIn (earlier.map scriptName) site.files reached.files :=
    takesAll.differOnlyIn keepsFiles fun other member =>
      placed other (List.mem_append_left _ member)
  have ofJob : FileTree.DifferOnlyIn [scriptName job] reached.files left.files :=
    stops.differOnlyIn keepsFiles (placed job (by simp))
  rw [begins] at ofEarlier
  rw [List.map_append]
  exact (FileTree.makeDirectories_differOnlyIn isMade).trans (ofEarlier.trans ofJob)

end Broken

/-! ## The call -/

/-- The site of a call whose jobs are planned: their names are taken. -/
def prepared (site : Site τ) (call : Submitter.Call) : Site τ :=
  { site with taken := (Job.claimAll site.taken (basesOf call)).2 }

theorem call_of_planned (scheduler : Scheduler τ) (settings : Settings) (dryRun : Bool)
    (site : Site τ) {call : Submitter.Call} (plans : plannedBy settings site.taken call ≠ []) :
    (submitter scheduler settings dryRun).call call site =
      submitAll scheduler settings dryRun (plannedBy settings site.taken call)
        (prepared site call) := by
  change submit scheduler settings dryRun call.descriptor call.target site = _
  cases read : accepted call.descriptor with
  | error failure => exact absurd (plannedBy_of_refused settings site.taken read) plans
  | ok experiment =>
      have names := Job.plan_names settings experiment call.target site.taken
      rw [submit_of_accepted scheduler settings dryRun call.target site read,
        plannedBy_of_accepted settings site.taken read]
      simp only [prepared, basesOf, read, ← names]

/-- What a call has come to that was broken off at a job: the jobs before it are complete,
those behind it are not begun, and the names of all of them stay taken. -/
structure BrokenOff (scheduler : Scheduler τ) (settings : Settings) (site : Site τ)
    (earlier : List Job) (job : Job) (later : List Job) (failure : Failure)
    (outcome : Outcome (Site τ) (List SubmittedJob)) : Prop where
  /-- No jobs are given back. -/
  fails : outcome.result = .error failure
  /-- Behind the directory of the results come the earlier jobs, which the queue takes one after
  another, and the job that stops. Nothing comes behind it. -/
  course : ∃ made outputs reached events,
    site.files.makeDirectories settings.outputDirectory = (.ok (), made) ∧
    TakesAll scheduler settings { site with files := made, taken := outcome.state.taken } earlier
      outputs reached ∧
    Stops scheduler settings job reached failure events outcome.state ∧
    outcome.events = takings settings earlier outputs ++ events
  /-- The command was run for the earlier jobs, and at most for the one that stops. -/
  runs : ∃ last, Ends scheduler settings job outcome.state failure last ∧
    outcome.events.filterMap Event.run? =
      (earlier.map fun other => (settings.submitCommand, [other.scriptPath])) ++ last
  /-- The log announces the earlier jobs. -/
  announced : outcome.events.filterMap Event.announced? = earlier.map Job.name
  /-- The scripts of the earlier jobs lie where these say. -/
  scripts : scheduler.KeepsFiles → ∀ other ∈ earlier, Holds settings outcome.state.files other
  /-- No file is written but the scripts of the earlier jobs and of the one that stops. -/
  untouched : scheduler.KeepsFiles → FileTree.DifferOnlyIn ((earlier ++ [job]).map scriptName)
    site.files outcome.state.files
  /-- The jobs that are not begun have other scripts. -/
  apart : ((earlier ++ job :: later).map scriptName).Nodup
  /-- The names of all jobs stay taken. -/
  claimed : ∀ other ∈ earlier ++ job :: later, other.name ∈ outcome.state.taken
  /-- Whatever is called next, no job gets one of these names. -/
  fresh : ∀ dryRun calls,
    ∀ next ∈ (planned scheduler settings dryRun outcome.state calls).flatten,
      next.name ∉ (earlier ++ job :: later).map Job.name

/-- The names that a call has claimed are given to no job of later calls. -/
theorem planned_fresh (scheduler : Scheduler τ) (settings : Settings) (dryRun : Bool)
    (site : Site τ) (calls : List Submitter.Call) {next : Job}
    (member : next ∈ (planned scheduler settings dryRun site calls).flatten) :
    next.name ∉ site.taken := by
  have isClaimed : next.name ∈ (Job.claimAll site.taken (calls.flatMap basesOf)).1 := by
    rw [← planned_names scheduler settings dryRun]
    exact List.mem_map_of_mem member
  exact Job.claimAll_not_mem site.taken _ _ isClaimed

theorem prepared_claims (settings : Settings) (site : Site τ) (call : Submitter.Call) {job : Job}
    (member : job ∈ plannedBy settings site.taken call) :
    job.name ∈ (prepared site call).taken := by
  have isClaimed : job.name ∈ (Job.claimAll site.taken (basesOf call)).1 := by
    rw [← plannedBy_names settings]
    exact List.mem_map_of_mem member
  change job.name ∈ (Job.claimAll site.taken (basesOf call)).2
  rw [Job.claimAll_taken]
  exact List.mem_append_left _ (List.mem_reverse.mpr isClaimed)

/-- **A failure in the middle leaves exactly what was completed.** Let a call plan some jobs, and
let those before one of them succeed and that one fail. Then the call fails with the failure of
that job and is broken off there. The failure names the submit command and the job if the command
threw something that there are words for. -/
theorem call_broken_off (scheduler : Scheduler τ) (settings : Settings) (site : Site τ)
    (call : Submitter.Call) (submitted : List SubmittedJob) {earlier later : List Job} {job : Job}
    {failure : Failure} (plans : plannedBy settings site.taken call = earlier ++ job :: later)
    (succeeded : (submitAll scheduler settings false earlier (prepared site call)).result =
      .ok submitted)
    (failed : (submitJob scheduler settings false job
      (submitAll scheduler settings false earlier (prepared site call)).state).result =
        .error failure) :
    BrokenOff scheduler settings site earlier job later failure
      ((submitter scheduler settings false).call call site) := by
  obtain ⟨made, outputs, isMade, takesAll, theirEvents⟩ := submitAll_takes succeeded
  obtain ⟨events, left, stops, ends⟩ := submitJob_stops failed
  have course : (submitter scheduler settings false).call call site =
      ⟨.error failure, takings settings earlier outputs ++ events, left⟩ := by
    rw [call_of_planned scheduler settings false site (by rw [plans]; simp), plans,
      submitAll_of_stopped succeeded failed, theirEvents, ends]
  have sameNames : left.taken = (prepared site call).taken :=
    stops.sameNames.trans takesAll.sameNames
  have placed : ∀ other ∈ earlier ++ job :: later, Job.Placed settings other := by
    intro other member
    rw [← plans] at member
    exact plannedBy_placed member
  have claimed : ∀ other ∈ earlier ++ job :: later, other.name ∈ left.taken := by
    intro other member
    rw [← plans] at member
    rw [sameNames]
    exact prepared_claims settings site call member
  have names : ((earlier ++ job :: later).map Job.name).Nodup := by
    rw [← plans]
    exact plannedBy_names_nodup settings site.taken call
  -- What lies in the files concerns only the jobs that were begun.
  have begun : (earlier ++ [job]).Sublist (earlier ++ job :: later) :=
    (List.cons_sublist_cons.mpr (List.nil_sublist later)).append_left earlier
  have begunPlaced : ∀ other ∈ earlier ++ [job], Job.Placed settings other :=
    fun other member => placed other (begun.subset member)
  have begunNames : ((earlier ++ [job]).map Job.name).Nodup := (begun.map Job.name).nodup names
  rw [course]
  constructor
  case fails => rfl
  case course =>
    refine ⟨made, outputs, _, events, isMade, ?_, stops, rfl⟩
    have sameSite : ({ site with files := made, taken := left.taken } : Site τ) =
        { prepared site call with files := made } := by
      rw [sameNames]
      rfl
    rw [sameSite]
    exact takesAll
  case runs =>
    exact ⟨_, stops.ends, by rw [List.filterMap_append, takesAll.runs]⟩
  case announced =>
    rw [List.filterMap_append, takesAll.announces, stops.announces, List.append_nil]
  case scripts =>
    intro keepsFiles
    exact scripts_lie keepsFiles begunPlaced begunNames takesAll stops
  case untouched =>
    intro keepsFiles
    exact broken_differOnlyIn keepsFiles isMade rfl begunPlaced takesAll stops
  case apart => exact scriptNames_nodup names
  case claimed => exact claimed
  case fresh =>
    intro dryRun calls next member named
    obtain ⟨other, isOther, sameName⟩ := List.mem_map.mp named
    refine planned_fresh scheduler settings dryRun left calls member ?_
    rw [← sameName]
    exact claimed other isOther

/-- A queue that takes the first of three jobs and then is down. The name of the second job had
been given before. -/
theorem call_broken_off_by_queue :
    ∃ first second third : Job, BrokenOff Scheduler.scripted Settings.standard
      ⟨⟨[], []⟩, ["metis_a_k16"],
        ⟨[.ok "Submitted batch job 7", .error (.error "queue is down")], 0⟩⟩
      [first] second [third]
      (.submission "sbatch failed for job metis_a_k16_2: queue is down")
      ((submitter Scheduler.scripted Settings.standard false).call
        ⟨(Experiment.mk 2 2 0 (-1) [4, 16, 64] 3 ["a", "a", "a"] ["a", "a", "a"]).toValue,
          .tool "metis"⟩
        ⟨⟨[], []⟩, ["metis_a_k16"],
          ⟨[.ok "Submitted batch job 7", .error (.error "queue is down")], 0⟩⟩) := by
  let jobAt := Job.planned Settings.standard
    (Experiment.mk 2 2 0 (-1) [4, 16, 64] 3 ["a", "a", "a"] ["a", "a", "a"]) (.tool "metis")
  refine ⟨jobAt 0 4 "metis_a_k4", jobAt 1 16 "metis_a_k16_2", jobAt 2 64 "metis_a_k64",
    call_broken_off _ _ _ _ [⟨jobAt 0 4 "metis_a_k4", some "7"⟩] ?plans ?succeeded ?failed⟩
  case plans => decide +kernel
  case succeeded => decide +kernel
  case failed => decide +kernel

/-- The submit command was run for a job and threw a record that stands in the way of its own text.
The failure names neither of them, though the script lies there. -/
theorem wordless_value_hides_job :
    let experiment := Experiment.ofArguments ⟨["metis"], "a.graph", [16], 1, 2⟩
    let thrown : Thrown := .other (.record [("toString", .ofInt 1)])
    let site : Site Script := ⟨⟨[], []⟩, [], ⟨[.error thrown], 0⟩⟩
    let outcome := (submitter Scheduler.scripted Settings.standard false).call
      ⟨experiment.toValue, .tool "metis"⟩ site
    outcome.result = .error (.unusable "Cannot convert object to primitive value") ∧
      outcome.events.filterMap Event.run? = [("sbatch", ["jobs/metis_a_k16.sh"])] ∧
      outcome.state.files.isThere "jobs/metis_a_k16.sh" = true := by
  decide +kernel

end Batch

end PartitionBench
