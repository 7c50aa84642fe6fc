import PartitionBench.Batch

/-!
Contract: what a call of the batch submitter comes down to.

Owns:
- a refused call, which does nothing, and an accepted one, which submits the jobs of its
  plan with all their names taken;
- what the writing of a file and of a script comes to, and the two ways to submit a job;
- what the steps of a submission leave alone: behind the planning, the names above all;
- that a call which succeeds gives back the jobs of its plan.

Does not own: what the submission of a job does to the files (`Proofs.Batch.Scripts`).
-/

namespace PartitionBench.Batch

open PartitionBench.Document Activity

variable {τ : Type}

/-! ## The two kinds of call -/

theorem submit_of_refused (scheduler : Scheduler τ) (settings : Settings) (dryRun : Bool)
    {descriptor : Value} (target : Target) (site : Site τ) {failure : Failure}
    (refused : accepted descriptor = .error failure) :
    submit scheduler settings dryRun descriptor target site = ⟨.error failure, [], site⟩ := by
  have notRead : ((ofResult (accepted descriptor) : Activity (Site τ) Experiment) site).result =
      .error failure := refused
  unfold submit
  rw [bind_of_error notRead]
  rfl

theorem submit_of_accepted (scheduler : Scheduler τ) (settings : Settings) (dryRun : Bool)
    {descriptor : Value} (target : Target) (site : Site τ) {experiment : Experiment}
    (isAccepted : accepted descriptor = .ok experiment) :
    submit scheduler settings dryRun descriptor target site =
      submitAll scheduler settings dryRun (Job.plan settings experiment target site.taken).1
        { site with taken := (Job.plan settings experiment target site.taken).2 } := by
  have read : ((ofResult (accepted descriptor) : Activity (Site τ) Experiment) site).result =
      .ok experiment := isAccepted
  have plans : (planJobs settings experiment target site).result =
      .ok (Job.plan settings experiment target site.taken).1 := rfl
  have goesOn : (planJobs settings experiment target >>=
        submitAll scheduler settings dryRun) site =
      submitAll scheduler settings dryRun (Job.plan settings experiment target site.taken).1
        { site with taken := (Job.plan settings experiment target site.taken).2 } := by
    rw [bind_of_ok plans]
    rfl
  unfold submit
  rw [bind_of_ok read]
  exact goesOn

/-! ## Files -/

theorem writeFile_of_ok {path text : String} {site : Site τ} {files : FileTree}
    (written : site.files.write path text = .ok files) :
    writeFile path text site = ⟨.ok (), [], { site with files := files }⟩ := by
  unfold writeFile change
  simp only [faultless, written]

theorem writeFile_of_error {path text : String} {site : Site τ} {fault : Fault}
    (notWritten : site.files.write path text = .error fault) :
    writeFile path text site = ⟨faultless (.error fault), [], site⟩ := by
  unfold writeFile change
  simp only [faultless, notWritten]

/-- To write a script is to make its directory, and then to fail or to write the text of the
script. -/
theorem writeScript_cases (settings : Settings) (job : Job) (site : Site τ) :
    (∃ failure, writeScript settings job site =
      ⟨.error failure, [], (makeDirectories (Path.directory job.scriptPath) site).state⟩) ∨
    ∃ text, job.script settings = .ok text ∧ writeScript settings job site =
      writeFile job.scriptPath text (makeDirectories (Path.directory job.scriptPath) site).state := by
  unfold writeScript
  cases ended : (makeDirectories (Path.directory job.scriptPath) site).result with
  | error failure => exact Or.inl ⟨failure, bind_of_error ended⟩
  | ok done =>
      rw [bind_of_ok ended]
      cases isScript : job.script settings with
      | error failure => exact Or.inl ⟨failure, rfl⟩
      | ok text => exact Or.inr ⟨text, rfl, rfl⟩

theorem submitJob_of_dryRun (scheduler : Scheduler τ) (settings : Settings) (job : Job) :
    submitJob scheduler settings true job = (writeScript settings job >>= fun _ =>
      log (.written job.name) >>= fun _ => pure ⟨job, none⟩) :=
  rfl

theorem submitJob_of_real (scheduler : Scheduler τ) (settings : Settings) (job : Job) :
    submitJob scheduler settings false job =
      (writeScript settings job >>= fun _ => handOn scheduler settings job) :=
  rfl

/-! ## What is left alone -/

section Keeps

variable {α : Type} {view : Site τ → α}

theorem makeDirectories_keeps
    (ignoresFiles : ∀ site files, view { site with files := files } = view site) (path : String) :
    (makeDirectories path : Activity (Site τ) Unit).Keeps view :=
  fun site => ignoresFiles site _

theorem writeFile_keeps
    (ignoresFiles : ∀ site files, view { site with files := files } = view site)
    (path text : String) : (writeFile path text : Activity (Site τ) Unit).Keeps view := by
  intro site
  cases written : site.files.write path text with
  | ok files =>
      rw [writeFile_of_ok written]
      exact ignoresFiles site files
  | error fault => rw [writeFile_of_error written]

/-- The writing of a script changes the files and nothing else. -/
theorem writeScript_keeps
    (ignoresFiles : ∀ site files, view { site with files := files } = view site)
    (settings : Settings) (job : Job) :
    (writeScript settings job : Activity (Site τ) Unit).Keeps view := by
  unfold writeScript
  refine keeps_bind (makeDirectories_keeps ignoresFiles _) fun made => ?_
  exact keeps_bind (keeps_ofResult _) fun text => writeFile_keeps ignoresFiles _ text

/-- To announce a job changes nothing. -/
theorem announce_keeps (settings : Settings) (job : Job) (identifier : Option String) :
    (announce settings job identifier : Activity (Site τ) Unit).Keeps view := by
  unfold announce
  dsimp only
  split
  · exact keeps_bind (keeps_log _) fun _ => keeps_log _
  · exact keeps_log _

end Keeps

theorem submitJob_keeps_taken (scheduler : Scheduler τ) (settings : Settings) (dryRun : Bool)
    (job : Job) : (submitJob scheduler settings dryRun job).Keeps Site.taken := by
  have byScript : (writeScript settings job : Activity (Site τ) Unit).Keeps Site.taken :=
    writeScript_keeps (fun _ _ => rfl) settings job
  cases dryRun with
  | true =>
      rw [submitJob_of_dryRun]
      exact keeps_bind byScript fun _ => keeps_bind (keeps_log _) fun _ => keeps_pure _
  | false =>
      rw [submitJob_of_real]
      refine keeps_bind byScript fun _ => ?_
      unfold handOn
      refine keeps_bind (fun site => rfl) fun output => ?_
      exact keeps_bind (announce_keeps settings job _) fun _ => keeps_pure _

/-- Once the jobs are planned, no step of their submission gives or frees a name. -/
theorem submitAll_keeps_taken (scheduler : Scheduler τ) (settings : Settings) (dryRun : Bool)
    (jobs : List Job) : (submitAll scheduler settings dryRun jobs).Keeps Site.taken := by
  unfold submitAll
  refine keeps_bind (makeDirectories_keeps (fun _ _ => rfl) _) fun made => ?_
  exact keeps_each (submitJob_keeps_taken scheduler settings dryRun) jobs

/-! ## The jobs given back -/

theorem submitJob_gives (scheduler : Scheduler τ) (settings : Settings) (dryRun : Bool)
    (job : Job) :
    (submitJob scheduler settings dryRun job).Gives fun submitted => submitted.job = job := by
  cases dryRun with
  | true =>
      rw [submitJob_of_dryRun]
      exact gives_bind fun written => gives_bind fun logged => gives_pure rfl
  | false =>
      rw [submitJob_of_real]
      unfold handOn
      exact gives_bind fun written => gives_bind fun output => gives_bind fun announced =>
        gives_pure rfl

theorem submitAll_gives (scheduler : Scheduler τ) (settings : Settings) (dryRun : Bool)
    (jobs : List Job) :
    (submitAll scheduler settings dryRun jobs).Gives
      fun submitted => submitted.map SubmittedJob.job = jobs := by
  unfold submitAll
  exact gives_bind fun made => gives_each (submitJob_gives scheduler settings dryRun) jobs

end PartitionBench.Batch
