import PartitionBench.Proofs.Batch.Calls

/-!
Contract: what the submission of jobs does, step by step.

Owns:
- the writing of a script and the handing over of a job, as changes of the files and the
  queue and as events;
- the two ends of the submission of one job: the queue takes it, or it stops at one of four
  points;
- the submission of jobs one after another, up to the first that stops.

Does not own: the files themselves (`Proofs.FileTree`) and whole calls
(`Proofs.Batch.Interruption`).
-/

namespace PartitionBench

namespace Activity

variable {σ α β : Type} {step : α → Activity σ β} {state : σ}

/-! ## A step for each item -/

theorem each_cons (step : α → Activity σ β) (item : α) (rest : List α) :
    each step (item :: rest) =
      (step item >>= fun value => each step rest >>= fun values => pure (value :: values)) :=
  rfl

theorem each_cons_of_ok {item : α} {rest : List α} {value : β} {values : List β}
    (first : (step item state).result = .ok value)
    (later : (each step rest (step item state).state).result = .ok values) :
    each step (item :: rest) state =
      ⟨.ok (value :: values),
        (step item state).events ++ (each step rest (step item state).state).events,
        (each step rest (step item state).state).state⟩ := by
  rw [each_cons, bind_of_ok first, bind_of_ok later]
  simp only [pure, done, List.append_nil]

/-- Where the first item succeeds, a failure is that of the rest. -/
theorem each_cons_of_later {item : α} {rest : List α} {value : β} {failure : Failure}
    (first : (step item state).result = .ok value)
    (later : (each step rest (step item state).state).result = .error failure) :
    each step (item :: rest) state =
      ⟨.error failure,
        (step item state).events ++ (each step rest (step item state).state).events,
        (each step rest (step item state).state).state⟩ := by
  rw [each_cons, bind_of_ok first, bind_of_error later]

theorem each_cons_succeeds {item : α} {rest : List α} {values : List β}
    (succeeded : (each step (item :: rest) state).result = .ok values) :
    ∃ value others, values = value :: others ∧ (step item state).result = .ok value ∧
      (each step rest (step item state).state).result = .ok others := by
  cases first : (step item state).result with
  | error failure =>
      rw [each_cons, bind_of_error first] at succeeded
      cases succeeded
  | ok value =>
      cases later : (each step rest (step item state).state).result with
      | error failure =>
          rw [each_cons_of_later first later] at succeeded
          cases succeeded
      | ok others =>
          rw [each_cons_of_ok first later] at succeeded
          exact ⟨value, others, (Except.ok.inj succeeded).symm, rfl, rfl⟩

/-- Steps that all succeed, and then one that fails: what follows is not begun. -/
theorem each_of_stopped {front rest : List α} {item : α} {values : List β} {failure : Failure}
    (succeeded : (each step front state).result = .ok values)
    (failed : (step item (each step front state).state).result = .error failure) :
    each step (front ++ item :: rest) state =
      ⟨.error failure,
        (each step front state).events ++ (step item (each step front state).state).events,
        (step item (each step front state).state).state⟩ := by
  induction front generalizing state values with
  | nil =>
      change (step item state).result = .error failure at failed
      rw [List.nil_append, each_cons, bind_of_error failed]
      rfl
  | cons first front inductionHypothesis =>
      obtain ⟨value, others, _, begun, further⟩ := each_cons_succeeds succeeded
      rw [each_cons_of_ok begun further] at failed ⊢
      have stops := inductionHypothesis further failed
      have laterFails : (each step (front ++ item :: rest)
          (step first state).state).result = .error failure := by
        rw [stops]
      rw [List.cons_append, each_cons_of_later begun laterFails, stops, List.append_assoc]

end Activity

namespace Batch

open PartitionBench.Document Activity Scheduler

variable {τ : Type}

/-! ## Events -/

/-- The event of handing a job to the submit command. -/
def handing (settings : Settings) (job : Job) : Event :=
  .ran settings.submitCommand [job.scriptPath]

/-- The entries of the log about a job that was handed on. -/
def announcement (settings : Settings) (job : Job) (identifier : Option String) : List Event :=
  (if identifier.isNone then
    [.logged (.warning ("could not read a job id from " ++ settings.submitCommand
      ++ " output for " ++ job.name))]
  else []) ++ [.logged (.submitted job.name identifier)]

/-- The events of a job that the queue takes with the given output. -/
def taking (settings : Settings) (job : Job) (output : String) : List Event :=
  handing settings job :: announcement settings job (jobIdentifier? output)

theorem announce_eq (settings : Settings) (job : Job) (identifier : Option String)
    (site : Site τ) :
    announce settings job identifier site = ⟨.ok (), announcement settings job identifier, site⟩ := by
  cases identifier <;> rfl

/-! ## The submit command -/

section Commands

variable {scheduler : Scheduler τ} {settings : Settings} {job : Job} {site : Site τ}
  {files : FileTree} {queue : τ}

theorem handOn_of_output {output : String}
    (answered : scheduler.run site.files settings.submitCommand [job.scriptPath] site.queue =
      ⟨.ok output, files, queue⟩) :
    handOn scheduler settings job site =
      ⟨.ok ⟨job, jobIdentifier? output⟩, taking settings job output,
        { site with files := files, queue := queue }⟩ := by
  have ran : runCommand scheduler settings job site =
      ⟨.ok output, [handing settings job], { site with files := files, queue := queue }⟩ := by
    unfold runCommand
    simp only [answered]
    rfl
  have succeeded : (runCommand scheduler settings job site).result = .ok output := by rw [ran]
  unfold handOn
  rw [bind_of_ok succeeded, ran]
  have announced : (announce settings job (jobIdentifier? output)
      { site with files := files, queue := queue }).result = .ok () := by rw [announce_eq]
  rw [bind_of_ok announced, announce_eq]
  simp only [pure, done, List.append_nil]
  rfl

theorem handOn_of_failure {thrown : Thrown}
    (answered : scheduler.run site.files settings.submitCommand [job.scriptPath] site.queue =
      ⟨.error thrown, files, queue⟩) :
    handOn scheduler settings job site =
      ⟨.error (commandFailure settings job thrown), [handing settings job],
        { site with files := files, queue := queue }⟩ := by
  have ran : runCommand scheduler settings job site =
      ⟨.error (commandFailure settings job thrown), [handing settings job],
        { site with files := files, queue := queue }⟩ := by
    unfold runCommand
    simp only [answered]
    rfl
  have failed : (runCommand scheduler settings job site).result =
      .error (commandFailure settings job thrown) := by rw [ran]
  unfold handOn
  rw [bind_of_error failed, ran]

end Commands

/-! ## One job -/

/-- A fault of the files, passed on as it is. -/
def passedOn (fault : Fault) : Failure :=
  if fault.kind = .unusable then .unusable fault.text else .system fault.text

/-- The directory of a job's script is there, made if it was missing. -/
def Prepares (job : Job) (before made : FileTree) : Prop :=
  before.makeDirectories (Path.directory job.scriptPath) = (.ok (), made)

/-- The script of a job is written, into a directory that is made for it. -/
def Writes (settings : Settings) (job : Job) (before after : FileTree) : Prop :=
  ∃ made text, Prepares job before made ∧ job.script settings = .ok text ∧
    made.write job.scriptPath text = .ok after

/-- The queue takes a job: its script is written, and the submit command, run on the script
alone, answers with an output. -/
structure Takes (scheduler : Scheduler τ) (settings : Settings) (job : Job) (before : Site τ)
    (output : String) (after : Site τ) : Prop where
  answered : ∃ files, Writes settings job before.files files ∧
    scheduler.run files settings.submitCommand [job.scriptPath] before.queue =
      ⟨.ok output, after.files, after.queue⟩
  sameNames : after.taken = before.taken

/-- The submission of a job stops with a failure, after some events, and leaves a site. There
are four points at which it can: the directory, the text of the script, the file, and the
submit command. -/
inductive Stops (scheduler : Scheduler τ) (settings : Settings) (job : Job) (before : Site τ) :
    Failure → List Event → Site τ → Prop
  | directory {fault : Fault} {made : FileTree}
      (notMade : before.files.makeDirectories (Path.directory job.scriptPath) =
        (.error fault, made)) :
      Stops scheduler settings job before (passedOn fault) [] { before with files := made }
  | text {failure : Failure} {made : FileTree} (prepares : Prepares job before.files made)
      (noScript : job.script settings = .error failure) :
      Stops scheduler settings job before failure [] { before with files := made }
  | file {fault : Fault} {text : String} {made : FileTree}
      (prepares : Prepares job before.files made) (isScript : job.script settings = .ok text)
      (notWritten : made.write job.scriptPath text = .error fault) :
      Stops scheduler settings job before (passedOn fault) [] { before with files := made }
  | command {thrown : Thrown} {files left : FileTree} {queue : τ}
      (writes : Writes settings job before.files files)
      (answered : scheduler.run files settings.submitCommand [job.scriptPath] before.queue =
        ⟨.error thrown, left, queue⟩) :
      Stops scheduler settings job before (commandFailure settings job thrown)
        [handing settings job] { before with files := left, queue := queue }

theorem makeDirectories_ends (path : String) (site : Site τ) :
    (∃ made, site.files.makeDirectories path = (.ok (), made) ∧
      makeDirectories path site = ⟨.ok (), [], { site with files := made }⟩) ∨
    ∃ fault made, site.files.makeDirectories path = (.error fault, made) ∧
      makeDirectories path site = ⟨.error (passedOn fault), [], { site with files := made }⟩ := by
  cases prepared : site.files.makeDirectories path with
  | mk result made =>
      have makes : makeDirectories path site =
          ⟨faultless result, [], { site with files := made }⟩ := by
        unfold makeDirectories change
        simp only [prepared]
      cases result with
      | ok done => exact Or.inl ⟨made, rfl, makes⟩
      | error fault => exact Or.inr ⟨fault, made, rfl, makes⟩

/-- The writing of a script ends with the script in its file, or stops before the submit
command is run. -/
theorem writeScript_ends (settings : Settings) (job : Job) (site : Site τ) :
    (∃ files, Writes settings job site.files files ∧
      writeScript settings job site = ⟨.ok (), [], { site with files := files }⟩) ∨
    ∃ failure left, (∀ scheduler, Stops scheduler settings job site failure [] left) ∧
      writeScript settings job site = ⟨.error failure, [], left⟩ := by
  unfold writeScript
  rcases makeDirectories_ends (Path.directory job.scriptPath) site with
    ⟨made, prepares, makes⟩ | ⟨fault, made, notMade, fails⟩
  · have isMade : (makeDirectories (Path.directory job.scriptPath) site).result = .ok () := by
      rw [makes]
    rw [bind_of_ok isMade, makes]
    cases isScript : job.script settings with
    | error failure =>
        exact Or.inr ⟨failure, _, fun _ => Stops.text prepares isScript, rfl⟩
    | ok text =>
        cases written : made.write job.scriptPath text with
        | error fault =>
            exact Or.inr ⟨passedOn fault, _, fun _ => Stops.file prepares isScript written,
              @writeFile_of_error τ _ _ { site with files := made } _ written⟩
        | ok files =>
            exact Or.inl ⟨files, ⟨made, text, prepares, isScript, written⟩,
              @writeFile_of_ok τ _ _ { site with files := made } _ written⟩
  · have isNotMade : (makeDirectories (Path.directory job.scriptPath) site).result =
        .error (passedOn fault) := by rw [fails]
    rw [bind_of_error isNotMade, fails]
    exact Or.inr ⟨passedOn fault, _, fun _ => Stops.directory notMade, rfl⟩

/-- The submission of a job ends with the job in the queue, or stops. -/
theorem submitJob_ends (scheduler : Scheduler τ) (settings : Settings) (job : Job)
    (site : Site τ) :
    (∃ output after, Takes scheduler settings job site output after ∧
      submitJob scheduler settings false job site =
        ⟨.ok ⟨job, jobIdentifier? output⟩, taking settings job output, after⟩) ∨
    ∃ failure events left, Stops scheduler settings job site failure events left ∧
      submitJob scheduler settings false job site = ⟨.error failure, events, left⟩ := by
  rw [submitJob_of_real]
  rcases writeScript_ends settings job site with
    ⟨files, writes, isWritten⟩ | ⟨failure, left, stops, notWritten⟩
  · have succeeded : (writeScript settings job site).result = .ok () := by rw [isWritten]
    rw [bind_of_ok succeeded, isWritten]
    cases answered : scheduler.run files settings.submitCommand [job.scriptPath] site.queue with
    | mk outcome left queue =>
        cases outcome with
        | error thrown =>
            exact Or.inr ⟨_, _, _, Stops.command writes answered,
              @handOn_of_failure τ _ _ _ { site with files := files } _ _ _ answered⟩
        | ok output =>
            exact Or.inl ⟨output, { site with files := left, queue := queue },
              ⟨⟨files, writes, answered⟩, rfl⟩,
              @handOn_of_output τ _ _ _ { site with files := files } _ _ _ answered⟩
  · have failed : (writeScript settings job site).result = .error failure := by rw [notWritten]
    rw [bind_of_error failed, notWritten]
    exact Or.inr ⟨failure, [], left, stops scheduler, rfl⟩

theorem submitJob_takes {scheduler : Scheduler τ} {settings : Settings} {job : Job}
    {site : Site τ} {submitted : SubmittedJob}
    (succeeded : (submitJob scheduler settings false job site).result = .ok submitted) :
    ∃ output after, Takes scheduler settings job site output after ∧
      submitJob scheduler settings false job site =
        ⟨.ok ⟨job, jobIdentifier? output⟩, taking settings job output, after⟩ := by
  rcases submitJob_ends scheduler settings job site with takes | ⟨failure, events, left, _, stops⟩
  · exact takes
  · rw [stops] at succeeded
    cases succeeded

theorem submitJob_stops {scheduler : Scheduler τ} {settings : Settings} {job : Job}
    {site : Site τ} {failure : Failure}
    (failed : (submitJob scheduler settings false job site).result = .error failure) :
    ∃ events left, Stops scheduler settings job site failure events left ∧
      submitJob scheduler settings false job site = ⟨.error failure, events, left⟩ := by
  rcases submitJob_ends scheduler settings job site with
    ⟨output, after, _, takes⟩ | ⟨other, events, left, stops, ends⟩
  · rw [takes] at failed
    cases failed
  · rw [ends] at failed
    cases failed
    exact ⟨events, left, stops, ends⟩

/-! ## Jobs one after another -/

/-- The queue takes jobs one after another, with an output for each. -/
inductive TakesAll (scheduler : Scheduler τ) (settings : Settings) :
    Site τ → List Job → List String → Site τ → Prop
  | nil (site : Site τ) : TakesAll scheduler settings site [] [] site
  | cons {before middle after : Site τ} {job : Job} {jobs : List Job} {output : String}
      {outputs : List String} (takes : Takes scheduler settings job before output middle)
      (takesRest : TakesAll scheduler settings middle jobs outputs after) :
      TakesAll scheduler settings before (job :: jobs) (output :: outputs) after

/-- The events of jobs that the queue takes one after another. -/
def takings (settings : Settings) (jobs : List Job) (outputs : List String) : List Event :=
  (List.zipWith (taking settings) jobs outputs).flatten

theorem each_takes {scheduler : Scheduler τ} {settings : Settings} {jobs : List Job}
    {site : Site τ} {submitted : List SubmittedJob}
    (succeeded : (each (submitJob scheduler settings false) jobs site).result = .ok submitted) :
    ∃ outputs, TakesAll scheduler settings site jobs outputs
        (each (submitJob scheduler settings false) jobs site).state ∧
      (each (submitJob scheduler settings false) jobs site).events =
        takings settings jobs outputs := by
  induction jobs generalizing site submitted with
  | nil => exact ⟨[], TakesAll.nil site, rfl⟩
  | cons job rest inductionHypothesis =>
      obtain ⟨value, others, _, first, later⟩ := each_cons_succeeds succeeded
      obtain ⟨output, after, takes, isTaken⟩ := submitJob_takes first
      obtain ⟨outputs, takesRest, theirEvents⟩ := inductionHypothesis later
      rw [each_cons_of_ok first later, theirEvents]
      rw [isTaken] at takesRest ⊢
      exact ⟨output :: outputs, TakesAll.cons takes takesRest, rfl⟩

/-- Whatever comes of jobs, the directory of the results was made before the first of them, or
none of them was begun. -/
theorem submitAll_ends (scheduler : Scheduler τ) (settings : Settings) (dryRun : Bool)
    (site : Site τ) :
    (∃ made, site.files.makeDirectories settings.outputDirectory = (.ok (), made) ∧
      ∀ jobs, submitAll scheduler settings dryRun jobs site =
        each (submitJob scheduler settings dryRun) jobs { site with files := made }) ∨
    ∃ fault made, site.files.makeDirectories settings.outputDirectory = (.error fault, made) ∧
      ∀ jobs, submitAll scheduler settings dryRun jobs site =
        ⟨.error (passedOn fault), [], { site with files := made }⟩ := by
  rcases makeDirectories_ends settings.outputDirectory site with
    ⟨made, prepared, makes⟩ | ⟨fault, made, notMade, fails⟩
  · have isMade : (makeDirectories settings.outputDirectory site).result = .ok () := by rw [makes]
    refine Or.inl ⟨made, prepared, fun jobs => ?_⟩
    unfold submitAll
    rw [bind_of_ok isMade, makes]
    rfl
  · have isNotMade : (makeDirectories settings.outputDirectory site).result =
        .error (passedOn fault) := by rw [fails]
    refine Or.inr ⟨fault, made, notMade, fun jobs => ?_⟩
    unfold submitAll
    rw [bind_of_error isNotMade, fails]

/-- A submission that succeeds has made the directory of the results and brought every job
into the queue. -/
theorem submitAll_takes {scheduler : Scheduler τ} {settings : Settings} {jobs : List Job}
    {site : Site τ} {submitted : List SubmittedJob}
    (succeeded : (submitAll scheduler settings false jobs site).result = .ok submitted) :
    ∃ made outputs, site.files.makeDirectories settings.outputDirectory = (.ok (), made) ∧
      TakesAll scheduler settings { site with files := made } jobs outputs
        (submitAll scheduler settings false jobs site).state ∧
      (submitAll scheduler settings false jobs site).events = takings settings jobs outputs := by
  rcases submitAll_ends scheduler settings false site with
    ⟨made, prepared, begins⟩ | ⟨fault, made, _, begins⟩
  · rw [begins] at succeeded ⊢
    obtain ⟨outputs, takesAll, events⟩ := each_takes succeeded
    exact ⟨made, outputs, prepared, takesAll, events⟩
  · rw [begins] at succeeded
    cases succeeded

/-- Jobs that all succeed, and then one that stops: those behind it are not begun. -/
theorem submitAll_of_stopped {scheduler : Scheduler τ} {settings : Settings}
    {earlier later : List Job} {job : Job} {site : Site τ} {submitted : List SubmittedJob}
    {failure : Failure}
    (succeeded : (submitAll scheduler settings false earlier site).result = .ok submitted)
    (failed : (submitJob scheduler settings false job
      (submitAll scheduler settings false earlier site).state).result = .error failure) :
    submitAll scheduler settings false (earlier ++ job :: later) site =
      ⟨.error failure,
        (submitAll scheduler settings false earlier site).events ++
          (submitJob scheduler settings false job
            (submitAll scheduler settings false earlier site).state).events,
        (submitJob scheduler settings false job
          (submitAll scheduler settings false earlier site).state).state⟩ := by
  rcases submitAll_ends scheduler settings false site with
    ⟨made, _, begins⟩ | ⟨fault, made, _, begins⟩
  · simp only [begins] at succeeded failed ⊢
    exact each_of_stopped succeeded failed
  · rw [begins] at succeeded
    cases succeeded

end Batch

end PartitionBench
