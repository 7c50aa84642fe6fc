import PartitionBench.Proofs.Batch.Planning
import PartitionBench.Proofs.Batch.Submission

/-!
Contract: the program that a tool is submitted with.

Owns:
- the documented program of a tool, and when it is the one that is planned;
- the words and the script of a planned job, which there are when its program is a text;
- calls in whose way nothing stands: neither the files nor the submit command;
- that such a call for a tool submits every job with the documented program, unless the tool has
  a name that every table answers and no program was configured for it.

Does not own: what the check of descriptors accepts (`Proofs.Experiment`).
-/

namespace PartitionBench

namespace Job

open PartitionBench.Numeric

/-! ## Programs -/

/-- The program that is documented for a tool: the one configured for it, else its own, else the
one for competitors. -/
def documentedProgram (settings : Settings) (tool : String) : String :=
  (Table.find? settings.executables tool).getD
    (if tool = ownTool then ownTool else settings.competitorsExecutable)

theorem toolProgram_of_documented {settings : Settings} {tool : String}
    (notBuiltin : Table.lookUp settings.executables tool ≠ .builtin) :
    toolProgram settings tool = some (documentedProgram settings tool) := by
  cases found : Table.find? settings.executables tool with
  | some configured => simp [toolProgram, documentedProgram, Table.lookUp, found]
  | none =>
      have isOrdinary : (Table.builtinText? tool).isSome = false := by
        simpa [Table.lookUp, found] using notBuiltin
      have nothing : Table.lookUp settings.executables tool = .nothing := by
        simp [Table.lookUp, found, isOrdinary]
      rw [toolProgram, documentedProgram, nothing, found]
      by_cases isOwn : tool = ownTool <;> simp [isOwn]

theorem toolProgram_of_builtin {settings : Settings} {tool : String}
    (isBuiltin : Table.lookUp settings.executables tool = .builtin) :
    toolProgram settings tool = none := by
  rw [toolProgram, isBuiltin]

/-! ## Words and scripts -/

theorem texts?_map_some (words : List String) : texts? (words.map some) = some words := by
  induction words with
  | nil => rfl
  | cons word words inductionHypothesis =>
      rw [texts?] at inductionHypothesis
      rw [List.map_cons, texts?, List.mapM_cons, inductionHypothesis]
      rfl

/-- The words of a planned command are all texts when its program is one, and the program is the
fourth of them. -/
theorem planned_texts {settings : Settings} {target : Target} {word : String}
    (isProgram : program settings target = some word) (experiment : Experiment) (place : Nat)
    (blockCount : Int) (name : String) :
    ∃ words, texts? (planned settings experiment target place blockCount name).command =
        some words ∧ words[3]? = some word := by
  refine ⟨[settings.launcher, "-n", integerText blockCount, word] ++
    (inputArguments settings experiment place blockCount ++ ownArguments settings target ++
      ["--outFile", resultFile settings name]), ?_, rfl⟩
  rw [← texts?_map_some, List.map_append]
  simp only [planned, commandWords, isProgram, List.map_cons, List.map_nil]

theorem planned_noScript {settings : Settings} {target : Target}
    (noProgram : program settings target = none) (experiment : Experiment) (place : Nat)
    (blockCount : Int) (name : String) :
    (planned settings experiment target place blockCount name).script settings =
      .error (.unusable "word.replace is not a function") := by
  have noTexts : texts? (planned settings experiment target place blockCount name).command =
      none := by
    simp [texts?, planned, commandWords, noProgram, List.mapM_cons]
  rw [script, noTexts]

theorem script_of_texts {settings : Settings} {job : Job} {words : List String}
    (areTexts : texts? job.command = some words) :
    job.script settings = .ok (scriptOf settings job words) := by
  rw [script, areTexts]

end Job

namespace Batch

open PartitionBench.Document Activity Scheduler

variable {τ : Type} {scheduler : Scheduler τ} {settings : Settings} {dryRun : Bool}

/-! ## Nothing in the way -/

/-- Nothing outside stands in the way of a job: its directory can be made, its script, if there is
one, can be written there, and the submit command, if it is run, answers. -/
structure Free (scheduler : Scheduler τ) (settings : Settings) (dryRun : Bool) (job : Job)
    (before : Site τ) : Prop where
  directory : ∃ made, Prepares job before.files made
  file : ∀ made text, Prepares job before.files made → job.script settings = .ok text →
    ∃ files, made.write job.scriptPath text = .ok files
  command : dryRun = false → ∀ files, Writes settings job before.files files →
    ∃ output, (scheduler.run files settings.submitCommand [job.scriptPath] before.queue).outcome =
      .ok output

/-- Nothing stands in the way of jobs that are submitted one after another. -/
inductive AllFree (scheduler : Scheduler τ) (settings : Settings) (dryRun : Bool) :
    List Job → Site τ → Prop
  | nil (site : Site τ) : AllFree scheduler settings dryRun [] site
  | cons {job : Job} {jobs : List Job} {before : Site τ}
      (free : Free scheduler settings dryRun job before)
      (rest : AllFree scheduler settings dryRun jobs
        (submitJob scheduler settings dryRun job before).state) :
      AllFree scheduler settings dryRun (job :: jobs) before

/-- Nothing stands in the way of jobs and of the directory of their results. -/
structure Unhindered (scheduler : Scheduler τ) (settings : Settings) (dryRun : Bool)
    (jobs : List Job) (before : Site τ) : Prop where
  output : ∃ made, before.files.makeDirectories settings.outputDirectory = (.ok (), made)
  jobs : ∀ made, before.files.makeDirectories settings.outputDirectory = (.ok (), made) →
    AllFree scheduler settings dryRun jobs { before with files := made }

theorem Free.writes {job : Job} {before : Site τ} {text : String}
    (free : Free scheduler settings dryRun job before) (isScript : job.script settings = .ok text) :
    ∃ files, Writes settings job before.files files ∧
      writeScript settings job before = ⟨.ok (), [], { before with files := files }⟩ := by
  rcases writeScript_ends settings job before with writes | ⟨failure, left, stops, _⟩
  · exact writes
  · cases stops scheduler with
    | directory notMade =>
        obtain ⟨made, prepares⟩ := free.directory
        rw [Prepares, notMade] at prepares
        cases prepares
    | text _ noScript =>
        rw [isScript] at noScript
        cases noScript
    | file prepares alsoScript notWritten =>
        obtain ⟨files, written⟩ := free.file _ _ prepares alsoScript
        rw [notWritten] at written
        cases written

theorem Free.submits {job : Job} {before : Site τ} {text : String}
    (free : Free scheduler settings dryRun job before) (isScript : job.script settings = .ok text) :
    ∃ submitted, (submitJob scheduler settings dryRun job before).result = .ok submitted := by
  obtain ⟨files, writes, isWritten⟩ := free.writes isScript
  have succeeded : (writeScript settings job before).result = .ok () := by rw [isWritten]
  cases dryRun with
  | true =>
      rw [submitJob_of_dryRun, bind_of_ok succeeded]
      exact ⟨⟨job, none⟩, rfl⟩
  | false =>
      obtain ⟨output, answered⟩ := free.command rfl files writes
      rw [submitJob_of_real, bind_of_ok succeeded, isWritten]
      cases ran : scheduler.run files settings.submitCommand [job.scriptPath] before.queue with
      | mk outcome left queue =>
          rw [ran] at answered
          cases answered
          have handed := @handOn_of_output τ scheduler settings job { before with files := files }
            left queue output ran
          exact ⟨⟨job, jobIdentifier? output⟩, congrArg Outcome.result handed⟩

theorem Free.notWritten {job : Job} {before : Site τ} {failure : Failure}
    (free : Free scheduler settings dryRun job before)
    (noScript : job.script settings = .error failure) :
    (writeScript settings job before).result = .error failure := by
  rcases writeScript_ends settings job before with ⟨files, writes, _⟩ | ⟨other, left, stops, ended⟩
  · obtain ⟨made, text, _, isScript, _⟩ := writes
    rw [noScript] at isScript
    cases isScript
  · rw [ended]
    cases stops scheduler with
    | directory notMade =>
        obtain ⟨made, prepares⟩ := free.directory
        rw [Prepares, notMade] at prepares
        cases prepares
    | text _ alsoNoScript =>
        rw [noScript] at alsoNoScript
        cases alsoNoScript
        rfl
    | file _ isScript _ =>
        rw [noScript] at isScript
        cases isScript

theorem Free.stops {job : Job} {before : Site τ} {failure : Failure}
    (free : Free scheduler settings dryRun job before)
    (noScript : job.script settings = .error failure) :
    (submitJob scheduler settings dryRun job before).result = .error failure := by
  have notWritten := free.notWritten noScript
  cases dryRun with
  | true => rw [submitJob_of_dryRun, bind_of_error notWritten]
  | false => rw [submitJob_of_real, bind_of_error notWritten]

theorem AllFree.submits {jobs : List Job} {before : Site τ}
    (allFree : AllFree scheduler settings dryRun jobs before)
    (scripts : ∀ job ∈ jobs, ∃ text, job.script settings = .ok text) :
    ∃ submitted, (each (submitJob scheduler settings dryRun) jobs before).result =
      .ok submitted := by
  induction allFree with
  | nil site => exact ⟨[], rfl⟩
  | @cons job jobs before free rest inductionHypothesis =>
      obtain ⟨⟨text, isScript⟩, others⟩ := List.forall_mem_cons.mp scripts
      obtain ⟨submitted, first⟩ := free.submits isScript
      obtain ⟨more, later⟩ := inductionHypothesis others
      rw [each_cons_of_ok first later]
      exact ⟨submitted :: more, rfl⟩

theorem AllFree.stops {job : Job} {jobs : List Job} {before : Site τ} {failure : Failure}
    (allFree : AllFree scheduler settings dryRun (job :: jobs) before)
    (noScript : job.script settings = .error failure) :
    (each (submitJob scheduler settings dryRun) (job :: jobs) before).result = .error failure := by
  cases allFree with
  | cons free _ => rw [each_cons, bind_of_error (free.stops noScript)]

/-! ## Calls for a tool -/

/-- What is documented of the jobs that a call for a tool submits: there is one for each block
count, and in each command all words are texts and the fourth is the documented program. -/
structure Documented (settings : Settings) (experiment : Experiment) (tool : String)
    (jobs : List Job) : Prop where
  blockCounts : jobs.map Job.blockCount = experiment.blockCounts
  words : ∀ job ∈ jobs, ∃ words, Job.texts? job.command = some words ∧
    words[3]? = some (Job.documentedProgram settings tool)

theorem plan_documented {tool : String}
    (notBuiltin : Table.lookUp settings.executables tool ≠ .builtin) (experiment : Experiment)
    (taken : List String) :
    Documented settings experiment tool (Job.plan settings experiment (.tool tool) taken).1 where
  blockCounts := Job.planFrom_blockCounts settings experiment (.tool tool) 0 _ taken
  words := by
    intro job member
    obtain ⟨place, blockCount, before, rfl⟩ := Job.planFrom_members member
    have isProgram : Job.program settings (.tool tool) =
        some (Job.documentedProgram settings tool) := Job.toolProgram_of_documented notBuiltin
    exact Job.planned_texts isProgram experiment place blockCount _

theorem plan_noScripts {tool : String}
    (isBuiltin : Table.lookUp settings.executables tool = .builtin) (experiment : Experiment)
    (taken : List String) :
    ∀ job ∈ (Job.plan settings experiment (.tool tool) taken).1,
      job.script settings = .error (.unusable "word.replace is not a function") := by
  intro job member
  obtain ⟨place, blockCount, before, rfl⟩ := Job.planFrom_members member
  have noProgram : Job.program settings (.tool tool) = none :=
    Job.toolProgram_of_builtin isBuiltin
  exact Job.planned_noScript noProgram experiment place blockCount _

/-- **A tool is submitted with its documented program unless every table answers its name.** Let a
descriptor be accepted, and nothing stand in the way of the jobs that are planned for a tool. When
the look-up of its program finds what was configured or nothing, the call succeeds and the jobs are
as documented. When it finds one of the entries that every table has, the call fails because a word
of the command is no text. -/
theorem unhindered_call_documented_iff (scheduler : Scheduler τ) (settings : Settings)
    (dryRun : Bool) {descriptor : Value} {experiment : Experiment}
    (isAccepted : accepted descriptor = .ok experiment) (tool : String) (site : Site τ)
    (unhindered : let plan := Job.plan settings experiment (.tool tool) site.taken
      Unhindered scheduler settings dryRun plan.1 { site with taken := plan.2 }) :
    (Table.lookUp settings.executables tool ≠ .builtin →
      ∃ submitted, ((submitter scheduler settings dryRun).submit descriptor (.tool tool)
          site).result = .ok submitted ∧
        Documented settings experiment tool (submitted.map SubmittedJob.job)) ∧
    (Table.lookUp settings.executables tool = .builtin →
      ((submitter scheduler settings dryRun).submit descriptor (.tool tool) site).result =
        .error (.unusable "word.replace is not a function")) := by
  have planned : (submitter scheduler settings dryRun).submit descriptor (.tool tool) site =
      submitAll scheduler settings dryRun (Job.plan settings experiment (.tool tool) site.taken).1
        { site with taken := (Job.plan settings experiment (.tool tool) site.taken).2 } :=
    submit_of_accepted scheduler settings dryRun (.tool tool) site isAccepted
  have blockCounts : (Job.plan settings experiment (.tool tool) site.taken).1.map Job.blockCount =
      experiment.blockCounts :=
    Job.planFrom_blockCounts settings experiment (.tool tool) 0 _ site.taken
  rw [planned]
  dsimp only at unhindered
  generalize { site with taken := (Job.plan settings experiment (.tool tool) site.taken).2 } =
    before at *
  rcases submitAll_ends scheduler settings dryRun before with
    ⟨made, isMade, begins⟩ | ⟨fault, _, notMade, _⟩
  · have allFree := unhindered.jobs made isMade
    rw [begins]
    constructor
    · intro notBuiltin
      have documented := plan_documented notBuiltin experiment site.taken
      have scripts : ∀ job ∈ (Job.plan settings experiment (.tool tool) site.taken).1,
          ∃ text, job.script settings = .ok text := by
        intro job member
        obtain ⟨words, areTexts, _⟩ := documented.words job member
        exact ⟨_, Job.script_of_texts areTexts⟩
      obtain ⟨submitted, succeeded⟩ := allFree.submits scripts
      have given := gives_each (submitJob_gives scheduler settings dryRun) _ _ _ succeeded
      exact ⟨submitted, succeeded, given ▸ documented⟩
    · intro isBuiltin
      have noScripts := plan_noScripts isBuiltin experiment site.taken
      cases jobs : (Job.plan settings experiment (.tool tool) site.taken).1 with
      | nil =>
          rw [jobs] at blockCounts
          exact absurd blockCounts.symm (describes_of_accepted isAccepted).notEmpty
      | cons job rest =>
          rw [jobs] at allFree noScripts
          exact allFree.stops (noScripts job List.mem_cons_self)
  · obtain ⟨made, isMade⟩ := unhindered.output
    rw [notMade] at isMade
    cases isMade

/-- A configured program, on an empty tree of files and with a queue that answers. -/
theorem unhindered_call_documented_configured :
    let settings : Settings := { executables := [("metis", "gpmetis")] }
    let experiment : Experiment := ⟨2, 2, 0, -1, [4], 1, ["a"], ["a"]⟩
    let site : Site Scheduler.Script := ⟨⟨[], []⟩, [], ⟨[.ok "Submitted batch job 7"], 0⟩⟩
    ∃ submitted, ((submitter Scheduler.scripted settings false).submit experiment.toValue
        (.tool "metis") site).result = .ok submitted ∧
      Documented settings experiment "metis" (submitted.map SubmittedJob.job) ∧
      Job.documentedProgram settings "metis" = "gpmetis" := by
  intro settings experiment site
  have isAccepted : accepted experiment.toValue = .ok experiment := by decide +kernel
  obtain ⟨job, plan, scriptPath⟩ : ∃ job,
      Job.plan settings experiment (.tool "metis") [] = ([job], ["metis_a_k4"]) ∧
        job.scriptPath = "jobs/metis_a_k4.sh" :=
    ⟨Job.planned settings experiment (.tool "metis") 0 4 "metis_a_k4", by decide +kernel,
      by decide +kernel⟩
  obtain ⟨made, prepared, output, jobs, located⟩ : ∃ made prepared : FileTree,
      site.files.makeDirectories settings.outputDirectory = (.ok (), made) ∧
        made.makeDirectories (Path.directory "jobs/metis_a_k4.sh") = (.ok (), prepared) ∧
        prepared.locate "jobs/metis_a_k4.sh" = .ok (["jobs", "metis_a_k4.sh"], none) :=
    ⟨⟨[(["output"], .directory)], []⟩, ⟨[(["output"], .directory), (["jobs"], .directory)], []⟩,
      by decide +kernel, by decide +kernel, by decide +kernel⟩
  have unhindered : Unhindered Scheduler.scripted settings false [job]
      { site with taken := ["metis_a_k4"] } := by
    refine ⟨⟨made, output⟩, ?_⟩
    intro alsoMade isMade
    rw [output] at isMade
    cases isMade
    refine AllFree.cons ⟨⟨prepared, ?_⟩, ?_, ?_⟩ (AllFree.nil _)
    · rw [Prepares, scriptPath]
      exact jobs
    · intro alsoPrepared text prepares _
      rw [Prepares, scriptPath, jobs] at prepares
      cases prepares
      exact ⟨_, by rw [scriptPath, FileTree.write, located]⟩
    · exact fun _ _ _ => ⟨"Submitted batch job 7", rfl⟩
  obtain ⟨submitted, succeeded, documented⟩ := (unhindered_call_documented_iff Scheduler.scripted
    settings false isAccepted "metis" site (plan ▸ unhindered)).1 (by decide +kernel)
  exact ⟨submitted, succeeded, documented, by decide⟩

/-- A tool is called like an entry that every table has, and nothing is configured for it. -/
theorem call_for_builtin_name_fails :
    let experiment : Experiment := ⟨2, 2, 0, -1, [4], 1, ["a"], ["a"]⟩
    let site : Site Scheduler.Script := ⟨⟨[], []⟩, [], ⟨[], 0⟩⟩
    (Settings.check (.record [])).accepted = .ok Settings.standard ∧
      accepted experiment.toValue = .ok experiment ∧
      Job.documentedProgram Settings.standard "constructor" = "competitorsMain" ∧
      ((submitter Scheduler.scripted Settings.standard true).submit experiment.toValue
        (.tool "constructor") site).result =
          .error (.unusable "word.replace is not a function") := by
  decide +kernel

end Batch

end PartitionBench
