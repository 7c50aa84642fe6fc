import PartitionBench.Proofs.Batch.Planning
import PartitionBench.Proofs.Batch.Watch
import PartitionBench.Proofs.FileTree

/-!
Contract: the scheduler is always handed the right script.

Owns:
- what a job's script holds, and which steps leave it as it is;
- what a step does for a list of jobs: which of them were handed on, with what record, and
  what became of the scripts of all others;
- that over any sequence of calls each job handed on had its own script then and has it
  at the end.

Does not own: the tree of files (`Proofs.FileTree`) and the names (`Proofs.Job.Plan`).
-/

namespace PartitionBench.Batch

open PartitionBench.Document Activity Scheduler

variable {τ α β : Type}

/-! ## The script of a job -/

/-- The script of a job lies where the job says. -/
def Holds (settings : Settings) (files : FileTree) (job : Job) : Prop :=
  ∃ text, job.script settings = .ok text ∧ files.contents job.scriptPath = .ok (.text text)

/-- A run of the submit command is for a job: it is given the path of the job's script
alone, and finds the script there. -/
structure Receives (settings : Settings) (job : Job) (invocation : Invocation) : Prop where
  command : invocation.command = settings.submitCommand
  arguments : invocation.arguments = [job.scriptPath]
  script : Holds settings invocation.files job

theorem Holds.extends {settings : Settings} {files after : FileTree} {job : Job}
    (holds : Holds settings files job) (extension : files.Extends after) :
    Holds settings after job := by
  obtain ⟨text, isScript, held⟩ := holds
  exact ⟨text, isScript, FileTree.contents_extends extension held⟩

/-- Writing the script of one job leaves that of every job with another name. -/
theorem Holds.write_other {settings : Settings} {files after : FileTree} {job other : Job}
    {text : String} (placed : Job.Placed settings job) (otherPlaced : Job.Placed settings other)
    (different : other.name ≠ job.name)
    (written : files.write job.scriptPath text = .ok after)
    (holds : Holds settings files other) : Holds settings after other := by
  obtain ⟨otherText, isScript, held⟩ := holds
  refine ⟨otherText, isScript, FileTree.contents_write_other written held ?_⟩
  intro location leads otherLeads
  rw [placed.script] at leads
  rw [otherPlaced.script] at otherLeads
  have sameFile := FileTree.leadsTo_fileName_injective
    (Job.extended_isFileName otherPlaced.noSlash Job.script_isEnding)
    (Job.extended_isFileName placed.noSlash Job.script_isEnding) otherLeads leads
  exact different ((String.append_left_inj ".sh").mp sameFile)

/-! ## Progress -/

/-- From one site to another some jobs were handed on, and no script was touched but those
of the jobs given. -/
structure Progress (settings : Settings) (before : WatchedSite τ) (jobs handed : List Job)
    (after : WatchedSite τ) : Prop where
  recorded : ∃ added, after.queue.2 = before.queue.2 ++ added ∧
    List.Forall₂ (Receives settings) handed added
  held : ∀ job ∈ handed, Holds settings after.files job
  kept : ∀ other, Job.Placed settings other → other.name ∉ jobs.map Job.name →
    Holds settings before.files other → Holds settings after.files other

section Progress

variable {settings : Settings} {before middle after : WatchedSite τ}
  {jobs handed moreJobs moreHanded : List Job}

/-- Where the record stays and the files are only added to, there is progress for no job. -/
theorem progress_of_extends (sameRecord : after.queue.2 = before.queue.2)
    (extension : before.files.Extends after.files) : Progress settings before [] [] after where
  recorded := ⟨[], by rw [sameRecord, List.append_nil], List.Forall₂.nil⟩
  held := List.forall_mem_nil _
  kept := fun _ _ _ holds => holds.extends extension

theorem progress_refl (site : WatchedSite τ) : Progress settings site [] [] site :=
  progress_of_extends rfl (FileTree.Extends.refl site.files)

/-- Progress for some jobs is progress for more of them. -/
theorem Progress.widen (progress : Progress settings before jobs handed after)
    (moreJobs : List Job) : Progress settings before (jobs ++ moreJobs) handed after where
  recorded := progress.recorded
  held := progress.held
  kept := by
    intro other placed notNamed
    refine progress.kept other placed fun named => notNamed ?_
    rw [List.map_append]
    exact List.mem_append_left _ named

/-- Progress after progress: the scripts handed on first stay, because the jobs that follow
have other names. -/
theorem Progress.trans (first : Progress settings before jobs handed middle)
    (second : Progress settings middle moreJobs moreHanded after)
    (placed : ∀ job ∈ handed, Job.Placed settings job)
    (fresh : ∀ job ∈ handed, job.name ∉ moreJobs.map Job.name) :
    Progress settings before (jobs ++ moreJobs) (handed ++ moreHanded) after where
  recorded := by
    obtain ⟨added, isAdded, received⟩ := first.recorded
    obtain ⟨more, isMore, moreReceived⟩ := second.recorded
    refine ⟨added ++ more, ?_, List.rel_append received moreReceived⟩
    rw [isMore, isAdded, List.append_assoc]
  held := by
    intro job member
    rcases List.mem_append.mp member with early | late
    · exact second.kept job (placed job early) (fresh job early) (first.held job early)
    · exact second.held job late
  kept := by
    intro other otherPlaced notNamed holds
    rw [List.map_append] at notNamed
    have notFirst := fun named => notNamed (List.mem_append_left _ named)
    have notSecond := fun named => notNamed (List.mem_append_right _ named)
    exact second.kept other otherPlaced notSecond (first.kept other otherPlaced notFirst holds)

/-- Nothing that follows can spoil what was handed on when nothing was. -/
theorem Progress.andThen (first : Progress settings before jobs [] middle)
    (second : Progress settings middle moreJobs moreHanded after) :
    Progress settings before (jobs ++ moreJobs) moreHanded after :=
  first.trans second (List.forall_mem_nil _) (List.forall_mem_nil _)

end Progress

/-! ## One job -/

theorem makeDirectories_progress (settings : Settings) (site : WatchedSite τ) (path : String) :
    Progress settings site [] [] (makeDirectories path site).state :=
  progress_of_extends rfl (FileTree.makeDirectories_extends site.files path)

theorem writeFile_progress {settings : Settings} {job : Job}
    (placed : Job.Placed settings job) (text : String) (site : WatchedSite τ) :
    Progress settings site [job] [] (writeFile job.scriptPath text site).state ∧
      ((writeFile job.scriptPath text site).result = .ok () →
        (writeFile job.scriptPath text site).state.files.contents job.scriptPath =
          .ok (.text text)) := by
  cases written : site.files.write job.scriptPath text with
  | error fault =>
      rw [writeFile_of_error written]
      refine ⟨(progress_refl site).widen [job], ?_⟩
      intro succeeded
      cases succeeded
  | ok files =>
      rw [writeFile_of_ok written]
      refine ⟨⟨⟨[], (List.append_nil _).symm, List.Forall₂.nil⟩, List.forall_mem_nil _, ?_⟩, ?_⟩
      · intro other otherPlaced notNamed holds
        have different : other.name ≠ job.name := fun same =>
          notNamed (List.mem_singleton.mpr same)
        exact holds.write_other placed otherPlaced different written
      · intro succeeded
        exact FileTree.contents_write written

/-- Writing the script of a job touches no other script, and when it succeeds the script
lies there. -/
theorem writeScript_progress {settings : Settings} {job : Job}
    (placed : Job.Placed settings job) (site : WatchedSite τ) :
    Progress settings site [job] [] (writeScript settings job site).state ∧
      ((writeScript settings job site).result = .ok () →
        Holds settings (writeScript settings job site).state.files job) := by
  have made := makeDirectories_progress settings site (Path.directory job.scriptPath)
  rcases writeScript_cases settings job site with ⟨failure, fails⟩ | ⟨text, isScript, writes⟩
  · rw [fails]
    refine ⟨made.widen [job], ?_⟩
    intro succeeded
    cases succeeded
  · obtain ⟨wrote, lies⟩ := writeFile_progress placed text
      (makeDirectories (Path.directory job.scriptPath) site).state
    rw [writes]
    exact ⟨made.andThen wrote, fun succeeded => ⟨text, isScript, lies succeeded⟩⟩

/-- What follows the run of the command leaves the site as it is. -/
theorem handOn_state (scheduler : Scheduler τ) (settings : Settings) (job : Job)
    (site : Site τ) :
    (handOn scheduler settings job site).state = (runCommand scheduler settings job site).state := by
  unfold handOn
  cases ended : (runCommand scheduler settings job site).result with
  | error failure => rw [bind_of_error ended]
  | ok output =>
      have onlyTalks : ∀ identifier,
          (announce settings job identifier >>= fun _ =>
            (pure ⟨job, identifier⟩ : Activity (Site τ) SubmittedJob)).Keeps id := fun identifier =>
        keeps_bind (announce_keeps settings job identifier) fun _ => keeps_pure _
      rw [bind_of_ok ended]
      exact onlyTalks _ _

theorem handOn_progress {scheduler : Scheduler τ} (keepsFiles : scheduler.KeepsFiles)
    {settings : Settings} {job : Job} {site : WatchedSite τ}
    (holds : Holds settings site.files job) :
    Progress settings site [] [job] (handOn scheduler.watched settings job site).state := by
  have sameFiles : (runCommand scheduler.watched settings job site).state.files = site.files :=
    keepsFiles site.files settings.submitCommand [job.scriptPath] site.queue.1
  rw [handOn_state]
  refine ⟨⟨[⟨site.files, settings.submitCommand, [job.scriptPath]⟩], rfl, ?_⟩, ?_, ?_⟩
  · exact List.Forall₂.cons ⟨rfl, rfl, holds⟩ List.Forall₂.nil
  · intro other member
    rw [List.mem_singleton.mp member, sameFiles]
    exact holds
  · intro other otherPlaced notNamed otherHolds
    rw [sameFiles]
    exact otherHolds

/-! ## Steps that hand on jobs -/

/-- A step hands on the first of some jobs, and all of them when it succeeds. -/
def HandsOn (settings : Settings) (jobs : List Job) (step : Activity (WatchedSite τ) α) : Prop :=
  ∀ site, ∃ handed, handed <+: jobs ∧
    (∀ value, (step site).result = .ok value → handed = jobs) ∧
    Progress settings site jobs handed (step site).state

section HandsOn

variable {settings : Settings}

theorem handsOn_pure (value : α) :
    HandsOn settings [] (pure value : Activity (WatchedSite τ) α) :=
  fun site => ⟨[], List.nil_prefix, fun _ _ => rfl, progress_refl site⟩

theorem handsOn_makeDirectories (path : String) :
    HandsOn settings [] (makeDirectories path : Activity (WatchedSite τ) Unit) :=
  fun site => ⟨[], List.nil_prefix, fun _ _ => rfl, makeDirectories_progress settings site path⟩

theorem handsOn_bind {jobs moreJobs : List Job} {first : Activity (WatchedSite τ) α}
    {second : α → Activity (WatchedSite τ) β} (byFirst : HandsOn settings jobs first)
    (bySecond : ∀ value, HandsOn settings moreJobs (second value))
    (placed : ∀ job ∈ jobs, Job.Placed settings job)
    (fresh : ∀ job ∈ jobs, job.name ∉ moreJobs.map Job.name) :
    HandsOn settings (jobs ++ moreJobs) (first >>= second) := by
  intro site
  obtain ⟨handed, isFront, whole, progress⟩ := byFirst site
  cases ended : (first site).result with
  | error failure =>
      rw [bind_of_error ended]
      refine ⟨handed, isFront.trans (List.prefix_append _ _), ?_, progress.widen moreJobs⟩
      intro value succeeded
      cases succeeded
  | ok value =>
      obtain ⟨moreHanded, moreFront, moreWhole, moreProgress⟩ := bySecond value (first site).state
      have isWhole := whole value ended
      subst isWhole
      rw [bind_of_ok ended]
      refine ⟨handed ++ moreHanded, (List.prefix_append_right_inj handed).mpr moreFront, ?_,
        progress.trans moreProgress placed fresh⟩
      intro given succeeded
      rw [moreWhole given succeeded]

variable {scheduler : Scheduler τ}

theorem handsOn_submitJob (keepsFiles : scheduler.KeepsFiles) {job : Job}
    (placed : Job.Placed settings job) :
    HandsOn settings [job] (submitJob scheduler.watched settings false job) := by
  intro site
  obtain ⟨wrote, lies⟩ := writeScript_progress placed site
  rw [submitJob_of_real]
  cases ended : (writeScript settings job site).result with
  | error failure =>
      rw [bind_of_error ended]
      dsimp only
      refine ⟨[], List.nil_prefix, ?_, wrote⟩
      intro value succeeded
      cases succeeded
  | ok done =>
      have handing := handOn_progress keepsFiles (lies ended)
      rw [bind_of_ok ended]
      exact ⟨[job], List.prefix_refl [job], fun _ _ => rfl, wrote.andThen handing⟩

theorem handsOn_each (keepsFiles : scheduler.KeepsFiles) {jobs : List Job}
    (placed : ∀ job ∈ jobs, Job.Placed settings job) (names : (jobs.map Job.name).Nodup) :
    HandsOn settings jobs (each (submitJob scheduler.watched settings false) jobs) := by
  induction jobs with
  | nil => exact handsOn_pure []
  | cons job rest inductionHypothesis =>
      obtain ⟨jobPlaced, restPlaced⟩ := List.forall_mem_cons.mp placed
      obtain ⟨jobFresh, restNames⟩ := List.nodup_cons.mp names
      have first := handsOn_submitJob keepsFiles jobPlaced
      have later := inductionHypothesis restPlaced restNames
      have closed : ∀ value : SubmittedJob, HandsOn settings rest
          (each (submitJob scheduler.watched settings false) rest >>= fun values =>
            (pure (value :: values) : Activity (WatchedSite τ) (List SubmittedJob))) := by
        intro value
        have both := handsOn_bind later (fun values => handsOn_pure (value :: values))
          restPlaced (fun _ _ => List.not_mem_nil)
        rw [List.append_nil] at both
        exact both
      refine handsOn_bind first closed ?_ ?_
      · intro other member
        rw [List.mem_singleton.mp member]
        exact jobPlaced
      · intro other member
        rw [List.mem_singleton.mp member]
        exact jobFresh

theorem handsOn_submitAll (keepsFiles : scheduler.KeepsFiles) {jobs : List Job}
    (placed : ∀ job ∈ jobs, Job.Placed settings job) (names : (jobs.map Job.name).Nodup) :
    HandsOn settings jobs (submitAll scheduler.watched settings false jobs) := by
  unfold submitAll
  exact handsOn_bind (handsOn_makeDirectories settings.outputDirectory)
    (fun made => handsOn_each keepsFiles placed names) (List.forall_mem_nil _)
    (List.forall_mem_nil _)

end HandsOn

/-! ## Calls -/

section Calls

variable {scheduler : Scheduler τ}

theorem call_progress (keepsFiles : scheduler.KeepsFiles) (settings : Settings)
    (call : Submitter.Call) (site : WatchedSite τ) :
    ∃ handed, handed <+: plannedBy settings site.taken call ∧
      Progress settings site (plannedBy settings site.taken call) handed
        ((submitter scheduler.watched settings false).call call site).state := by
  change ∃ handed, handed <+: plannedBy settings site.taken call ∧
    Progress settings site (plannedBy settings site.taken call) handed
      (submit scheduler.watched settings false call.descriptor call.target site).state
  cases read : accepted call.descriptor with
  | error failure =>
      rw [submit_of_refused scheduler.watched settings false call.target site read,
        plannedBy_of_refused settings site.taken read]
      exact ⟨[], List.nil_prefix, progress_refl site⟩
  | ok experiment =>
      have placed : ∀ job ∈ plannedBy settings site.taken call, Job.Placed settings job :=
        fun job => plannedBy_placed
      have names := plannedBy_names_nodup settings site.taken call
      rw [submit_of_accepted scheduler.watched settings false call.target site read,
        ← plannedBy_of_accepted settings site.taken read]
      obtain ⟨handed, isFront, _, progress⟩ := handsOn_submitAll keepsFiles placed names
        { site with taken := (Job.plan settings experiment call.target site.taken).2 }
      exact ⟨handed, isFront, progress.recorded, progress.held, progress.kept⟩

theorem calls_progress (keepsFiles : scheduler.KeepsFiles) (settings : Settings)
    (calls : List Submitter.Call) (site : WatchedSite τ) :
    ∃ handed : List (List Job),
      List.Forall₂ (· <+: ·) handed (planned scheduler.watched settings false site calls) ∧
      Progress settings site (planned scheduler.watched settings false site calls).flatten
        handed.flatten ((submitter scheduler.watched settings false).after site calls) := by
  induction calls generalizing site with
  | nil => exact ⟨[], List.Forall₂.nil, progress_refl site⟩
  | cons call rest inductionHypothesis =>
      obtain ⟨handed, isFront, first⟩ := call_progress keepsFiles settings call site
      obtain ⟨more, areFronts, later⟩ := inductionHypothesis
        ((submitter scheduler.watched settings false).call call site).state
      have unshared :=
        (planned_unshared scheduler.watched settings false site (call :: rest)).names
      simp only [planned, List.flatten_cons, List.map_append] at unshared
      have apart := (List.nodup_append.mp unshared).2.2
      refine ⟨handed :: more, List.Forall₂.cons isFront areFronts, ?_⟩
      refine first.trans later ?_ ?_
      · intro job member
        exact plannedBy_placed (isFront.subset member)
      · intro job member again
        exact apart _ (List.mem_map_of_mem (isFront.subset member)) _ again rfl

theorem flatten_sublist {fronts wholes : List (List α)}
    (areFronts : List.Forall₂ (· <+: ·) fronts wholes) :
    fronts.flatten.Sublist wholes.flatten := by
  induction areFronts with
  | nil => exact List.Sublist.refl []
  | cons isFront others inductionHypothesis =>
      exact isFront.sublist.append inductionHypothesis

theorem runs_of_received {settings : Settings} {jobs : List Job} {received : List Invocation}
    (receives : List.Forall₂ (Receives settings) jobs received) :
    (received.map fun invocation => (invocation.command, invocation.arguments)) =
      jobs.map fun job => (settings.submitCommand, [job.scriptPath]) := by
  induction receives with
  | nil => rfl
  | cons first others inductionHypothesis =>
      rw [List.map_cons, List.map_cons, inductionHypothesis, first.command, first.arguments]

/-- What a sequence of calls has done when the jobs given, call by call, were handed on: the
first ones of each plan, which follows the block counts, and none of them twice. Each run of
the submit command was for one of them, in order, and found the script of that job, which
still lies there after all calls. The events show these runs and no others. -/
structure Delivered (scheduler : Scheduler τ) (settings : Settings) (site : Site τ)
    (calls : List Submitter.Call) (handed : List (List Job)) : Prop where
  fronts : List.Forall₂ (· <+: ·) handed (planned scheduler settings false site calls)
  inOrder : List.Forall₂
    (fun call jobs => ∀ experiment, accepted call.descriptor = .ok experiment →
      jobs.map Job.blockCount = experiment.blockCounts)
    calls (planned scheduler settings false site calls)
  once : (handed.flatten.map Job.scriptPath).Nodup
  received : List.Forall₂ (Receives settings) handed.flatten
    (invocations scheduler settings false site calls)
  shown : runsShown scheduler settings false site calls =
    handed.flatten.map fun job => (settings.submitCommand, [job.scriptPath])
  held : ∀ job ∈ handed.flatten,
    Holds settings ((submitter scheduler settings false).after site calls).files job

/-- **The scheduler always gets the right script.** So it is over any sequence of calls,
whichever of them are refused or fail part way, as long as the submit command itself changes
no file. -/
theorem calls_delivered (scheduler : Scheduler τ) (settings : Settings) (site : Site τ)
    (calls : List Submitter.Call) (keepsFiles : scheduler.KeepsFiles) :
    ∃ handed, Delivered scheduler settings site calls handed := by
  have samePlans : planned scheduler.watched settings false (watch site) calls =
      planned scheduler settings false site calls :=
    planned_congr scheduler.watched scheduler settings false false rfl calls
  have sameFiles : (submitter scheduler settings false).after site calls =
      unwatched ((submitter scheduler.watched settings false).after (watch site) calls) :=
    after_watched scheduler settings false (watch site) calls
  obtain ⟨handed, areFronts, progress⟩ := calls_progress keepsFiles settings calls (watch site)
  rw [samePlans] at areFronts
  have received : List.Forall₂ (Receives settings) handed.flatten
      (invocations scheduler settings false site calls) := by
    obtain ⟨added, isAdded, areReceived⟩ := progress.recorded
    have isRecord : invocations scheduler settings false site calls = added := isAdded
    rw [isRecord]
    exact areReceived
  refine ⟨handed, areFronts, planned_blockCounts scheduler settings false site calls, ?_,
    received, ?_, ?_⟩
  · have unshared := (planned_unshared scheduler settings false site calls).scripts
    exact unshared.sublist ((flatten_sublist areFronts).map Job.scriptPath)
  · rw [runsShown_eq_recorded]
    exact runs_of_received received
  · rw [sameFiles]
    exact progress.held

/-- Two calls for the same experiment, of which the first meets a queue that is down. -/
theorem calls_delivered_scripted :
    Scheduler.scripted.KeepsFiles ∧
      ∃ handed, Delivered Scheduler.scripted Settings.standard
        ⟨⟨[], []⟩, [], ⟨[.ok "Submitted batch job 7", .error (.error "queue is down")], 0⟩⟩
        [⟨(Experiment.mk 2 2 0 (-1) [4, 16] 2 ["a", "a"] ["a", "a"]).toValue, .tool "metis"⟩,
          ⟨(Experiment.mk 2 2 0 (-1) [4, 16] 2 ["a", "a"] ["a", "a"]).toValue, .allCompetitors⟩]
        handed :=
  ⟨scripted_keepsFiles, calls_delivered _ _ _ _ scripted_keepsFiles⟩

end Calls

end PartitionBench.Batch
