import PartitionBench.Proofs.Batch.Interruption
import PartitionBench.Proofs.Batch.Planning
import PartitionBench.Proofs.Dispatch.Account
import PartitionBench.Proofs.Experiment

/-!
Contract: the complete account of a run that succeeds.

Owns:
- how the jobs of a run were handed to the scheduler, each by a run of its own;
- that the jobs of the account are one for each tool agreed to and each block count, in their
  order, under different names.

Does not own: how the answers decide (`Proofs.Dispatch.Account`), and what a run leaves that fails
(`Proofs.Batch.Interruption`).
-/

namespace PartitionBench

open PartitionBench.Document Activity

namespace Batch

variable {τ : Type} {scheduler : Scheduler τ} {settings : Settings} {dryRun : Bool}

/-! ## Jobs and runs of the submit command -/

/-- The submit command is run for jobs, one after another. Each run finds the script of its job,
and the queue as the run before it left that; it succeeds, and the identifier of the job is the one
in what this run wrote. -/
inductive RunsFor (scheduler : Scheduler τ) (settings : Settings) :
    τ → List SubmittedJob → τ → Prop
  | done (queue : τ) : RunsFor scheduler settings queue [] queue
  | next {queue middle last : τ} {found left : FileTree} {job : Job} {output : String}
      {jobs : List SubmittedJob} (holds : Holds settings found job)
      (answered : scheduler.run found settings.submitCommand [job.scriptPath] queue =
        ⟨.ok output, left, middle⟩)
      (later : RunsFor scheduler settings middle jobs last) :
      RunsFor scheduler settings queue (⟨job, Scheduler.jobIdentifier? output⟩ :: jobs) last

theorem RunsFor.append {queue middle last : τ} {jobs others : List SubmittedJob}
    (first : RunsFor scheduler settings queue jobs middle)
    (second : RunsFor scheduler settings middle others last) :
    RunsFor scheduler settings queue (jobs ++ others) last := by
  induction first with
  | done queue => exact second
  | next holds answered later inductionHypothesis =>
      exact RunsFor.next holds answered (inductionHypothesis second)

/-- How jobs were handed on. Without a dry run the submit command was run once for each, in their
order, and nothing else was. In a dry run nothing was, and no job has an identifier. -/
structure Handed (scheduler : Scheduler τ) (settings : Settings) (dryRun : Bool) (queue : τ)
    (jobs : List SubmittedJob) (events : List Event) (last : τ) : Prop where
  real : dryRun = false → RunsFor scheduler settings queue jobs last ∧
    events.filterMap Event.run? =
      jobs.map fun submitted => (settings.submitCommand, [submitted.job.scriptPath])
  dry : dryRun = true → (∀ submitted ∈ jobs, submitted.identifier = none) ∧
    events.filterMap Event.run? = [] ∧ last = queue

section Handed

variable {queue middle last : τ} {jobs others : List SubmittedJob} {events later : List Event}

theorem handed_nothing (queue : τ) : Handed scheduler settings dryRun queue [] [] queue where
  real := fun _ => ⟨RunsFor.done queue, rfl⟩
  dry := fun _ => ⟨List.forall_mem_nil _, rfl, rfl⟩

theorem Handed.append (first : Handed scheduler settings dryRun queue jobs events middle)
    (second : Handed scheduler settings dryRun middle others later last) :
    Handed scheduler settings dryRun queue (jobs ++ others) (events ++ later) last := by
  constructor
  case real =>
    intro isReal
    obtain ⟨firstRuns, firstShown⟩ := first.real isReal
    obtain ⟨secondRuns, secondShown⟩ := second.real isReal
    refine ⟨firstRuns.append secondRuns, ?_⟩
    rw [List.filterMap_append, firstShown, secondShown, List.map_append]
  case dry =>
    intro isDry
    obtain ⟨firstUnnamed, firstShown, firstLeft⟩ := first.dry isDry
    obtain ⟨secondUnnamed, secondShown, secondLeft⟩ := second.dry isDry
    refine ⟨List.forall_mem_append.mpr ⟨firstUnnamed, secondUnnamed⟩, ?_,
      secondLeft.trans firstLeft⟩
    rw [List.filterMap_append, firstShown, secondShown]
    rfl

theorem Handed.sameRuns {shown : List Event}
    (handed : Handed scheduler settings dryRun queue jobs events last)
    (same : shown.filterMap Event.run? = events.filterMap Event.run?) :
    Handed scheduler settings dryRun queue jobs shown last where
  real := fun isReal => ⟨(handed.real isReal).1, same.trans (handed.real isReal).2⟩
  dry := fun isDry => ⟨(handed.dry isDry).1, same.trans (handed.dry isDry).2.1,
    (handed.dry isDry).2.2⟩

end Handed

/-! ## One call -/

theorem note_eq (job : Job) (site : Site τ) :
    (log (.written job.name) >>= fun _ => pure (⟨job, none⟩ : SubmittedJob)) site =
      ⟨.ok ⟨job, none⟩, [.logged (.written job.name)], site⟩ :=
  rfl

/-- In a dry run a job is taken note of, with no run and no identifier. -/
theorem submitJob_noted {job : Job} {site : Site τ} {submitted : SubmittedJob}
    (succeeded : (submitJob scheduler settings true job site).result = .ok submitted) :
    ∃ events after, submitJob scheduler settings true job site = ⟨.ok ⟨job, none⟩, events, after⟩ ∧
      events.filterMap Event.run? = [] ∧ after.queue = site.queue := by
  have quiet : (writeScript settings job : Activity (Site τ) Unit).Leaves
      fun event => event.run? = none := writeScript_leaves settings job
  have keepsQueue : (writeScript settings job : Activity (Site τ) Unit).Keeps Site.queue :=
    writeScript_keeps (fun _ _ => rfl) settings job
  rw [submitJob_of_dryRun] at succeeded ⊢
  -- Nothing else matters of the writing of the script, and it is long to unfold.
  generalize (writeScript settings job : Activity (Site τ) Unit) = step at *
  obtain ⟨_, _, _, whole⟩ := bind_succeeds succeeded
  rw [note_eq, Outcome.behind] at whole
  refine ⟨_, _, whole, ?_, keepsQueue site⟩
  rw [List.filterMap_append, List.filterMap_eq_nil_iff.mpr (quiet site)]
  rfl

theorem submitJob_handed {job : Job} {site : Site τ} {submitted : SubmittedJob}
    (succeeded : (submitJob scheduler settings dryRun job site).result = .ok submitted) :
    Handed scheduler settings dryRun site.queue [submitted]
      (submitJob scheduler settings dryRun job site).events
      (submitJob scheduler settings dryRun job site).state.queue := by
  cases dryRun with
  | false =>
      obtain ⟨output, after, takes, isTaken⟩ := submitJob_takes succeeded
      obtain ⟨files, writes, answered⟩ := takes.answered
      rw [isTaken] at succeeded ⊢
      cases succeeded
      constructor
      case real =>
        intro _
        refine ⟨?_, taking_runs settings job output⟩
        exact RunsFor.next writes.holds answered (RunsFor.done after.queue)
      case dry =>
        intro isDry
        cases isDry
  | true =>
      obtain ⟨events, after, isNoted, noRuns, sameQueue⟩ := submitJob_noted succeeded
      rw [isNoted] at succeeded ⊢
      cases succeeded
      constructor
      case real =>
        intro isReal
        cases isReal
      case dry =>
        intro _
        exact ⟨List.forall_mem_singleton.mpr rfl, noRuns, sameQueue⟩

theorem each_handed {jobs : List Job} {site : Site τ} {submitted : List SubmittedJob}
    (succeeded : (each (submitJob scheduler settings dryRun) jobs site).result = .ok submitted) :
    Handed scheduler settings dryRun site.queue submitted
      (each (submitJob scheduler settings dryRun) jobs site).events
      (each (submitJob scheduler settings dryRun) jobs site).state.queue := by
  induction jobs generalizing site submitted with
  | nil =>
      cases succeeded
      exact handed_nothing site.queue
  | cons job rest inductionHypothesis =>
      obtain ⟨value, others, rfl, first, later⟩ := each_cons_succeeds succeeded
      rw [each_cons_of_ok first later]
      exact (submitJob_handed first).append (inductionHypothesis later)

theorem submitAll_handed {jobs : List Job} {site : Site τ} {submitted : List SubmittedJob}
    (succeeded : (submitAll scheduler settings dryRun jobs site).result = .ok submitted) :
    Handed scheduler settings dryRun site.queue submitted
      (submitAll scheduler settings dryRun jobs site).events
      (submitAll scheduler settings dryRun jobs site).state.queue := by
  rcases submitAll_ends scheduler settings dryRun site with
    ⟨made, _, begins⟩ | ⟨fault, made, _, begins⟩
  · rw [begins] at succeeded ⊢
    exact each_handed succeeded
  · rw [begins] at succeeded
    cases succeeded

/-- What a call that succeeds comes to. Its descriptor was accepted, and its jobs are those of its
plan, which were handed on. -/
theorem call_handed {call : Submitter.Call} {site : Site τ} {submitted : List SubmittedJob}
    (succeeded : ((submitter scheduler settings dryRun).call call site).result = .ok submitted) :
    ∃ experiment, accepted call.descriptor = .ok experiment ∧
      submitted.map SubmittedJob.job =
        (Job.plan settings experiment call.target site.taken).1 ∧
      Handed scheduler settings dryRun site.queue submitted
        ((submitter scheduler settings dryRun).call call site).events
        ((submitter scheduler settings dryRun).call call site).state.queue := by
  have planned := call_gives scheduler settings dryRun call site succeeded
  change (submit scheduler settings dryRun call.descriptor call.target site).result = _
    at succeeded
  cases isAccepted : accepted call.descriptor with
  | error failure =>
      rw [submit_of_refused scheduler settings dryRun call.target site isAccepted] at succeeded
      cases succeeded
  | ok experiment =>
      rw [plannedBy_of_accepted settings site.taken isAccepted] at planned
      have submits := submit_of_accepted scheduler settings dryRun call.target site isAccepted
      rw [submits] at succeeded
      refine ⟨experiment, rfl, planned, ?_⟩
      change Handed scheduler settings dryRun site.queue submitted
        (submit scheduler settings dryRun call.descriptor call.target site).events
        (submit scheduler settings dryRun call.descriptor call.target site).state.queue
      rw [submits]
      exact submitAll_handed succeeded

/-! ## Calls one after another -/

section Calls

variable {site : Site τ} {calls : List Submitter.Call} {given : List (List SubmittedJob)}

/-- The calls succeed, and give these jobs. -/
abbrev Give (scheduler : Scheduler τ) (settings : Settings) (dryRun : Bool) (site : Site τ)
    (calls : List Submitter.Call) (given : List (List SubmittedJob)) : Prop :=
  ((submitter scheduler settings dryRun).outcomes site calls).map Outcome.result = given.map .ok

theorem give_cons {call : Submitter.Call}
    (give : Give scheduler settings dryRun site (call :: calls) given) :
    ∃ jobs others, given = jobs :: others ∧
      ((submitter scheduler settings dryRun).call call site).result = .ok jobs ∧
      Give scheduler settings dryRun
        ((submitter scheduler settings dryRun).call call site).state calls others := by
  cases given with
  | nil => cases give
  | cons jobs others =>
      obtain ⟨first, later⟩ := List.cons.inj give
      exact ⟨jobs, others, rfl, first, later⟩

theorem calls_handed (give : Give scheduler settings dryRun site calls given) :
    Handed scheduler settings dryRun site.queue given.flatten
      (((submitter scheduler settings dryRun).outcomes site calls).flatMap Outcome.events)
      ((submitter scheduler settings dryRun).after site calls).queue := by
  induction calls generalizing site given with
  | nil =>
      obtain rfl : given = [] := List.map_eq_nil_iff.mp give.symm
      exact handed_nothing site.queue
  | cons call calls inductionHypothesis =>
      obtain ⟨jobs, others, rfl, first, later⟩ := give_cons give
      obtain ⟨_, _, _, handed⟩ := call_handed first
      exact handed.append (inductionHypothesis later)

theorem calls_planned (give : Give scheduler settings dryRun site calls given) :
    given.flatten.map SubmittedJob.job =
      (planned scheduler settings dryRun site calls).flatten := by
  induction calls generalizing site given with
  | nil =>
      obtain rfl : given = [] := List.map_eq_nil_iff.mp give.symm
      rfl
  | cons call calls inductionHypothesis =>
      obtain ⟨jobs, others, rfl, first, later⟩ := give_cons give
      rw [List.flatten_cons, List.map_append, inductionHypothesis later,
        call_gives scheduler settings dryRun call site first]
      rfl

/-- The jobs of calls for one experiment are one for each target and each block count. -/
theorem calls_labels {descriptor : Value} {blockCounts : List Int} {targets : List Target}
    (describes : ∀ experiment, accepted descriptor = .ok experiment →
      experiment.blockCounts = blockCounts)
    (give : Give scheduler settings dryRun site (Dispatch.callsFor descriptor targets) given) :
    given.flatten.map (fun submitted => (submitted.job.tool, submitted.job.blockCount)) =
      (targets.map Job.label).flatMap fun label => blockCounts.map (Prod.mk label) := by
  induction targets generalizing site given with
  | nil =>
      obtain rfl : given = [] := List.map_eq_nil_iff.mp give.symm
      rfl
  | cons target targets inductionHypothesis =>
      obtain ⟨jobs, others, rfl, first, later⟩ := give_cons give
      obtain ⟨experiment, isAccepted, isPlan, _⟩ := call_handed first
      have ofFirst : jobs.map (fun submitted => (submitted.job.tool, submitted.job.blockCount)) =
          blockCounts.map (Prod.mk (Job.label target)) := by
        have labels := Job.planFrom_labels settings experiment target 0 experiment.blockCounts
          site.taken
        rw [← describes experiment isAccepted, ← labels]
        change _ = (Job.plan settings experiment target site.taken).1.map _
        rw [← isPlan, List.map_map]
        rfl
      rw [List.flatten_cons, List.map_append, ofFirst, inductionHypothesis later]
      rfl

theorem calls_names_nodup (give : Give scheduler settings dryRun site calls given) :
    (given.flatten.map fun submitted => submitted.job.name).Nodup := by
  have names := (planned_unshared scheduler settings dryRun site calls).names
  rw [← calls_planned give, List.map_map] at names
  exact names

end Calls

/-! ## The run -/

/-- The complete account of a run. The answers decided on the tools one after another, or on all
competitors together, and the account splits what was asked about by that. It has a job for each
label agreed to and each block count, in their order; no two jobs have the same name, and they were
handed on as they stand. -/
structure Accounted (scheduler : Scheduler τ) (settings : Settings) (dryRun : Bool)
    (arguments : Arguments) (first : Session (Site τ)) (account : Dispatch.Account)
    (events : List Event) (last : Session (Site τ)) (verdicts : List Bool) : Prop where
  answers : Dispatch.Decides first.operator.answers verdicts last.operator.answers
  toolByTool : arguments.tools.head? ≠ some Dispatch.allWord →
    account.allCompetitors = false ∧ verdicts.length = arguments.tools.length ∧
      account.submitted = Dispatch.kept true arguments.tools verdicts ∧
      account.skipped = Dispatch.kept false arguments.tools verdicts
  together : arguments.tools.head? = some Dispatch.allWord →
    account.allCompetitors = true ∧
      (verdicts = [true] ∧ account.submitted = [Job.allCompetitorsLabel] ∧ account.skipped = [] ∨
        verdicts = [false] ∧ account.submitted = [] ∧
          account.skipped = [Job.allCompetitorsLabel])
  jobs : account.jobs.map (fun submitted => (submitted.job.tool, submitted.job.blockCount)) =
    account.submitted.flatMap fun label => arguments.blockCounts.map (Prod.mk label)
  count : account.jobs.length = account.submitted.length * arguments.blockCounts.length
  names : (account.jobs.map fun submitted => submitted.job.name).Nodup
  handed : Handed scheduler settings dryRun first.backend.queue account.jobs events
    last.backend.queue

section Run

variable {arguments : Arguments} {first last : Session (Site τ)} {account : Dispatch.Account}
  {events : List Event} {verdicts : List Bool} {given : List (List SubmittedJob)}

/-- An experiment that is accepted as that of arguments has their block counts. -/
theorem accepted_blockCounts {experiment : Experiment}
    (isAccepted : accepted (Experiment.ofArguments arguments).toValue = .ok experiment) :
    experiment.blockCounts = arguments.blockCounts :=
  Experiment.blockCounts_of_arguments (describes_of_accepted isAccepted)

/-- What the targets of a dispatch are settled by is a complete account of them. -/
theorem accounted_of_settles
    (settles : Dispatch.Settles (submitter scheduler settings dryRun)
      (Experiment.ofArguments arguments).toValue first (Dispatch.targetsOf arguments.tools) verdicts
      given account events last)
    (marked : account.allCompetitors =
      decide (arguments.tools.head? = some Dispatch.allWord)) :
    Accounted scheduler settings dryRun arguments first account events last verdicts := by
  have give : Give scheduler settings dryRun first.backend _ given := settles.results
  have jobs : account.jobs.map
      (fun submitted => (submitted.job.tool, submitted.job.blockCount)) =
        account.submitted.flatMap fun label => arguments.blockCounts.map (Prod.mk label) := by
    rw [settles.jobs, settles.submitted]
    exact calls_labels (fun _ => accepted_blockCounts) give
  have handed := (calls_handed give).sameRuns settles.runs
  constructor
  case answers => exact settles.answers
  case toolByTool =>
    intro notAll
    have targets : Dispatch.targetsOf arguments.tools = arguments.tools.map .tool := if_neg notAll
    have labels : (arguments.tools.map Target.tool).map Job.label = arguments.tools := by
      rw [List.map_map]
      exact List.map_id _
    have submitted := settles.submitted
    have skipped := settles.skipped
    rw [targets, ← Dispatch.kept_map, labels] at submitted skipped
    refine ⟨marked.trans (decide_eq_false notAll), ?_, submitted, skipped⟩
    rw [settles.decided, targets, List.length_map]
  case together =>
    intro isAll
    have targets : Dispatch.targetsOf arguments.tools = [.allCompetitors] := if_pos isAll
    have decided := settles.decided
    have submitted := settles.submitted
    have skipped := settles.skipped
    rw [targets] at decided submitted skipped
    refine ⟨marked.trans (decide_eq_true isAll), ?_⟩
    obtain ⟨verdict, rfl⟩ := List.length_eq_one_iff.mp decided
    cases verdict with
    | true => exact Or.inl ⟨rfl, submitted, skipped⟩
    | false => exact Or.inr ⟨rfl, submitted, skipped⟩
  case jobs => exact jobs
  case count =>
    have lengths := congrArg List.length jobs
    rw [List.length_map, List.length_flatMap] at lengths
    rw [lengths]
    simp [List.map_const']
  case names =>
    rw [settles.jobs]
    exact calls_names_nodup give
  case handed =>
    rw [settles.jobs, settles.backend]
    exact handed

/-- **Complete accounting of a run that succeeds.** Whatever the arguments, the answers, the
settings and the scheduler are: when a run ends with the exit code of success, it gives a complete
account of what was asked, submitted and run. -/
theorem run_accounted (scheduler : Scheduler τ) (settings : Settings) (dryRun : Bool)
    (lookUp : Session (Site τ) → String → Except Failure Bool) (scriptName : String)
    (arguments : Arguments) (first : Session (Site τ)) {result : Pipeline.Result}
    (completed : (Pipeline.run (submitter scheduler settings dryRun) lookUp scriptName arguments
      first).result = .ok result)
    (isSuccess : result.exitCode = 0) :
    ∃ account verdicts, result.account = some account ∧
      Accounted scheduler settings dryRun arguments first account
        (Pipeline.run (submitter scheduler settings dryRun) lookUp scriptName arguments
          first).events
        (Pipeline.run (submitter scheduler settings dryRun) lookUp scriptName arguments
          first).state verdicts := by
  obtain ⟨account, isAccount, dispatched, whole⟩ :=
    Pipeline.dispatched_of_success _ scriptName arguments first completed isSuccess
  obtain ⟨verdicts, given, settles, marked⟩ := Dispatch.dispatch_settles dispatched
  refine ⟨account, verdicts, isAccount, ?_⟩
  rw [whole]
  simp only [Pipeline.concluded, dispatched, Outcome.behind]
  refine accounted_of_settles (settles.sameRuns ?_) marked
  rw [List.filterMap_append, List.filterMap_append, Pipeline.no_runs_in_opening, List.nil_append]
  exact List.append_nil _

/-- Two tools, of which the second is declined. The first takes two answers, and one is left. -/
theorem run_accounted_scripted :
    let arguments : Arguments := ⟨["metis", "zoltan"], "a", [4], 2, 2⟩
    let first : Session (Site Scheduler.Script) :=
      ⟨⟨["maybe", "y", "N", "no"], .closed⟩,
        ⟨⟨[], []⟩, [], ⟨[.ok "Submitted batch job 7"], 0⟩⟩⟩
    let run := Pipeline.run (submitter Scheduler.scripted Settings.standard false)
      (fun _ _ => .ok true) "partsubmit" arguments first
    ∃ result account verdicts, run.result = .ok result ∧ result.exitCode = 0 ∧
      result.account = some account ∧
      Accounted Scheduler.scripted Settings.standard false arguments first account run.events
        run.state verdicts := by
  intro arguments first run
  have ends : run.result.toOption.map Pipeline.Result.exitCode = some 0 := by decide +kernel
  cases completed : run.result with
  | error failure =>
      rw [completed] at ends
      cases ends
  | ok result =>
      rw [completed] at ends
      have isSuccess : result.exitCode = 0 := Option.some.inj ends
      obtain ⟨account, verdicts, isAccount, accounted⟩ := run_accounted Scheduler.scripted
        Settings.standard false (fun _ _ => .ok true) "partsubmit" arguments first completed
        isSuccess
      exact ⟨result, account, verdicts, rfl, isSuccess, isAccount, accounted⟩

end Run

end Batch

end PartitionBench
