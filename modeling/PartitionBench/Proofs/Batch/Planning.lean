import PartitionBench.Proofs.Batch.Calls
import PartitionBench.Proofs.Experiment
import PartitionBench.Proofs.Job.Plan

/-!
Contract: the jobs that are planned over a sequence of calls.

Owns:
- the jobs of each call, which depend on the names that the calls before it have taken;
- that the names of all calls together are handed out by one run of the register;
- that no two jobs share a name, a script or a result file.

Does not own: what becomes of the scripts (`Proofs.Batch.Scripts`).
-/

namespace PartitionBench.Batch

open PartitionBench.Document

variable {τ : Type}

/-! ## One call -/

/-- The jobs that a call plans when the given names are taken. A refused call plans none. -/
def plannedBy (settings : Settings) (taken : List String) (call : Submitter.Call) : List Job :=
  match accepted call.descriptor with
  | .ok experiment => (Job.plan settings experiment call.target taken).1
  | .error _ => []

/-- The base names of the jobs that a call plans. -/
def basesOf (call : Submitter.Call) : List String :=
  match accepted call.descriptor with
  | .ok experiment => Job.baseNames experiment call.target
  | .error _ => []

theorem describes_of_accepted {descriptor : Value} {experiment : Experiment}
    (isAccepted : accepted descriptor = .ok experiment) :
    Experiment.Describes descriptor experiment := by
  unfold accepted at isAccepted
  split at isAccepted
  next given isChecked =>
    cases isAccepted
    exact Experiment.check_accepts_iff.mp (Checked.accepted_eq_ok_iff.mp isChecked)
  next => cases isAccepted

theorem plannedBy_of_accepted (settings : Settings) (taken : List String)
    {call : Submitter.Call} {experiment : Experiment}
    (isAccepted : accepted call.descriptor = .ok experiment) :
    plannedBy settings taken call = (Job.plan settings experiment call.target taken).1 := by
  simp only [plannedBy, isAccepted]

theorem plannedBy_of_refused (settings : Settings) (taken : List String)
    {call : Submitter.Call} {failure : Failure}
    (refused : accepted call.descriptor = .error failure) :
    plannedBy settings taken call = [] := by
  simp only [plannedBy, refused]

theorem plannedBy_names (settings : Settings) (taken : List String) (call : Submitter.Call) :
    (plannedBy settings taken call).map Job.name = (Job.claimAll taken (basesOf call)).1 := by
  cases read : accepted call.descriptor with
  | error failure =>
      simp only [plannedBy, basesOf, read]
      rfl
  | ok experiment =>
      simp only [plannedBy, basesOf, read]
      exact congrArg Prod.fst (Job.plan_names settings experiment call.target taken)

/-- No two jobs of a call have the same name. -/
theorem plannedBy_names_nodup (settings : Settings) (taken : List String)
    (call : Submitter.Call) : ((plannedBy settings taken call).map Job.name).Nodup := by
  rw [plannedBy_names]
  exact Job.claimAll_nodup taken _

/-- Each job of a call was planned for some block count, under a name that was free then. -/
theorem plannedBy_members {settings : Settings} {taken : List String} {call : Submitter.Call}
    {job : Job} (member : job ∈ plannedBy settings taken call) :
    ∃ experiment place blockCount before,
      job = Job.planned settings experiment call.target place blockCount
        (Job.freeName before (Job.baseNameAt experiment call.target place blockCount)) := by
  cases read : accepted call.descriptor with
  | error failure =>
      rw [plannedBy_of_refused settings taken read] at member
      exact absurd member List.not_mem_nil
  | ok experiment =>
      rw [plannedBy_of_accepted settings taken read] at member
      exact ⟨experiment, Job.planFrom_members member⟩

theorem plannedBy_placed {settings : Settings} {taken : List String} {call : Submitter.Call}
    {job : Job} (member : job ∈ plannedBy settings taken call) : Job.Placed settings job := by
  obtain ⟨experiment, place, blockCount, before, rfl⟩ := plannedBy_members member
  exact Job.planned_isPlaced settings experiment call.target place blockCount before

/-- After a call the register is where it gets by the base names of the call, whatever became
of the jobs. -/
theorem call_taken (scheduler : Scheduler τ) (settings : Settings) (dryRun : Bool)
    (call : Submitter.Call) (site : Site τ) :
    ((submitter scheduler settings dryRun).call call site).state.taken =
      (Job.claimAll site.taken (basesOf call)).2 := by
  change (submit scheduler settings dryRun call.descriptor call.target site).state.taken = _
  cases read : accepted call.descriptor with
  | error failure =>
      rw [submit_of_refused scheduler settings dryRun call.target site read]
      simp only [basesOf, read]
      rfl
  | ok experiment =>
      rw [submit_of_accepted scheduler settings dryRun call.target site read,
        submitAll_keeps_taken scheduler settings dryRun]
      simp only [basesOf, read]
      exact congrArg Prod.snd (Job.plan_names settings experiment call.target site.taken)

/-- A call that succeeds gives back the jobs that it planned. -/
theorem call_gives (scheduler : Scheduler τ) (settings : Settings) (dryRun : Bool)
    (call : Submitter.Call) (site : Site τ) {submitted : List SubmittedJob}
    (succeeded : ((submitter scheduler settings dryRun).call call site).result = .ok submitted) :
    submitted.map SubmittedJob.job = plannedBy settings site.taken call := by
  change (submit scheduler settings dryRun call.descriptor call.target site).result = _
    at succeeded
  cases read : accepted call.descriptor with
  | error failure =>
      rw [submit_of_refused scheduler settings dryRun call.target site read] at succeeded
      cases succeeded
  | ok experiment =>
      rw [submit_of_accepted scheduler settings dryRun call.target site read] at succeeded
      rw [plannedBy_of_accepted settings site.taken read]
      exact submitAll_gives scheduler settings dryRun _ _ submitted succeeded

/-! ## Calls one after another -/

/-- The jobs that each of a sequence of calls plans. Each call starts from what the one
before it left. -/
def planned (scheduler : Scheduler τ) (settings : Settings) (dryRun : Bool) :
    Site τ → List Submitter.Call → List (List Job)
  | _, [] => []
  | site, call :: rest =>
      plannedBy settings site.taken call ::
        planned scheduler settings dryRun
          ((submitter scheduler settings dryRun).call call site).state rest

/-- What is planned depends on the names taken, and not on what becomes of the jobs. -/
theorem planned_congr {σ : Type} (scheduler : Scheduler σ) (other : Scheduler τ)
    (settings : Settings) (dryRun otherDryRun : Bool) {site : Site σ} {otherSite : Site τ}
    (sameTaken : site.taken = otherSite.taken) (calls : List Submitter.Call) :
    planned scheduler settings dryRun site calls =
      planned other settings otherDryRun otherSite calls := by
  induction calls generalizing site otherSite with
  | nil => rfl
  | cons call rest inductionHypothesis =>
      have sameAfter :
          ((submitter scheduler settings dryRun).call call site).state.taken =
            ((submitter other settings otherDryRun).call call otherSite).state.taken := by
        rw [call_taken, call_taken, sameTaken]
      simp only [planned, sameTaken, inductionHypothesis sameAfter]

/-- The jobs of an accepted call stand in the order of its block counts. -/
theorem planned_blockCounts (scheduler : Scheduler τ) (settings : Settings) (dryRun : Bool)
    (site : Site τ) (calls : List Submitter.Call) :
    List.Forall₂
      (fun call jobs => ∀ experiment, accepted call.descriptor = .ok experiment →
        jobs.map Job.blockCount = experiment.blockCounts)
      calls (planned scheduler settings dryRun site calls) := by
  induction calls generalizing site with
  | nil => exact List.Forall₂.nil
  | cons call rest inductionHypothesis =>
      refine List.Forall₂.cons ?_ (inductionHypothesis _)
      intro experiment isAccepted
      rw [plannedBy_of_accepted settings site.taken isAccepted]
      exact Job.planFrom_blockCounts settings experiment call.target 0 _ site.taken

/-- All names together are those that the register hands out for all base names. -/
theorem planned_names (scheduler : Scheduler τ) (settings : Settings) (dryRun : Bool)
    (site : Site τ) (calls : List Submitter.Call) :
    (planned scheduler settings dryRun site calls).flatten.map Job.name =
      (Job.claimAll site.taken (calls.flatMap basesOf)).1 := by
  induction calls generalizing site with
  | nil => rfl
  | cons call rest inductionHypothesis =>
      have later := inductionHypothesis
        ((submitter scheduler settings dryRun).call call site).state
      rw [call_taken] at later
      rw [List.flatMap_cons, Job.claimAll_append, ← later, ← plannedBy_names settings]
      simp only [planned, List.flatten_cons, List.map_append]

theorem planned_placed (scheduler : Scheduler τ) (settings : Settings) (dryRun : Bool)
    (site : Site τ) (calls : List Submitter.Call) :
    ∀ job ∈ (planned scheduler settings dryRun site calls).flatten,
      Job.Placed settings job := by
  induction calls generalizing site with
  | nil =>
      intro job member
      exact absurd member List.not_mem_nil
  | cons call rest inductionHypothesis =>
      intro job member
      rcases List.mem_append.mp member with byThis | later
      · exact plannedBy_placed byThis
      · exact inductionHypothesis _ job later

theorem planned_gives (scheduler : Scheduler τ) (settings : Settings) (dryRun : Bool)
    (site : Site τ) (calls : List Submitter.Call) :
    List.Forall₂
      (fun outcome jobs => ∀ submitted, outcome.result = .ok submitted →
        submitted.map SubmittedJob.job = jobs)
      ((submitter scheduler settings dryRun).outcomes site calls)
      (planned scheduler settings dryRun site calls) := by
  induction calls generalizing site with
  | nil => exact List.Forall₂.nil
  | cons call rest inductionHypothesis =>
      refine List.Forall₂.cons ?_ (inductionHypothesis _)
      intro submitted succeeded
      exact call_gives scheduler settings dryRun call site succeeded

theorem planned_unshared (scheduler : Scheduler τ) (settings : Settings) (dryRun : Bool)
    (site : Site τ) (calls : List Submitter.Call) :
    Job.Unshared (planned scheduler settings dryRun site calls).flatten := by
  refine Job.unshared_of_names (planned_placed scheduler settings dryRun site calls) ?_
  rw [planned_names]
  exact Job.claimAll_nodup site.taken _

/-- **No two jobs share anything.** Over any sequence of calls, whichever of them are
refused or fail part way, the jobs planned share no name, no script and no result file, no
script is a result file, and the jobs that calls give back are those planned. -/
theorem calls_share_nothing (scheduler : Scheduler τ) (settings : Settings) (dryRun : Bool)
    (site : Site τ) (calls : List Submitter.Call) :
    Job.Unshared (planned scheduler settings dryRun site calls).flatten ∧
      List.Forall₂
        (fun outcome jobs => ∀ submitted, outcome.result = .ok submitted →
          submitted.map SubmittedJob.job = jobs)
        ((submitter scheduler settings dryRun).outcomes site calls)
        (planned scheduler settings dryRun site calls) :=
  ⟨planned_unshared scheduler settings dryRun site calls,
    planned_gives scheduler settings dryRun site calls⟩

end PartitionBench.Batch
