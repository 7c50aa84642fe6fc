import PartitionBench.Proofs.Batch.Calls

/-!
Contract: the runs of the submit command, with the files at each of them.

Owns:
- the scheduler that keeps a record of its runs, and the record of a sequence of calls;
- that what a submitter does is the same with and without the record;
- that the record shows the runs that the events of the calls show.

Does not own: what the record shows (`Proofs.Batch.Scripts`).
-/

namespace PartitionBench

variable {σ τ α β : Type}

/-! ## The same step on a part of the state -/

namespace Activity

/-- What is left to see of an outcome when only a part of the state is. -/
def seen (view : σ → τ) (outcome : Outcome σ α) : Outcome τ α :=
  ⟨outcome.result, outcome.events, view outcome.state⟩

/-- A step looks, to those who see only a part of the state, like a step on that part. -/
def Mirrors (view : σ → τ) (step : Activity σ α) (plain : Activity τ α) : Prop :=
  ∀ state, plain (view state) = seen view (step state)

section Mirrors

variable {view : σ → τ}

theorem mirrors_pure (value : α) :
    Mirrors view (pure value : Activity σ α) (pure value : Activity τ α) :=
  fun _ => rfl

theorem mirrors_ofResult (result : Except Failure α) :
    Mirrors view (ofResult result : Activity σ α) (ofResult result : Activity τ α) :=
  fun _ => rfl

theorem mirrors_log (entry : Log.Entry) :
    Mirrors view (log entry : Activity σ Unit) (log entry : Activity τ Unit) :=
  fun _ => rfl

theorem mirrors_bind {first : Activity σ α} {second : α → Activity σ β}
    {plainFirst : Activity τ α} {plainSecond : α → Activity τ β}
    (ofFirst : Mirrors view first plainFirst)
    (ofSecond : ∀ value, Mirrors view (second value) (plainSecond value)) :
    Mirrors view (first >>= second) (plainFirst >>= plainSecond) := by
  intro state
  have before := ofFirst state
  cases ended : (first state).result with
  | error failure =>
      have plainEnded : (plainFirst (view state)).result = .error failure := by
        rw [before]
        exact ended
      rw [bind_of_error ended, bind_of_error plainEnded, before]
      rfl
  | ok value =>
      have plainEnded : (plainFirst (view state)).result = .ok value := by
        rw [before]
        exact ended
      have after := ofSecond value (first state).state
      rw [bind_of_ok ended, bind_of_ok plainEnded, before]
      simp only [seen] at after ⊢
      rw [after]

theorem mirrors_each {step : α → Activity σ β} {plain : α → Activity τ β}
    (ofStep : ∀ item, Mirrors view (step item) (plain item)) (items : List α) :
    Mirrors view (each step items) (each plain items) := by
  induction items with
  | nil => exact mirrors_pure []
  | cons item rest inductionHypothesis =>
      apply mirrors_bind (ofStep item)
      intro value
      apply mirrors_bind inductionHypothesis
      intro values
      exact mirrors_pure (value :: values)

end Mirrors

/-! ## A list that grows with the events -/

/-- A list in the state grows by what the events of a step count as. -/
def Tallies {ι : Type} (tally : σ → List ι) (count : Event → Option ι) (step : Activity σ α) :
    Prop :=
  ∀ state, tally (step state).state = tally state ++ (step state).events.filterMap count

section Tallies

variable {ι : Type} {tally : σ → List ι} {count : Event → Option ι}

/-- Nothing has to be added where no event counts. -/
theorem tallies_of_keeps {step : Activity σ α} (keeps : Keeps tally step)
    (uncounted : Leaves (fun event => count event = none) step) : Tallies tally count step := by
  intro state
  rw [keeps state, List.filterMap_eq_nil_iff.mpr (uncounted state), List.append_nil]

theorem tallies_composes :
    Composes fun before events after => tally after = tally before ++ events.filterMap count where
  nothing := fun _ => (List.append_nil _).symm
  sequence := by
    intro start middle last before after byFirst bySecond
    rw [bySecond, byFirst, List.filterMap_append, List.append_assoc]

theorem tallies_bind {first : Activity σ α} {second : α → Activity σ β}
    (byFirst : Tallies tally count first)
    (bySecond : ∀ value, Tallies tally count (second value)) :
    Tallies tally count (first >>= second) :=
  obeys_bind tallies_composes byFirst bySecond

theorem tallies_each {step : α → Activity σ β} (byStep : ∀ item, Tallies tally count (step item))
    (items : List α) : Tallies tally count (each step items) :=
  obeys_each tallies_composes byStep items

end Tallies

end Activity

/-- The command that an event shows to have been run, with its arguments. -/
def Event.run? : Event → Option (String × List String)
  | .ran command arguments => some (command, arguments)
  | _ => none

/-! ## The record -/

/-- A run of a submit command: the files as it found them, and how it was called. -/
structure Scheduler.Invocation where
  files : FileTree
  command : String
  arguments : List String

/-- The same scheduler, with a record of its runs beside what it remembers. -/
def Scheduler.watched (scheduler : Scheduler τ) : Scheduler (τ × List Scheduler.Invocation) :=
  ⟨fun files command arguments memory =>
    let answer := scheduler.run files command arguments memory.1
    ⟨answer.outcome, answer.files,
      (answer.state, memory.2 ++ [⟨files, command, arguments⟩])⟩⟩

namespace Batch

open PartitionBench.Document Activity

/-- What a batch submitter with a record works on. -/
abbrev WatchedSite (τ : Type) := Site (τ × List Scheduler.Invocation)

/-- A site with an empty record. -/
def watch (site : Site τ) : WatchedSite τ :=
  ⟨site.files, site.taken, (site.queue, [])⟩

/-- A site without its record. -/
def unwatched (site : WatchedSite τ) : Site τ :=
  ⟨site.files, site.taken, site.queue.1⟩

/-- The runs of the submit command in a sequence of calls. -/
def invocations (scheduler : Scheduler τ) (settings : Settings) (dryRun : Bool) (site : Site τ)
    (calls : List Submitter.Call) : List Scheduler.Invocation :=
  ((submitter scheduler.watched settings dryRun).after (watch site) calls).queue.2

/-- The commands in the record of a site. -/
def recordedRuns (site : WatchedSite τ) : List (String × List String) :=
  site.queue.2.map fun invocation => (invocation.command, invocation.arguments)

/-- The commands that are run in a sequence of calls, as its events show them. -/
def runsShown (scheduler : Scheduler τ) (settings : Settings) (dryRun : Bool) (site : Site τ)
    (calls : List Submitter.Call) : List (String × List String) :=
  (((submitter scheduler settings dryRun).outcomes site calls).flatMap Outcome.events).filterMap
    Event.run?

/-! ## The record changes nothing -/

theorem makeDirectories_mirrors (path : String) :
    Mirrors unwatched (makeDirectories path : Activity (WatchedSite τ) Unit)
      (makeDirectories path : Activity (Site τ) Unit) :=
  fun _ => rfl

theorem writeFile_mirrors (path text : String) :
    Mirrors unwatched (writeFile path text : Activity (WatchedSite τ) Unit)
      (writeFile path text : Activity (Site τ) Unit) := by
  intro site
  cases written : site.files.write path text with
  | ok files =>
      have plain : (unwatched site).files.write path text = .ok files := written
      rw [writeFile_of_ok written, writeFile_of_ok plain]
      rfl
  | error fault =>
      have plain : (unwatched site).files.write path text = .error fault := written
      rw [writeFile_of_error written, writeFile_of_error plain]
      rfl

theorem announce_mirrors (settings : Settings) (job : Job) (identifier : Option String) :
    Mirrors unwatched (announce settings job identifier : Activity (WatchedSite τ) Unit)
      (announce settings job identifier : Activity (Site τ) Unit) := by
  unfold announce
  dsimp only
  split
  · exact mirrors_bind (mirrors_log _) fun _ => mirrors_log _
  · exact mirrors_log _

theorem submitJob_mirrors (scheduler : Scheduler τ) (settings : Settings) (dryRun : Bool)
    (job : Job) :
    Mirrors unwatched (submitJob scheduler.watched settings dryRun job)
      (submitJob scheduler settings dryRun job) := by
  have ofScript : Mirrors unwatched (writeScript settings job : Activity (WatchedSite τ) Unit)
      (writeScript settings job : Activity (Site τ) Unit) := by
    unfold writeScript
    refine mirrors_bind (makeDirectories_mirrors _) fun made => ?_
    exact mirrors_bind (mirrors_ofResult _) fun text => writeFile_mirrors _ text
  cases dryRun with
  | true =>
      rw [submitJob_of_dryRun, submitJob_of_dryRun]
      exact mirrors_bind ofScript fun _ => mirrors_bind (mirrors_log _) fun _ => mirrors_pure _
  | false =>
      rw [submitJob_of_real, submitJob_of_real]
      refine mirrors_bind ofScript fun _ => ?_
      unfold handOn
      refine mirrors_bind (fun site => rfl) fun output => ?_
      exact mirrors_bind (announce_mirrors settings job _) fun _ => mirrors_pure _

theorem submit_mirrors (scheduler : Scheduler τ) (settings : Settings) (dryRun : Bool)
    (descriptor : Value) (target : Target) :
    Mirrors unwatched (submit scheduler.watched settings dryRun descriptor target)
      (submit scheduler settings dryRun descriptor target) := by
  unfold submit
  refine mirrors_bind (mirrors_ofResult _) fun experiment => ?_
  refine mirrors_bind (fun site => rfl) fun jobs => ?_
  unfold submitAll
  refine mirrors_bind (makeDirectories_mirrors _) fun made => ?_
  exact mirrors_each (submitJob_mirrors scheduler settings dryRun) jobs

theorem call_watched (scheduler : Scheduler τ) (settings : Settings) (dryRun : Bool)
    (call : Submitter.Call) (site : WatchedSite τ) :
    (submitter scheduler settings dryRun).call call (unwatched site) =
      seen unwatched ((submitter scheduler.watched settings dryRun).call call site) :=
  submit_mirrors scheduler settings dryRun call.descriptor call.target site

/-- With and without the record every call comes to the same. -/
theorem outcomes_watched (scheduler : Scheduler τ) (settings : Settings) (dryRun : Bool)
    (site : WatchedSite τ) (calls : List Submitter.Call) :
    (submitter scheduler settings dryRun).outcomes (unwatched site) calls =
      ((submitter scheduler.watched settings dryRun).outcomes site calls).map
        (seen unwatched) := by
  induction calls generalizing site with
  | nil => rfl
  | cons call rest inductionHypothesis =>
      rw [Submitter.outcomes_cons, Submitter.outcomes_cons, List.map_cons,
        call_watched scheduler settings dryRun call site, ← inductionHypothesis]
      rfl

theorem after_watched (scheduler : Scheduler τ) (settings : Settings) (dryRun : Bool)
    (site : WatchedSite τ) (calls : List Submitter.Call) :
    (submitter scheduler settings dryRun).after (unwatched site) calls =
      unwatched ((submitter scheduler.watched settings dryRun).after site calls) := by
  induction calls generalizing site with
  | nil => rfl
  | cons call rest inductionHypothesis =>
      rw [Submitter.after_cons, Submitter.after_cons,
        call_watched scheduler settings dryRun call site, ← inductionHypothesis]
      rfl

/-! ## The record and the events -/

theorem announce_tallies (settings : Settings) (job : Job) (identifier : Option String) :
    Tallies recordedRuns Event.run?
      (announce settings job identifier : Activity (WatchedSite τ) Unit) :=
  tallies_of_keeps (announce_keeps settings job identifier)
    (announce_leaves settings job identifier fun _ => rfl)

theorem writeScript_tallies (settings : Settings) (job : Job) :
    Tallies recordedRuns Event.run?
      (writeScript settings job : Activity (WatchedSite τ) Unit) :=
  tallies_of_keeps (writeScript_keeps (fun _ _ => rfl) settings job)
    (writeScript_leaves settings job)

theorem runCommand_tallies (scheduler : Scheduler τ) (settings : Settings) (job : Job) :
    Tallies recordedRuns Event.run? (runCommand scheduler.watched settings job) :=
  fun _ => List.map_append

theorem submitJob_tallies (scheduler : Scheduler τ) (settings : Settings) (dryRun : Bool)
    (job : Job) :
    Tallies recordedRuns Event.run? (submitJob scheduler.watched settings dryRun job) := by
  cases dryRun with
  | true =>
      rw [submitJob_of_dryRun]
      refine tallies_bind (writeScript_tallies settings job) fun written => ?_
      exact tallies_bind (tallies_of_keeps (keeps_log _) (leaves_log rfl)) fun _ =>
        obeys_pure tallies_composes _
  | false =>
      rw [submitJob_of_real]
      refine tallies_bind (writeScript_tallies settings job) fun written => ?_
      unfold handOn
      refine tallies_bind (runCommand_tallies scheduler settings job) fun output => ?_
      exact tallies_bind (announce_tallies settings job _) fun _ =>
        obeys_pure tallies_composes _

theorem submit_tallies (scheduler : Scheduler τ) (settings : Settings) (dryRun : Bool)
    (descriptor : Value) (target : Target) :
    Tallies recordedRuns Event.run?
      (submit scheduler.watched settings dryRun descriptor target) := by
  unfold submit
  refine tallies_bind (tallies_of_keeps (keeps_ofResult _) (leaves_ofResult _)) fun _ => ?_
  refine tallies_bind (tallies_of_keeps (fun _ => rfl) (leaves_change _)) fun jobs => ?_
  unfold submitAll
  refine tallies_bind (tallies_of_keeps (makeDirectories_keeps (fun _ _ => rfl) _)
    (leaves_change _)) fun made => ?_
  exact tallies_each (submitJob_tallies scheduler settings dryRun) jobs

/-- The record of a sequence of calls shows the same runs, in the same order, as the events of
the calls do. -/
theorem after_recordedRuns (scheduler : Scheduler τ) (settings : Settings) (dryRun : Bool)
    (site : WatchedSite τ) (calls : List Submitter.Call) :
    recordedRuns ((submitter scheduler.watched settings dryRun).after site calls) =
      recordedRuns site ++ runsShown scheduler.watched settings dryRun site calls := by
  induction calls generalizing site with
  | nil => exact (List.append_nil _).symm
  | cons call rest inductionHypothesis =>
      have first : recordedRuns
            ((submitter scheduler.watched settings dryRun).call call site).state =
          recordedRuns site ++
            ((submitter scheduler.watched settings dryRun).call call site).events.filterMap
              Event.run? :=
        submit_tallies scheduler settings dryRun call.descriptor call.target site
      rw [Submitter.after_cons, inductionHypothesis, first, runsShown, runsShown,
        Submitter.outcomes_cons, List.flatMap_cons, List.filterMap_append, List.append_assoc]

theorem runsShown_eq_recorded (scheduler : Scheduler τ) (settings : Settings) (dryRun : Bool)
    (site : Site τ) (calls : List Submitter.Call) :
    runsShown scheduler settings dryRun site calls =
      (invocations scheduler settings dryRun site calls).map fun invocation =>
        (invocation.command, invocation.arguments) := by
  have sameEvents : runsShown scheduler settings dryRun site calls =
      runsShown scheduler.watched settings dryRun (watch site) calls := by
    have mirrored := outcomes_watched scheduler settings dryRun (watch site) calls
    change (submitter scheduler settings dryRun).outcomes site calls = _ at mirrored
    rw [runsShown, runsShown, mirrored, List.flatMap_map]
    rfl
  have recorded := after_recordedRuns scheduler settings dryRun (watch site) calls
  rw [sameEvents]
  exact recorded.symm

end Batch

end PartitionBench
