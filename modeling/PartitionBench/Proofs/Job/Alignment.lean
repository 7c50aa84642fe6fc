import PartitionBench.Proofs.Experiment
import PartitionBench.Proofs.Job.Places
import PartitionBench.Proofs.Numeric.Reading

/-!
Contract: how planned jobs stand to the lists of their experiment.

Owns:
- the decimal text of a block count in a command;
- that the job at each place of a plan is the one for the block count, the path and the name of the
  graph at that place of an accepted experiment, so that none of them is ever missing;
- the plans of several experiments, of which each starts with the names that those before it have
  left, and that one run of the register hands out all their names.

Does not own: which names are new (`Proofs.Job.Names`) and what becomes of the jobs (`Batch`).
-/

namespace PartitionBench.Experiment

open PartitionBench.Document

/-- An experiment that is accepted has a path and the name of a graph at the place of each block
count, and none of them is empty. -/
structure Aligned (experiment : Experiment) : Prop where
  size : experiment.size = experiment.blockCounts.length
  paths : experiment.paths.length = experiment.blockCounts.length
  graphNames : experiment.graphNames.length = experiment.blockCounts.length
  pathsNamed : ∀ path ∈ experiment.paths, path ≠ ""
  graphsNamed : ∀ graphName ∈ experiment.graphNames, graphName ≠ ""

theorem Describes.aligned {value : Value} {experiment : Experiment}
    (describes : Describes value experiment) : Aligned experiment := by
  obtain ⟨_, _, arePaths⟩ := describes.paths
  obtain ⟨_, _, areNames⟩ := describes.graphNames
  have counts := describes.blockCountsAligned
  have paths := describes.pathsAligned
  have graphNames := describes.graphNamesAligned
  exact ⟨counts, by omega, by omega, Check.forall_of_items arePaths fun _ _ isPath => isPath.2,
    Check.forall_of_items areNames fun _ _ isName => isName.2⟩

end PartitionBench.Experiment

namespace PartitionBench.Job

open PartitionBench.Document PartitionBench.Numeric

/-! ## One plan -/

/-- A text is the decimal text of an integer: it is read as the integer, and the integer is written
in plain digits as long as it has no more than 53 bits. -/
structure IsDecimalText (text : String) (value : Int) : Prop where
  plain : value.natAbs < 2 ^ 53 → text = toString value
  read : ∃ number, Json.number? text.toList = some (number, []) ∧ number.integer? = some value

theorem integerText_isDecimalText {value : Int} (isStored : IsStored value) :
    IsDecimalText (integerText value) value where
  plain := fun small => by rw [integerText, if_pos (isSafe_iff.mpr small)]
  read := number_integerText isStored

/-- A job is the one for a place in the lists of an experiment. Its block count is the number of its
tasks and stands twice in its command, which names the path of that place, and one name is its own
and that of its files. -/
structure IsFor (experiment : Experiment) (place : Nat) (job : Job) : Prop where
  blockCount : experiment.blockCounts[place]? = some job.blockCount
  tasks : job.tasks = job.blockCount
  count : ∃ text, job.command[1]? = some (some "-n") ∧ job.command[2]? = some (some text) ∧
    job.command[10]? = some (some "--numBlocks") ∧ job.command[11]? = some (some text) ∧
    text = integerText job.blockCount ∧
    (IsStored job.blockCount → IsDecimalText text job.blockCount)
  path : ∃ path, experiment.paths[place]? = some path ∧ path ≠ "" ∧
    job.command[4]? = some (some "--graphFile") ∧ job.command[5]? = some (some path)
  script : Path.name job.scriptPath = job.name ++ ".sh"
  result : ∃ path, job.command.getLast? = some (some path) ∧
    Path.name path = job.name ++ ".info"

theorem planned_isFor (settings : Settings) {experiment : Experiment} (aligned : experiment.Aligned)
    (target : Target) {place : Nat} {blockCount : Int}
    (isThere : experiment.blockCounts[place]? = some blockCount) (before : List String) :
    IsFor experiment place (planned settings experiment target place blockCount
      (freeName before (baseNameAt experiment target place blockCount))) := by
  have noSlash := name_lacks slash_isForeign before experiment target place blockCount
  have inPaths : place < experiment.paths.length := by
    rw [aligned.paths]
    exact (List.getElem?_eq_some_iff.mp isThere).1
  constructor
  case blockCount => exact isThere
  case tasks => rfl
  case count =>
    exact ⟨integerText blockCount, rfl, rfl, rfl, rfl, rfl, integerText_isDecimalText⟩
  case path =>
    refine ⟨experiment.paths[place], List.getElem?_eq_getElem inPaths,
      aligned.pathsNamed _ (List.getElem_mem inPaths), rfl, ?_⟩
    have isGiven : experiment.paths.getD place "" = experiment.paths[place] := by
      simp [inPaths]
    rw [← isGiven]
    rfl
  case script => exact (join_liesIn settings.jobDirectory noSlash script_isEnding).name
  case result =>
    -- Whatever arguments a program has of its own, the result file stands behind them.
    refine ⟨resultFile settings _, ?_,
      (join_liesIn settings.outputDirectory noSlash result_isEnding).name⟩
    simp [planned, commandWords, List.getLast?_append, List.getLast?_cons]

theorem plan_isFor (settings : Settings) {experiment : Experiment} (aligned : experiment.Aligned)
    (target : Target) (taken : List String) {place : Nat} {job : Job}
    (isThere : (plan settings experiment target taken).1[place]? = some job) :
    IsFor experiment place job := by
  obtain ⟨blockCount, before, isCount, isPlanned⟩ := planFrom_getElem? isThere
  rw [Nat.zero_add] at isPlanned
  rw [isPlanned]
  exact planned_isFor settings aligned target isCount before

theorem plan_length (settings : Settings) (experiment : Experiment) (target : Target)
    (taken : List String) :
    (plan settings experiment target taken).1.length = experiment.blockCounts.length := by
  rw [← List.length_map Job.blockCount, plan, planFrom_blockCounts]

/-- The base names of an accepted experiment come of the names of its graphs and its block counts,
taken side by side. -/
theorem baseNames_of_aligned {experiment : Experiment} (aligned : experiment.Aligned)
    (target : Target) :
    baseNames experiment target =
      List.zipWith (baseName (label target)) experiment.graphNames experiment.blockCounts := by
  have sameLength := aligned.graphNames
  refine List.ext_getElem (by simp [baseNames, sameLength]) ?_
  intro place inBases _
  have inNames : place < experiment.graphNames.length := by
    rw [sameLength]
    simpa [baseNames] using inBases
  simp [baseNames, baseNameAt, inNames]

/-! ## Plans in turn -/

/-- A plan that is asked for. Each may be asked for under settings of its own. -/
structure Request where
  settings : Settings
  experiment : Experiment
  target : Target

/-- The jobs of several experiments, each planned with the names that those before it have left. -/
def planAll : List String → List Request → List (List Job)
  | _, [] => []
  | taken, request :: rest =>
      let jobs := plan request.settings request.experiment request.target taken
      jobs.1 :: planAll jobs.2 rest

/-- The base names of the jobs that a request is for. -/
def Request.baseNames (request : Request) : List String :=
  Job.baseNames request.experiment request.target

theorem planAll_names (taken : List String) (requests : List Request) :
    (planAll taken requests).flatten.map Job.name =
      (claimAll taken (requests.flatMap Request.baseNames)).1 := by
  induction requests generalizing taken with
  | nil => rfl
  | cons request rest inductionHypothesis =>
      have names := plan_names request.settings request.experiment request.target taken
      rw [List.flatMap_cons, claimAll_append, Request.baseNames, ← names, planAll,
        List.flatten_cons, List.map_append, inductionHypothesis]

/-- **Plans are aligned.** Of accepted experiments that are planned one after another each gets as
many jobs as its size says, and the job at each place is the one for that place. The names of all of
them are those that one run of the register hands out for the base names of all block counts in
order, and each base name comes of the name of a graph that is not empty. -/
theorem plans_aligned (taken : List String) {requests : List Request}
    (areAccepted : ∀ request ∈ requests, ∃ descriptor,
      (Experiment.check descriptor).accepted = .ok request.experiment) :
    List.Forall₂
        (fun request jobs => (jobs.length : Int) = request.experiment.size ∧
          (∀ place job, jobs[place]? = some job → IsFor request.experiment place job) ∧
          ∀ graphName ∈ request.experiment.graphNames, graphName ≠ "")
        requests (planAll taken requests) ∧
      (planAll taken requests).flatten.map Job.name =
        (claimAll taken (requests.flatMap fun request =>
          List.zipWith (baseName (label request.target)) request.experiment.graphNames
            request.experiment.blockCounts)).1 := by
  have areAligned : ∀ request ∈ requests, request.experiment.Aligned := by
    intro request member
    obtain ⟨descriptor, isAccepted⟩ := areAccepted request member
    exact (Experiment.check_accepts_iff.mp (Checked.accepted_eq_ok_iff.mp isAccepted)).aligned
  constructor
  · clear areAccepted
    -- Each plan takes names away from the next, so the induction is for all names that are taken.
    induction requests generalizing taken with
    | nil => exact .nil
    | cons request rest inductionHypothesis =>
        obtain ⟨aligned, restAligned⟩ := List.forall_mem_cons.mp areAligned
        refine .cons ⟨?_, ?_, aligned.graphsNamed⟩ (inductionHypothesis _ restAligned)
        · rw [plan_length, aligned.size]
        · exact fun place job isThere =>
            plan_isFor request.settings aligned request.target taken isThere
  · rw [planAll_names]
    congr 2
    refine List.flatMap_congr fun request member => ?_
    exact baseNames_of_aligned (areAligned request member) request.target

/-- A repeated block count, and an experiment that is planned again behind another, under other
settings. -/
theorem plans_aligned_with_shared_names :
    let pair : Experiment := ⟨2, 2, 1, -1, [16, 16], 2, ["g/a.graph", "a"], ["a.graph", "a"]⟩
    let single : Experiment := ⟨2, 3, 0, -1, [2], 1, ["b"], ["a_k16"]⟩
    let elsewhere : Settings := { Settings.standard with jobDirectory := "../other" }
    let requests : List Request := [⟨Settings.standard, pair, .tool "metis"⟩,
      ⟨Settings.standard, single, .allCompetitors⟩, ⟨elsewhere, pair, .tool "metis"⟩]
    (∀ request ∈ requests, ∃ descriptor,
        (Experiment.check descriptor).accepted = .ok request.experiment) ∧
      List.Forall₂
        (fun request jobs => (jobs.length : Int) = request.experiment.size ∧
          ∀ place job, jobs[place]? = some job → IsFor request.experiment place job)
        requests (planAll [] requests) ∧
      (planAll [] requests).flatten.map Job.name =
        ["metis_a_k16", "metis_a_k16_2", "allCompetitors_a_k16_k2", "metis_a_k16_3",
          "metis_a_k16_4"] := by
  intro pair single elsewhere requests
  have ofPair : (Experiment.check pair.toValue).accepted = .ok pair := by decide +kernel
  have ofSingle : (Experiment.check single.toValue).accepted = .ok single := by decide +kernel
  have areAccepted : ∀ request ∈ requests, ∃ descriptor,
      (Experiment.check descriptor).accepted = .ok request.experiment := by
    intro request member
    simp only [requests, List.mem_cons, List.not_mem_nil, or_false] at member
    rcases member with rfl | rfl | rfl
    · exact ⟨_, ofPair⟩
    · exact ⟨_, ofSingle⟩
    · exact ⟨_, ofPair⟩
  obtain ⟨areFor, names⟩ := plans_aligned [] areAccepted
  refine ⟨areAccepted, areFor.imp fun _ _ isFor => ⟨isFor.1, isFor.2.1⟩, names.trans ?_⟩
  decide +kernel

end PartitionBench.Job
