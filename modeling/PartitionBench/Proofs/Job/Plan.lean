import PartitionBench.Job.Plan
import PartitionBench.Proofs.FileName
import PartitionBench.Proofs.Job.Names

/-!
Contract: the files that planned jobs name.

Owns:
- the names of a plan, as the register hands them out for the base names in order, and the
  characters that they never have;
- the script and the result file of each planned job, which its name decides;
- that different names lead to different files, and that no script is a result file;
- that jobs with different names therefore share nothing.

Does not own: the calls in which plans are made (`Proofs.Batch.Planning`).
-/

namespace PartitionBench.Job

open PartitionBench.Numeric

/-! ## The jobs of a plan -/

/-- The base names of the jobs of an experiment, one for each block count. -/
def baseNames (experiment : Experiment) (target : Target) : List String :=
  experiment.blockCounts.mapIdx (baseNameAt experiment target)

theorem planFrom_names (settings : Settings) (experiment : Experiment) (target : Target)
    (index : Nat) (blockCounts : List Int) (taken : List String) :
    ((planFrom settings experiment target index blockCounts taken).1.map Job.name,
        (planFrom settings experiment target index blockCounts taken).2) =
      claimAll taken
        (blockCounts.mapIdx fun offset => baseNameAt experiment target (index + offset)) := by
  induction blockCounts generalizing index taken with
  | nil => rfl
  | cons blockCount rest inductionHypothesis =>
      have shifted : (fun offset => baseNameAt experiment target (index + 1 + offset)) =
          fun offset => baseNameAt experiment target (index + (offset + 1)) := by
        funext offset
        rw [Nat.add_assoc, Nat.add_comm 1 offset]
      have later := inductionHypothesis (index + 1)
        (freeName taken (baseNameAt experiment target index blockCount) :: taken)
      rw [shifted] at later
      rw [List.mapIdx_cons]
      simp only [claimAll, Nat.add_zero, ← later]
      rfl

/-- The names of a plan are those that the register hands out for its base names. -/
theorem plan_names (settings : Settings) (experiment : Experiment) (target : Target)
    (taken : List String) :
    ((plan settings experiment target taken).1.map Job.name,
        (plan settings experiment target taken).2) =
      claimAll taken (baseNames experiment target) := by
  have fromStart := planFrom_names settings experiment target 0 experiment.blockCounts taken
  simp only [Nat.zero_add] at fromStart
  exact fromStart

/-- The jobs of a plan stand in the order of the block counts. -/
theorem planFrom_blockCounts (settings : Settings) (experiment : Experiment) (target : Target)
    (index : Nat) (blockCounts : List Int) (taken : List String) :
    (planFrom settings experiment target index blockCounts taken).1.map Job.blockCount =
      blockCounts := by
  induction blockCounts generalizing index taken with
  | nil => rfl
  | cons blockCount rest inductionHypothesis =>
      exact congrArg (blockCount :: ·) (inductionHypothesis _ _)

theorem plan_blockCount_mem {settings : Settings} {experiment : Experiment} {target : Target}
    {taken : List String} {job : Job} (member : job ∈ (plan settings experiment target taken).1) :
    job.blockCount ∈ experiment.blockCounts := by
  have inPlan := List.mem_map_of_mem (f := Job.blockCount) member
  rw [plan, planFrom_blockCounts] at inPlan
  exact inPlan

/-- Each job of a plan has the label of the target and its own block count. -/
theorem planFrom_labels (settings : Settings) (experiment : Experiment) (target : Target)
    (index : Nat) (blockCounts : List Int) (taken : List String) :
    (planFrom settings experiment target index blockCounts taken).1.map
        (fun job => (job.tool, job.blockCount)) =
      blockCounts.map (Prod.mk (label target)) := by
  induction blockCounts generalizing index taken with
  | nil => rfl
  | cons blockCount rest inductionHypothesis =>
      exact congrArg ((label target, blockCount) :: ·) (inductionHypothesis _ _)

/-- The job at a place of a plan is planned for that place and for the block count there. -/
theorem planFrom_getElem? {settings : Settings} {experiment : Experiment} {target : Target}
    {index place : Nat} {blockCounts : List Int} {taken : List String} {job : Job}
    (isThere : (planFrom settings experiment target index blockCounts taken).1[place]? = some job) :
    ∃ blockCount before, blockCounts[place]? = some blockCount ∧
      job = planned settings experiment target (index + place) blockCount
        (freeName before (baseNameAt experiment target (index + place) blockCount)) := by
  induction blockCounts generalizing index place taken with
  | nil => cases isThere
  | cons blockCount rest inductionHypothesis =>
      cases place with
      | zero => exact ⟨blockCount, taken, rfl, (Option.some.inj isThere).symm⟩
      | succ place =>
          have next : index + (place + 1) = index + 1 + place := by omega
          rw [next]
          exact inductionHypothesis isThere

theorem planFrom_members {settings : Settings} {experiment : Experiment} {target : Target}
    {index : Nat} {blockCounts : List Int} {taken : List String} {job : Job}
    (member : job ∈ (planFrom settings experiment target index blockCounts taken).1) :
    ∃ place blockCount before, job = planned settings experiment target place blockCount
      (freeName before (baseNameAt experiment target place blockCount)) := by
  obtain ⟨place, isThere⟩ := List.mem_iff_getElem?.mp member
  obtain ⟨blockCount, before, _, isPlanned⟩ := planFrom_getElem? isThere
  exact ⟨index + place, blockCount, before, isPlanned⟩

/-! ## Characters that no name has -/

/-- A character that neither names nor the texts of numbers have. -/
structure IsForeign (c : Char) : Prop where
  toNames : isNameCharacter c = false
  toNumerals : isNumeralCharacter c = false

theorem slash_isForeign : IsForeign '/' :=
  ⟨by decide, by decide⟩

theorem newline_isForeign : IsForeign '\n' :=
  ⟨by decide, by decide⟩

section Foreign

variable {foreign : Char} (isForeign : IsForeign foreign)

include isForeign

theorem integerText_lacks (value : Int) : foreign ∉ (integerText value).toList := by
  intro member
  have isNumeral := integerText_areNumeral value foreign member
  rw [isForeign.toNumerals] at isNumeral
  cases isNumeral

theorem name_lacks (taken : List String) (experiment : Experiment) (target : Target)
    (index : Nat) (blockCount : Int) :
    foreign ∉ (freeName taken (baseNameAt experiment target index blockCount)).toList := by
  have ofName : ∀ c, isNameCharacter c = true → c ≠ foreign := by
    rintro c isName rfl
    rw [isForeign.toNames] at isName
    cases isName
  have ofCount : ∀ c ∈ (integerText blockCount).toList, c ≠ foreign := by
    rintro c member rfl
    exact integerText_lacks isForeign blockCount member
  intro member
  exact freeName_characters ofName taken (baseName_characters ofName _ _ ofCount) _ member rfl

end Foreign

/-! ## Scripts and result files -/

/-- An ending that makes a file name of every name without a slash: it is too long for what
comes out to be one of the components that lead nowhere. -/
structure IsEnding (ending : String) : Prop where
  noSlash : '/' ∉ ending.toList
  long : 3 ≤ ending.toList.length

theorem script_isEnding : IsEnding ".sh" :=
  ⟨by decide, by decide⟩

theorem result_isEnding : IsEnding ".info" :=
  ⟨by decide, by decide⟩

theorem output_isEnding : IsEnding ".%j.out" :=
  ⟨by decide, by decide⟩

theorem extended_isFileName {name ending : String} (noSlash : '/' ∉ name.toList)
    (isEnding : IsEnding ending) : Path.IsFileName (name ++ ending).toList := by
  rw [String.toList_append]
  have longer : 3 ≤ (name.toList ++ ending.toList).length := by
    have long := isEnding.long
    rw [List.length_append]
    omega
  have differs : ∀ short : List Char, short.length < 3 →
      name.toList ++ ending.toList ≠ short := by
    intro short isShort same
    rw [same] at longer
    omega
  refine ⟨differs _ (by decide), differs _ (by decide), differs _ (by decide), ?_⟩
  intro isSlash
  rcases List.mem_append.mp isSlash with inName | inEnding
  · exact noSlash inName
  · exact isEnding.noSlash inEnding

/-- Different names with the same ending have different paths in a directory. -/
theorem join_extended_injective (directory : String) {first second ending : String}
    (isEnding : IsEnding ending) (firstNoSlash : '/' ∉ first.toList)
    (secondNoSlash : '/' ∉ second.toList)
    (same : Path.join directory (first ++ ending) = Path.join directory (second ++ ending)) :
    first = second := by
  have sameFile := Path.joinChars_fileName_injective directory.toList
    (extended_isFileName firstNoSlash isEnding) (extended_isFileName secondNoSlash isEnding)
    (String.ofList_injective same)
  exact (String.append_left_inj ending).mp (String.toList_injective sameFile)

/-- Jobs with different names have different scripts. -/
theorem scriptFile_injective (settings : Settings) {first second : String}
    (firstNoSlash : '/' ∉ first.toList) (secondNoSlash : '/' ∉ second.toList)
    (same : scriptFile settings first = scriptFile settings second) : first = second :=
  join_extended_injective settings.jobDirectory script_isEnding firstNoSlash secondNoSlash same

/-- Jobs with different names write their results to different files. -/
theorem resultFile_injective (settings : Settings) {first second : String}
    (firstNoSlash : '/' ∉ first.toList) (secondNoSlash : '/' ∉ second.toList)
    (same : resultFile settings first = resultFile settings second) : first = second :=
  join_extended_injective settings.outputDirectory result_isEnding firstNoSlash secondNoSlash same

/-- No script is a result file, not even when both lie in the same directory: the endings
differ. -/
theorem scriptFile_ne_resultFile (settings : Settings) {first second : String}
    (firstNoSlash : '/' ∉ first.toList) (secondNoSlash : '/' ∉ second.toList) :
    scriptFile settings first ≠ resultFile settings second := by
  intro same
  have sameChars := String.ofList_injective same
  rw [Path.joinChars_fileName _ (extended_isFileName firstNoSlash script_isEnding),
    Path.joinChars_fileName _ (extended_isFileName secondNoSlash result_isEnding),
    String.toList_append, String.toList_append] at sameChars
  have sameLast := congrArg List.getLast? sameChars
  simp at sameLast

/-- The file that a job writes its results to, as the end of its command tells it. -/
def resultPath? (job : Job) : Option String :=
  match job.command.reverse with
  | some path :: some "--outFile" :: _ => some path
  | _ => none

theorem planned_resultPath (settings : Settings) (experiment : Experiment) (target : Target)
    (index : Nat) (blockCount : Int) (name : String) :
    (planned settings experiment target index blockCount name).resultPath? =
      some (resultFile settings name) := by
  simp [resultPath?, planned, commandWords]

/-! ## What a name decides -/

/-- A job whose files are those of its name, which is free of slashes. -/
structure Placed (settings : Settings) (job : Job) : Prop where
  noSlash : '/' ∉ job.name.toList
  script : job.scriptPath = scriptFile settings job.name
  result : job.resultPath? = some (resultFile settings job.name)

theorem planned_isPlaced (settings : Settings) (experiment : Experiment) (target : Target)
    (place : Nat) (blockCount : Int) (before : List String) :
    Placed settings (planned settings experiment target place blockCount
      (freeName before (baseNameAt experiment target place blockCount))) :=
  ⟨name_lacks slash_isForeign before experiment target place blockCount, rfl,
    planned_resultPath settings experiment target place blockCount _⟩

/-- Jobs of which no two share a name, a script or a result file, and of which none has a
script that is a result file. -/
structure Unshared (jobs : List Job) : Prop where
  names : (jobs.map Job.name).Nodup
  scripts : (jobs.map Job.scriptPath).Nodup
  results : (jobs.map Job.resultPath?).Nodup
  resultNamed : ∀ job ∈ jobs, job.resultPath?.isSome = true
  apart : ∀ job ∈ jobs, ∀ other ∈ jobs, other.resultPath? ≠ some job.scriptPath

/-- Placed jobs share nothing as soon as their names differ. -/
theorem unshared_of_names {settings : Settings} {jobs : List Job}
    (placed : ∀ job ∈ jobs, Placed settings job) (names : (jobs.map Job.name).Nodup) :
    Unshared jobs := by
  have sameJob : ∀ job ∈ jobs, ∀ other ∈ jobs, job.name = other.name → job = other :=
    List.inj_on_of_nodup_map names
  constructor
  case names => exact names
  case scripts =>
    refine List.Nodup.map_on ?_ (List.Nodup.of_map Job.name names)
    intro job member other otherMember same
    rw [(placed job member).script, (placed other otherMember).script] at same
    exact sameJob job member other otherMember (scriptFile_injective settings
      (placed job member).noSlash (placed other otherMember).noSlash same)
  case results =>
    refine List.Nodup.map_on ?_ (List.Nodup.of_map Job.name names)
    intro job member other otherMember same
    rw [(placed job member).result, (placed other otherMember).result] at same
    exact sameJob job member other otherMember (resultFile_injective settings
      (placed job member).noSlash (placed other otherMember).noSlash (Option.some.inj same))
  case resultNamed =>
    intro job member
    rw [(placed job member).result]
    rfl
  case apart =>
    intro job member other otherMember same
    rw [(placed other otherMember).result, (placed job member).script] at same
    exact scriptFile_ne_resultFile settings (placed job member).noSlash
      (placed other otherMember).noSlash (Option.some.inj same).symm

end PartitionBench.Job
