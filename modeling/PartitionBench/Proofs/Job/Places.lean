import PartitionBench.Job.Script
import PartitionBench.Proofs.Job.Plan
import PartitionBench.Proofs.Numeric.Plain

/-!
Contract: the places of the files that planned jobs name.

Owns:
- the characters of the name of a job, which are those of names as long as its block count is
  written in plain digits;
- what it is for a file to lie in a directory under a given name;
- that the script, the result file and the output of a planned job lie in their directories, under
  names that the name of the job begins.

Does not own: that different jobs have different files (`Proofs.Job.Plan`) and which directories
there are (`FileTree`).
-/

namespace PartitionBench.Job

open PartitionBench.Numeric

/-! ## Names -/

theorem isNameCharacter_of_alphanum {c : Char} (isAlphanum : c.isAlphanum = true) :
    isNameCharacter c = true := by
  have spelled : (decide (c.val ≥ 'A'.val ∧ c.val ≤ 'Z'.val) ||
      (decide (c.val ≥ 'a'.val) && decide (c.val ≤ 'z'.val)) ||
      (decide (c.val ≥ '0'.val) && decide (c.val ≤ '9'.val))) = true := isAlphanum
  simp only [Bool.or_eq_true, Bool.and_eq_true, decide_eq_true_eq, ge_iff_le] at spelled
  simp only [isNameCharacter, Bool.or_eq_true, Bool.and_eq_true, decide_eq_true_eq, Char.le_def]
  tauto

/-- Of the characters of numerals only the plus sign is none of names. -/
theorem isNameCharacter_of_numeral {c : Char} (isNumeral : isNumeralCharacter c = true) :
    isNameCharacter c = true ∨ c = '+' := by
  simp only [isNumeralCharacter, Bool.or_eq_true, decide_eq_true_eq] at isNumeral
  rcases isNumeral with ((alphanumeric | rfl) | rfl) | rfl
  · exact Or.inl (isNameCharacter_of_alphanum alphanumeric)
  all_goals decide

/-- A name has the characters of names and, for a block count that is written with an exponent, the
plus sign of that exponent. -/
theorem freeName_plain (taken : List String) (experiment : Experiment) (target : Target)
    (place : Nat) {blockCount : Int} (isStored : IsStored blockCount) :
    ∀ c ∈ (freeName taken (baseNameAt experiment target place blockCount)).toList,
      isNameCharacter c = true ∨ c = '+' ∧ 10 ^ 21 ≤ blockCount.natAbs := by
  refine freeName_characters (fun c => Or.inl) taken (baseName_characters (fun c => Or.inl) _ _ ?_)
  intro c member
  rcases isNameCharacter_of_numeral (integerText_areNumeral blockCount c member) with
    isName | rfl
  · exact Or.inl isName
  · exact Or.inr ⟨rfl, large_of_plus isStored member⟩

/-! ## Files -/

/-- A path leads to a file of the given name in a directory. What stands in front of the name is
what stands there for every file name, and so the directory alone decides it. -/
structure LiesIn (directory name path : String) : Prop where
  name : Path.name path = name
  directory : Path.directory path = Path.directory (Path.join directory "x")

theorem join_liesIn (directory : String) {name ending : String} (noSlash : '/' ∉ name.toList)
    (isEnding : IsEnding ending) :
    LiesIn directory (name ++ ending) (Path.join directory (name ++ ending)) where
  name := Path.name_join directory (extended_isFileName noSlash isEnding)
  directory := Path.directory_join directory (extended_isFileName noSlash isEnding)
    ⟨by decide, by decide, by decide, by decide⟩

/-- The lines of a script begin with the interpreter, the name of the job and its output. -/
theorem script_opens {settings : Settings} {job : Job} {text : String}
    (isScript : job.script settings = .ok text) :
    ∃ below, text = String.intercalate "\n"
      ("#!/bin/bash" :: directive "job-name" job.name ::
        directive "output" (Path.join settings.outputDirectory (job.name ++ ".%j.out")) ::
        below) := by
  unfold script at isScript
  split at isScript
  next words _ =>
    cases isScript
    exact ⟨_, rfl⟩
  next => cases isScript

/-- A job whose name holds none but safe characters, and whose files lie in the directories of the
settings under that name. -/
structure Contained (settings : Settings) (job : Job) : Prop where
  named : job.name ≠ ""
  /-- The plus sign is that of an exponent, which integers of more than 21 digits are written
  with. -/
  characters : ∀ c ∈ job.name.toList,
    isNameCharacter c = true ∨ c = '+' ∧ 10 ^ 21 ≤ job.blockCount.natAbs
  script : LiesIn settings.jobDirectory (job.name ++ ".sh") job.scriptPath
  result : ∃ path, job.resultPath? = some path ∧
    LiesIn settings.outputDirectory (job.name ++ ".info") path
  output : ∀ text, job.script settings = .ok text →
    ∃ path below, LiesIn settings.outputDirectory (job.name ++ ".%j.out") path ∧
      text = String.intercalate "\n"
        ("#!/bin/bash" :: directive "job-name" job.name :: directive "output" path :: below)

theorem planned_contained (settings : Settings) (experiment : Experiment) (target : Target)
    (place : Nat) {blockCount : Int} (isStored : IsStored blockCount) (before : List String) :
    Contained settings (planned settings experiment target place blockCount
      (freeName before (baseNameAt experiment target place blockCount))) := by
  have noSlash := name_lacks slash_isForeign before experiment target place blockCount
  constructor
  case named => exact freeName_ne_empty before _ _ blockCount
  case characters => exact freeName_plain before experiment target place isStored
  case script => exact join_liesIn settings.jobDirectory noSlash script_isEnding
  case result =>
    exact ⟨_, planned_resultPath settings experiment target place blockCount _,
      join_liesIn settings.outputDirectory noSlash result_isEnding⟩
  case output =>
    intro text isScript
    obtain ⟨below, opens⟩ := script_opens isScript
    exact ⟨_, below, join_liesIn settings.outputDirectory noSlash output_isEnding, opens⟩

/-- **Job files stay in their directories.** Whatever the tool and the graphs are called, whatever
names are taken and however the directories are written: the name of every planned job consists of
letters, digits, underscores, points and dashes, to which only an exponent in the text of its block
count adds a plus sign, and its files lie under that name where the settings say. Integers have no
bound here, and so block counts are asked to be stored ones. -/
theorem plan_contained (settings : Settings) (experiment : Experiment) (target : Target)
    (taken : List String) (areStored : ∀ blockCount ∈ experiment.blockCounts, IsStored blockCount) :
    ∀ job ∈ (plan settings experiment target taken).1, Contained settings job := by
  intro job member
  have isStored := areStored job.blockCount (plan_blockCount_mem member)
  obtain ⟨place, blockCount, before, rfl⟩ := planFrom_members member
  exact planned_contained settings experiment target place isStored before

/-- A tool and a graph that are called like paths out of the directories, which are themselves
written with detours, and a name that is taken. -/
theorem plan_contained_despite_dots :
    let settings :=
      { Settings.standard with jobDirectory := "/a/../b//./", outputDirectory := "../out/.." }
    let experiment : Experiment := ⟨2, 2, 1, -1, [16, -32], 2, ["g", "g"], ["..", "a/../𝔾.graph"]⟩
    let jobs := (plan settings experiment (.tool "../../x\n") [".._.._x__._k16"]).1
    (∀ job ∈ jobs, Contained settings job) ∧
      jobs.map Job.scriptPath = ["/b/.._.._x__._k16_2.sh", "/b/.._.._x__a_..____k-32.sh"] ∧
      jobs.map Job.resultPath? =
        [some "../.._.._x__._k16_2.info", some "../.._.._x__a_..____k-32.info"] := by
  intro settings experiment jobs
  have areStored : ∀ blockCount ∈ experiment.blockCounts, IsStored blockCount := by
    simp [experiment, isStored_of_small]
  exact ⟨plan_contained settings experiment _ _ areStored, by decide +kernel, by decide +kernel⟩

/-- A descriptor is accepted whose block count is written with an exponent, and the plus sign goes
into the name of the job. -/
theorem planned_name_with_plus :
    let experiment : Experiment :=
      ⟨2, 2, 1, -1, [1000000000000000000000], 1, ["graph1.graph"], ["graph1.graph"]⟩
    (Experiment.check experiment.toValue).accepted = .ok experiment ∧
      (plan Settings.standard experiment (.tool "Geographer") []).1.map Job.name =
        ["Geographer_graph1_k1e+21"] ∧
      ¬ ∀ job ∈ (plan Settings.standard experiment (.tool "Geographer") []).1,
        ∀ c ∈ job.name.toList, isNameCharacter c = true := by
  intro experiment
  have names : (plan Settings.standard experiment (.tool "Geographer") []).1.map Job.name =
      ["Geographer_graph1_k1e+21"] := by
    decide +kernel
  refine ⟨by decide +kernel, names, ?_⟩
  intro allPlain
  obtain ⟨job, member, isName⟩ : ∃ job ∈ (plan Settings.standard experiment
      (.tool "Geographer") []).1, job.name = "Geographer_graph1_k1e+21" := by
    rw [← List.mem_map, names]
    exact List.mem_singleton_self _
  have isPlain := allPlain job member '+' (by rw [isName]; decide)
  exact absurd isPlain (by decide)

end PartitionBench.Job
