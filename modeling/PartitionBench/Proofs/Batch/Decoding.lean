import PartitionBench.Proofs.Batch.Planning
import PartitionBench.Proofs.Job.Script
import PartitionBench.Proofs.Numeric.Reading
import PartitionBench.Proofs.Settings
import PartitionBench.Proofs.Text.Split

/-!
Contract: what the script of a job tells of the job.

Owns:
- the particulars of a job and of the settings it is submitted with;
- a decoder of scripts, which goes through the lines above the command, of which two may be
  missing, and reads the command as a shell does;
- that the decoder finds the particulars in the script of every planned job, so that jobs with
  the same script have the same particulars.

Does not own: the numerals (`Proofs.Numeric.Reading`), the words (`Proofs.Shell.RoundTrip`) and
what a shell makes of a script (`Proofs.Job.Script`).
-/

namespace PartitionBench.Job

open PartitionBench.Document PartitionBench.Numeric PartitionBench.Shell

/-! ## Decoding -/

/-- What a script tells of a job. -/
structure Particulars where
  name : String
  output : String
  nodes : Int
  tasks : Int
  walltime : String
  account : Option String
  partition : Option String
  words : List String
  deriving DecidableEq, Repr

/-- The particulars of a job whose command consists of the given words. -/
def particulars (settings : Settings) (job : Job) (words : List String) : Particulars :=
  { name := job.name
    output := Path.join settings.outputDirectory (job.name ++ ".%j.out")
    nodes := job.nodes
    tasks := job.tasks
    walltime := settings.walltime
    account := settings.account
    partition := settings.partition
    words := words }

/-- What stands behind the opening of the first line of a text, and the text behind that line. -/
def line? (opening : String) (text : List Char) : Option (String × List Char) :=
  match Text.dropOpening? opening.toList text with
  | none => none
  | some rest =>
      match rest.dropWhile (· ≠ '\n') with
      | [] => none
      | _ :: behind => some (String.ofList (rest.takeWhile (· ≠ '\n')), behind)

/-- The value of a directive, and the text behind it. -/
def value? (name : String) (text : List Char) : Option (String × List Char) :=
  line? (directive name "") text

/-- The value of a directive that may be missing, and the text behind it. -/
def optionalValue (name : String) (text : List Char) : Option String × List Char :=
  match value? name text with
  | some (value, rest) => (some value, rest)
  | none => (none, text)

/-- The integer that a text denotes. -/
def integer? (text : String) : Option Int :=
  match Json.number? text.toList with
  | some (number, []) => number.integer?
  | _ => none

/-- The words of the command below a blank line. Newlines in quotes belong to their words; only
the last one ends the command. -/
def command? : List Char → Option (List String)
  | '\n' :: rest =>
      if rest.getLast? = some '\n' then
        (readFrom .between rest.dropLast).map (·.map String.ofList)
      else none
  | _ => none

/-- The particulars that a script tells. -/
def particulars? (script : String) : Option Particulars := do
  let (_, rest) ← line? "#!/bin/bash" script.toList
  let (name, rest) ← value? "job-name" rest
  let (output, rest) ← value? "output" rest
  let (nodes, rest) ← value? "nodes" rest
  let (tasks, rest) ← value? "ntasks" rest
  let (walltime, rest) ← value? "time" rest
  let (account, rest) := optionalValue "account" rest
  let (partition, rest) := optionalValue "partition" rest
  let nodes ← integer? nodes
  let tasks ← integer? tasks
  let words ← command? rest
  return { name, output, nodes, tasks, walltime, account, partition, words }

/-! ## Lines -/

theorem line_append (opening : String) {value : String} (noNewline : '\n' ∉ value.toList)
    (rest : List Char) :
    line? opening (opening.toList ++ value.toList ++ '\n' :: rest) = some (value, rest) := by
  have inLine : ∀ c ∈ value.toList, decide (c ≠ '\n') = true := by
    intro c member
    refine decide_eq_true ?_
    rintro rfl
    exact noNewline member
  rw [line?, List.append_assoc, Text.dropOpening_append]
  dsimp only
  rw [List.dropWhile_append_of_pos inLine, List.takeWhile_append_of_pos inLine]
  simp

theorem directive_toList (name value : String) :
    (directive name value).toList = (directive name "").toList ++ value.toList := by
  simp [directive, String.toList_append]

theorem value_append (name : String) {value : String} (noNewline : '\n' ∉ value.toList)
    (rest : List Char) :
    value? name ((directive name value).toList ++ '\n' :: rest) = some (value, rest) := by
  rw [value?, directive_toList]
  exact line_append (directive name "") noNewline rest

/-- A directive that may be missing is found when it is there, and nothing is taken for it when
it is not. -/
theorem optionalValue_append (name : String) {value : Option String}
    (noNewline : ∀ text ∈ value, '\n' ∉ text.toList) {rest : List Char}
    (absent : value? name rest = none) :
    optionalValue name (linesOf ((optionalDirective name value).map String.toList) ++ rest) =
      (value, rest) := by
  cases value with
  | none =>
      rw [optionalValue]
      simp [optionalDirective, linesOf, absent]
  | some value =>
      have isThere := value_append name (noNewline value rfl) rest
      rw [optionalDirective, List.map_cons, linesOf_cons, List.map_nil, optionalValue]
      simp [linesOf, isThere]

/-! ## Numbers and commands -/

theorem integer_integerText {value : Int} (isStored : IsStored value) :
    integer? (integerText value) = some value := by
  obtain ⟨number, isRead, isInteger⟩ := number_integerText isStored
  rw [integer?, isRead]
  exact isInteger

theorem command_lineOf (words : List String) :
    command? ('\n' :: (lineOf (words.map String.toList) ++ ['\n'])) = some words := by
  have restored : String.ofList ∘ String.toList = id := funext fun _ => String.ofList_toList
  rw [command?, List.getLast?_concat, if_pos rfl, List.dropLast_concat]
  rw [lineOf, readFrom_line, Option.map_some, List.map_map, restored, List.map_id]

/-! ## Scripts -/

/-- What stands in the lines above the command stays in its line, and the numbers are stored
ones. -/
structure Legible (settings : Settings) (job : Job) : Prop where
  name : '\n' ∉ job.name.toList
  output : '\n' ∉ (Path.join settings.outputDirectory (job.name ++ ".%j.out")).toList
  nodes : IsStored job.nodes
  tasks : IsStored job.tasks
  walltime : '\n' ∉ settings.walltime.toList
  account : ∀ account ∈ settings.account, '\n' ∉ account.toList
  partition : ∀ partition ∈ settings.partition, '\n' ∉ partition.toList

theorem value_of_blank (name : String) (rest : List Char) : value? name ('\n' :: rest) = none := by
  have opening : (directive name "").toList = '#' :: ("SBATCH --" ++ name ++ "=").toList := by
    simp [directive, String.toList_append]
  rw [value?, line?, opening]
  rfl

theorem value_of_partition (value : String) (rest : List Char) :
    value? "account" ((directive "partition" value).toList ++ rest) = none := by
  have differs : ∀ more, Text.dropOpening? (directive "account" "").toList
      ((directive "partition" "").toList ++ more) = none := fun _ => rfl
  rw [value?, line?, directive_toList "partition" value, List.append_assoc, differs]

/-- Below the account stand the partition or a blank line, and neither is taken for an account. -/
theorem account_absent (partition : Option String) (rest : List Char) :
    value? "account" (linesOf ((optionalDirective "partition" partition).map String.toList) ++
      '\n' :: rest) = none := by
  cases partition with
  | none => exact value_of_blank "account" rest
  | some value =>
      rw [optionalDirective, List.map_cons, linesOf_cons]
      exact value_of_partition value _

theorem linesOf_append (lines others : List (List Char)) :
    linesOf (lines ++ others) = linesOf lines ++ linesOf others :=
  List.flatMap_append

/-- The decoder finds the particulars in a script. -/
theorem particulars_scriptOf {settings : Settings} {job : Job} (legible : Legible settings job)
    (words : List String) :
    particulars? (scriptOf settings job words) = some (particulars settings job words) := by
  have interpreter : ∀ rest, line? "#!/bin/bash" ("#!/bin/bash".toList ++ '\n' :: rest) =
      some ("", rest) := fun rest => by
    have read := line_append "#!/bin/bash" (by decide : '\n' ∉ "".toList) rest
    simpa using read
  have noNewline : ∀ value, '\n' ∉ (integerText value).toList :=
    integerText_lacks newline_isForeign
  have account := optionalValue_append "account" legible.account
    (account_absent settings.partition (lineOf (words.map String.toList) ++ ['\n']))
  have partition := optionalValue_append "partition" legible.partition
    (value_of_blank "partition" (lineOf (words.map String.toList) ++ ['\n']))
  rw [particulars?, scriptOf_toList, scriptHead, List.map_append, List.map_append, linesOf_append,
    linesOf_append, List.append_assoc, List.append_assoc]
  simp only [List.map_cons, List.map_nil, linesOf_cons, interpreter, Option.bind_eq_bind,
    Option.bind_some, value_append _ legible.name, value_append _ legible.output,
    value_append _ (noNewline _), value_append _ legible.walltime]
  have nothing : linesOf [] = [] := rfl
  simp only [nothing, List.nil_append, account, partition, integer_integerText legible.nodes,
    integer_integerText legible.tasks, command_lineOf, Option.bind_some]
  rfl

end PartitionBench.Job

namespace PartitionBench.Batch

open PartitionBench.Document PartitionBench.Numeric

/-! ## Planned jobs -/

/-- A planned job with a command of the given words, and checked settings, in any environment, of
which no newline comes into the lines above the command. The job may have been planned with other
settings. Integers have no bound here, and so its block count is asked to be a stored number. -/
structure Scripted (settings : Settings) (job : Job) (words : List String) : Prop where
  isChecked : ∃ config base environment, (Settings.check config).accepted = .ok base ∧
    settings = base.overridden environment
  isPlanned : ∃ planning taken call, job ∈ plannedBy planning taken call
  isStored : IsStored job.blockCount
  areTexts : Job.texts? job.command = some words
  outputDirectory : '\n' ∉ settings.outputDirectory.toList
  account : ∀ account ∈ settings.account, '\n' ∉ account.toList
  partition : ∀ partition ∈ settings.partition, '\n' ∉ partition.toList

theorem legible_of_scripted {settings : Settings} {job : Job} {words : List String}
    (scripted : Scripted settings job words) : Job.Legible settings job := by
  obtain ⟨config, base, environment, isChecked, rfl⟩ := scripted.isChecked
  obtain ⟨planning, taken, call, member⟩ := scripted.isPlanned
  have noSlash := (plannedBy_placed member).noSlash
  obtain ⟨experiment, place, blockCount, before, rfl⟩ := plannedBy_members member
  have name := Job.name_lacks Job.newline_isForeign before experiment call.target place blockCount
  constructor
  case name => exact name
  case output =>
    rw [Path.join, String.toList_ofList]
    refine Path.joinChars_fileName_lacks (Job.extended_isFileName noSlash Job.output_isEnding)
      (by decide) scripted.outputDirectory ?_
    rw [String.toList_append, List.mem_append, not_or]
    exact ⟨name, by decide⟩
  case nodes => exact (divide_isProper blockCount planning.coresPerNode).ceiling
  case tasks => exact scripted.isStored
  case walltime =>
    have ofBase := Settings.check_walltime isChecked
    exact ofBase
  case account => exact scripted.account
  case partition => exact scripted.partition

/-- **A script tells what it was made of.** One decoder finds in the script of a planned job its
name, the path of the output, nodes, tasks, wall time, the account and the partition or that there
is none, and all words of the command, whatever these are. Jobs with the same script therefore
agree in all of it. -/
theorem script_tells_particulars {settings : Settings} {job : Job} {words : List String}
    (scripted : Scripted settings job words) :
    ∃ script, job.script settings = .ok script ∧
      Job.particulars? script = some (Job.particulars settings job words) ∧
      ∀ (otherSettings : Settings) (other : Job) (otherWords : List String),
        Scripted otherSettings other otherWords → other.script otherSettings = .ok script →
          Job.particulars otherSettings other otherWords = Job.particulars settings job words := by
  have isScript : ∀ {settings : Settings} {job : Job} {words : List String},
      Scripted settings job words → job.script settings = .ok (Job.scriptOf settings job words) := by
    intro settings job words scripted
    simp only [Job.script, scripted.areTexts]
  have isRead := Job.particulars_scriptOf (legible_of_scripted scripted) words
  refine ⟨_, isScript scripted, isRead, ?_⟩
  intro otherSettings other otherWords otherScripted sameScript
  have sameText : Job.scriptOf otherSettings other otherWords = Job.scriptOf settings job words :=
    Except.ok.inj ((isScript otherScripted).symm.trans sameScript)
  have otherIsRead := Job.particulars_scriptOf (legible_of_scripted otherScripted) otherWords
  rw [sameText, isRead] at otherIsRead
  exact (Option.some.inj otherIsRead).symm

/-- A script without an account, of which one word looks as if it named one behind a blank line. -/
theorem script_tells_particulars_behind_lookalike :
    let settings := Settings.standard.overridden [("PARTSUBMIT_PARTITION", "fat nodes")]
    let call : Submitter.Call :=
      ⟨(Experiment.mk 2 2 0 (-1) [20] 1 ["a\n\n#SBATCH --account=x\n"] ["it's"]).toValue,
        .tool "metis"⟩
    ∃ job ∈ plannedBy settings [] call, ∃ script, job.script settings = .ok script ∧
      Job.particulars? script = some
        { name := "metis_it_s_k20"
          output := "output/metis_it_s_k20.%j.out"
          nodes := 2
          tasks := 20
          walltime := "00:30:00"
          account := none
          partition := some "fat nodes"
          words := ["mpiexec", "-n", "20", "competitorsMain", "--graphFile",
            "a\n\n#SBATCH --account=x\n", "--fileFormat", "0", "--dimensions", "2",
            "--numBlocks", "20", "--repeatTimes", "5", "--tool", "metis", "--outFile",
            "output/metis_it_s_k20.info"] } := by
  intro settings call
  let job := Job.planned settings
    (Experiment.mk 2 2 0 (-1) [20] 1 ["a\n\n#SBATCH --account=x\n"] ["it's"]) (.tool "metis") 0 20
    "metis_it_s_k20"
  have isChecked : (Settings.check (.record [])).accepted = .ok Settings.standard := by
    decide +kernel
  have member : job ∈ plannedBy settings [] call := by decide +kernel
  have areTexts : Job.texts? job.command = some ["mpiexec", "-n", "20", "competitorsMain",
      "--graphFile", "a\n\n#SBATCH --account=x\n", "--fileFormat", "0", "--dimensions", "2",
      "--numBlocks", "20", "--repeatTimes", "5", "--tool", "metis", "--outFile",
      "output/metis_it_s_k20.info"] := by
    decide +kernel
  obtain ⟨script, isScript, isRead, _⟩ := @script_tells_particulars settings job _
    ⟨⟨_, _, _, isChecked, rfl⟩, ⟨_, _, _, member⟩, isStored_of_small (by decide), areTexts,
      by decide +kernel, by decide +kernel, by decide +kernel⟩
  refine ⟨job, member, script, isScript, isRead.trans ?_⟩
  decide +kernel

end PartitionBench.Batch
