import PartitionBench.Job.Script
import PartitionBench.Proofs.Arguments
import PartitionBench.Proofs.Job.Plan
import PartitionBench.Proofs.Numeric.Division
import PartitionBench.Proofs.Settings
import PartitionBench.Validation

/-!
Contract: which planned jobs are sound.

Owns:
- what the check of jobs demands of a job;
- the demands that every planned job meets, and those that hang on its block count;
- the jobs of arguments without a warning.

Does not own: the files of a job (`Proofs.Job.Plan`) and what becomes of it (`Proofs.Batch`).
-/

namespace PartitionBench.Job

open PartitionBench.Document PartitionBench.Numeric Checked Check

/-! ## What is demanded -/

/-- A job that can be handed on: it has a name, a tool, a script and a command of texts, and asks
for some blocks, nodes and tasks. -/
structure Sound (job : Job) : Prop where
  name : job.name ≠ ""
  tool : job.tool ≠ ""
  blockCount : 0 < job.blockCount
  nodes : 0 < job.nodes
  tasks : 0 < job.tasks
  command : job.command ≠ []
  words : ∀ word ∈ job.command, word.isSome = true
  script : job.scriptPath ≠ ""

theorem accepts_positiveOfInt {value read : Int} :
    (integerOf positiveWhole (.ofInt value)).Accepts read ↔ 0 < value ∧ value = read := by
  rw [accepts_integerOf accepts_positiveWhole]
  constructor
  · rintro ⟨⟨number, isNumber, isInteger⟩, positive⟩
    obtain rfl := Value.number.inj isNumber
    rw [integer?_finite] at isInteger
    obtain rfl := Option.some.inj isInteger
    exact ⟨positive, rfl⟩
  · rintro ⟨positive, rfl⟩
    exact ⟨ofInt_isInteger value, positive⟩

theorem accepts_word {word read : Option String} :
    ((fun value => some <$> anyText value) (wordValue word)).Accepts read ↔
      word.isSome = true ∧ word = read := by
  cases word with
  | none => simp [wordValue, anyText]
  | some word => simp [wordValue, anyText]

theorem accepts_words {command read : List (Option String)} :
    (someList (fun value => some <$> anyText value) (.list (command.map wordValue))).Accepts read ↔
      command ≠ [] ∧ (∀ word ∈ command, word.isSome = true) ∧ command = read := by
  have itself : List.Forall₂ (fun word item => word.isSome = true ∧ word = item) command read ↔
      (∀ word ∈ command, word.isSome = true) ∧ command = read := by
    rw [List.forall₂_and_left, List.forall₂_eq_eq_eq]
  rw [accepts_someList]
  constructor
  · rintro ⟨_, isList, someWords, areRead⟩
    cases isList
    rw [List.forall₂_map_left_iff] at areRead
    exact ⟨by simpa using someWords, itself.mp (areRead.imp fun _ _ => accepts_word.mp)⟩
  · rintro ⟨someWords, areTexts⟩
    refine ⟨_, rfl, by simpa using someWords, ?_⟩
    rw [List.forall₂_map_left_iff]
    exact (itself.mpr areTexts).imp fun _ _ => accepts_word.mpr

/-- The check of jobs accepts exactly the sound ones. -/
theorem check_accepts_iff {job : Job} : (check job.toValue).Accepts job ↔ Sound job := by
  have name : Table.find? job.fields "name" = some (.text job.name) := rfl
  have tool : Table.find? job.fields "tool" = some (.text job.tool) := rfl
  have blockCount : Table.find? job.fields "blockCount" = some (.ofInt job.blockCount) := rfl
  have nodes : Table.find? job.fields "nodes" = some (.ofInt job.nodes) := rfl
  have tasks : Table.find? job.fields "tasks" = some (.ofInt job.tasks) := rfl
  have command : Table.find? job.fields "command" = some (.list (job.command.map wordValue)) := rfl
  have script : Table.find? job.fields "scriptPath" = some (.text job.scriptPath) := rfl
  have reading : (check job.toValue).Accepts job ↔ (checkFields job.fields).Accepts job := Iff.rfl
  simp only [reading, checkFields, accepts_seq, accepts_map, accepts_field, name, tool, blockCount,
    nodes, tasks, command, script, Option.some.injEq, exists_eq_left', accepts_someText, IsText,
    Value.text.injEq, accepts_positiveOfInt, accepts_words]
  constructor
  · rintro ⟨_, ⟨_, ⟨_, ⟨_, ⟨_, ⟨_, ⟨_, ⟨rfl, named⟩, rfl⟩, _, ⟨rfl, ofTool⟩, rfl⟩, _, ⟨someBlocks, rfl⟩,
      rfl⟩, _, ⟨someNodes, rfl⟩, rfl⟩, _, ⟨someTasks, rfl⟩, rfl⟩, _, ⟨someWords, areTexts, rfl⟩, rfl⟩,
      _, ⟨rfl, hasScript⟩, _⟩
    exact ⟨named, ofTool, someBlocks, someNodes, someTasks, someWords, areTexts, hasScript⟩
  · intro sound
    exact ⟨_, ⟨_, ⟨_, ⟨_, ⟨_, ⟨_, ⟨_, ⟨rfl, sound.name⟩, rfl⟩, _, ⟨rfl, sound.tool⟩, rfl⟩, _,
      ⟨sound.blockCount, rfl⟩, rfl⟩, _, ⟨sound.nodes, rfl⟩, rfl⟩, _, ⟨sound.tasks, rfl⟩, rfl⟩, _,
      ⟨sound.command, sound.words, rfl⟩, rfl⟩, _, ⟨rfl, sound.script⟩, rfl⟩

/-! ## What every planned job meets -/

theorem Placed.script_ne_empty {settings : Settings} {job : Job} (placed : Placed settings job) :
    job.scriptPath ≠ "" := by
  have isFile := extended_isFileName placed.noSlash script_isEnding
  rw [placed.script, scriptFile, Path.join, Path.joinChars_fileName _ isFile]
  simp

/-- A planned job for a target with a name and a program is sound when it asks for some blocks and
some nodes. -/
theorem planned_sound_iff {settings : Settings} {experiment : Experiment} {target : Target}
    (named : label target ≠ "") (hasProgram : (program settings target).isSome = true) (place : Nat)
    (blockCount : Int) (before : List String) :
    Sound (planned settings experiment target place blockCount
        (freeName before (baseNameAt experiment target place blockCount))) ↔
      0 < blockCount ∧ 0 < nodeCount blockCount settings.coresPerNode := by
  have placed := planned_isPlaced settings experiment target place blockCount before
  constructor
  · intro sound
    exact ⟨sound.blockCount, sound.nodes⟩
  · rintro ⟨someBlocks, someNodes⟩
    constructor
    case name => exact freeName_ne_empty before _ _ blockCount
    case tool => exact named
    case blockCount => exact someBlocks
    case nodes => exact someNodes
    case tasks => exact someBlocks
    case command => exact List.cons_ne_nil _ _
    case words =>
      refine List.forall_mem_append.mpr ⟨?_, ?_⟩
      · simp [hasProgram]
      · intro word member
        obtain ⟨text, _, rfl⟩ := List.mem_map.mp member
        rfl
    case script => exact placed.script_ne_empty

/-! ## Arguments without a warning -/

/-- A tool whose program is a text whatever it is called: a program is configured for it, or it is
the one with a program of its own, or one of the standard competitors. -/
def IsKnown (settings : Settings) (tool : String) : Prop :=
  (Table.find? settings.executables tool).isSome = true ∨ tool = ownTool ∨
    tool ∈ Settings.standard.competitorTools

theorem program_of_known {settings : Settings} {tool : String} (known : IsKnown settings tool) :
    (program settings (.tool tool)).isSome = true := by
  rw [program, toolProgram, Table.lookUp]
  cases isFound : Table.find? settings.executables tool with
  | some found => rfl
  | none =>
      have notBuiltin : Table.builtinText? tool = none := by
        rcases known with isConfigured | rfl | isStandard
        · rw [isFound] at isConfigured
          cases isConfigured
        · decide
        · have ofStandard : ∀ standard ∈ Settings.standard.competitorTools,
              Table.builtinText? standard = none := by
            decide
          exact ofStandard tool isStandard
      simp [notBuiltin]

/-- What the jobs of arguments can be planned for: all competitors, or a known tool that the
arguments name. -/
def Suits (settings : Settings) (arguments : Arguments) : Target → Prop
  | .allCompetitors => True
  | .tool name => name ∈ arguments.tools ∧ IsKnown settings name

theorem suits_named {settings : Settings} {arguments : Arguments} {target : Target}
    (wellFormed : arguments.WellFormed) (suits : Suits settings arguments target) :
    label target ≠ "" ∧ (program settings target).isSome = true := by
  cases target with
  | allCompetitors => exact ⟨by decide, rfl⟩
  | tool name => exact ⟨wellFormed.toolsNamed name suits.1, program_of_known suits.2⟩

theorem multiples_of_unwarned {σ : Type} {lookUp : σ → String → Except Failure Bool} {state : σ}
    {arguments : Arguments}
    (unwarned : (Validation.validate lookUp arguments state).result = .ok []) :
    ∀ blockCount ∈ arguments.blockCounts, blockCountMultiple ∣ blockCount := by
  have noAdvice : Validation.advice arguments = [] := by
    unfold Validation.validate at unwarned
    dsimp only at unwarned
    split at unwarned
    · cases unwarned
    · exact Except.ok.inj unwarned
    · cases unwarned
  have noCounts : Validation.countAdvice arguments = [] := by
    simp only [Validation.advice, List.append_eq_nil_iff] at noAdvice
    exact noAdvice.1.1.2
  rw [Validation.countAdvice, List.map_eq_nil_iff, List.filter_eq_nil_iff] at noCounts
  intro blockCount member
  have isMultiple := noCounts blockCount member
  exact Int.dvd_of_emod_eq_zero (by simpa using isMultiple)

/-- **Jobs of arguments without a warning are sound when they are for some blocks.** Whatever names
are taken, the block count of each planned job is one of the arguments and a multiple of 16, and it
is the number of its tasks. It decides alone whether the job asks for some nodes and whether the
check of jobs accepts it. Numbers have no bound here, and so that of the cores of a node is asked to
be a stored one, as every number that is read from a document is. -/
theorem unwarned_jobs_sound_iff {σ : Type} {lookUp : σ → String → Except Failure Bool} {state : σ}
    {raw config : Value} {arguments : Arguments} {base : Settings}
    (parsed : Arguments.ofValue raw = .ok arguments)
    (unwarned : (Validation.validate lookUp arguments state).result = .ok [])
    (isChecked : (Settings.check config).accepted = .ok base)
    (proper : ∀ number, config.field? "coresPerNode" = some (.number number) → IsProper number)
    (environment : List (String × String)) {target : Target}
    (suits : Suits (base.overridden environment) arguments target) (taken : List String) :
    ∀ job ∈ (plan (base.overridden environment) (Experiment.ofArguments arguments) target taken).1,
      job.blockCount ∈ arguments.blockCounts ∧ blockCountMultiple ∣ job.blockCount ∧
        job.tasks = job.blockCount ∧ (0 < job.nodes ↔ 0 < job.blockCount) ∧
        ((check job.toValue).accepted = .ok job ↔ 0 < job.blockCount) := by
  intro job member
  have wellFormed := Arguments.wellFormed_of_value parsed
  obtain ⟨named, hasProgram⟩ := suits_named wellFormed suits
  obtain ⟨positive, isStored⟩ :=
    Settings.check_coresPerNode_isStored (accepted_eq_ok_iff.mp isChecked) proper
  have inArguments : job.blockCount ∈ arguments.blockCounts := plan_blockCount_mem member
  obtain ⟨place, blockCount, before, rfl⟩ := planFrom_members member
  have someNodes : 0 < nodeCount blockCount base.coresPerNode ↔ 0 < blockCount :=
    ceiling_divide_pos_iff (wellFormed.blockCountsSafe blockCount inArguments) positive isStored
  refine ⟨inArguments, multiples_of_unwarned unwarned _ inArguments, rfl, someNodes, ?_⟩
  rw [accepted_eq_ok_iff, check_accepts_iff, planned_sound_iff named hasProgram]
  exact ⟨And.left, fun someBlocks => ⟨someBlocks, someNodes.mpr someBlocks⟩⟩

/-- Two block counts for a tool that a program is configured for. -/
theorem unwarned_jobs_sound_with_own_program :
    let raw : Value := .record [("tools", .ofTexts ["metis"]), ("fileName", .text "a.graph"),
      ("numBlocks", .ofTexts ["16", "48"]), ("fileFormat", .text "1"), ("dimensions", .text "2")]
    let config : Value := .record [("coresPerNode", .ofInt 20),
      ("executables", .record [("metis", .text "gpmetis")])]
    let arguments : Arguments := ⟨["metis"], "a.graph", [16, 48], 1, 2⟩
    let settings : Settings :=
      { Settings.standard with coresPerNode := 20, executables := [("metis", "gpmetis")] }
    Arguments.ofValue raw = .ok arguments ∧ (Settings.check config).accepted = .ok settings ∧
      ∀ job ∈ (plan settings (Experiment.ofArguments arguments) (.tool "metis") []).1,
        (check job.toValue).accepted = .ok job := by
  intro raw config arguments settings
  have parsed : Arguments.ofValue raw = .ok arguments := by decide +kernel
  have isChecked : (Settings.check config).accepted = .ok settings := by decide +kernel
  have unwarned : (Validation.validate (fun _ _ => .ok true) arguments ()).result = .ok [] := by
    decide +kernel
  have proper : ∀ number, config.field? "coresPerNode" = some (.number number) →
      IsProper number := by
    rintro number isField
    cases isField
    exact @IsProper.finite false 20 0 (by decide) (by decide)
  refine ⟨parsed, isChecked, ?_⟩
  intro job member
  obtain ⟨inArguments, _, _, _, isSound⟩ := @unwarned_jobs_sound_iff Unit (fun _ _ => .ok true) ()
    raw config arguments settings parsed unwarned isChecked proper [] (.tool "metis")
    ⟨by decide, Or.inl (by decide)⟩ [] job member
  refine isSound.mpr ?_
  have allPositive : ∀ blockCount ∈ arguments.blockCounts, 0 < blockCount := by decide
  exact allPositive job.blockCount inArguments

/-- A block count of zero gives no warning, and a script that asks for no nodes and no tasks. -/
theorem unwarned_job_without_nodes :
    let raw : Value := .record [("tools", .ofTexts ["Geographer"]), ("fileName", .text "a.graph"),
      ("numBlocks", .ofTexts ["0"]), ("fileFormat", .text "1"), ("dimensions", .text "2")]
    let arguments : Arguments := ⟨["Geographer"], "a.graph", [0], 1, 2⟩
    let jobs :=
      (plan Settings.standard (Experiment.ofArguments arguments) (.tool "Geographer") []).1
    Arguments.ofValue raw = .ok arguments ∧
      (Validation.validate (fun _ _ => .ok true) arguments ()).result = .ok [] ∧
      (Settings.check (.record [])).accepted = .ok Settings.standard ∧
      jobs.map (fun job => (job.nodes, job.tasks, (check job.toValue).accepted.isOk)) =
        [(0, 0, false)] ∧
      jobs.map (scriptHead Settings.standard) = [["#!/bin/bash",
        "#SBATCH --job-name=Geographer_a_k0", "#SBATCH --output=output/Geographer_a_k0.%j.out",
        "#SBATCH --nodes=0", "#SBATCH --ntasks=0", "#SBATCH --time=00:30:00"]] := by
  decide +kernel

end PartitionBench.Job
