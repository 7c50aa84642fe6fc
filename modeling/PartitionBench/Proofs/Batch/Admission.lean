import PartitionBench.Dispatch
import PartitionBench.Proofs.Arguments
import PartitionBench.Proofs.Batch.Refusal
import PartitionBench.Proofs.FileName

/-!
Contract: the calls that come of arguments.

Owns:
- what the check of descriptors makes of the experiment that arguments describe;
- that a call for it is admitted when the file name is more than slashes, and refused for
  the names of the graphs otherwise.

Does not own: what an admitted call does (`Proofs.Batch.Scripts`).
-/

namespace PartitionBench

open PartitionBench.Document PartitionBench.Numeric

namespace Experiment

open Checked Check

variable {arguments : Arguments}

/-- The issues of an experiment whose file has no name: one for the name of each graph. -/
def nameless (arguments : Arguments) : List Issue :=
  (List.range arguments.blockCounts.length).map fun index =>
    ⟨[.field "graphNames", .item index], .textTooShort⟩

/-- The draft that the descriptor of arguments is read as. -/
def draftOf (arguments : Arguments) : Draft :=
  { experimentType := .finite singleFileType 0
    dimension := .finite arguments.dimensions 0
    fileFormatCode := .finite arguments.fileFormat 0
    identifier := .finite unassignedIdentifier 0
    blockCounts := arguments.blockCounts.map (.finite · 0)
    size := .finite arguments.blockCounts.length 0
    paths := List.replicate arguments.blockCounts.length arguments.fileName
    graphNames := List.replicate arguments.blockCounts.length (Path.name arguments.fileName) }

theorem ofDraft_draftOf (arguments : Arguments) :
    ofDraft (draftOf arguments) = ofArguments arguments := by
  have toInt_finite : ∀ value : Int, (Binary64.finite value 0).toInt = value :=
    fun value => toInt_of_integer (integer?_finite value)
  simp [ofDraft, draftOf, ofArguments, toInt_finite, Function.comp_def]

theorem draftOf_isAligned (arguments : Arguments) : (draftOf arguments).isAligned = true := by
  rw [isAligned_iff]
  simp [draftOf, integer?_finite]

theorem items_replicate (text : String) (index count : Nat) :
    items someText index ((List.replicate count text).map .text) =
      ⟨some (List.replicate count text),
        if text = "" then
          (List.range' index count).map fun place => ⟨[.item place], .textTooShort⟩
        else []⟩ := by
  induction count generalizing index with
  | zero =>
      split <;> rfl
  | succ count inductionHypothesis =>
      rw [List.replicate_succ, List.map_cons, items, inductionHypothesis]
      by_cases isEmpty : text = ""
      · simp only [if_pos isEmpty, List.range'_succ, List.map_cons]
        subst isEmpty
        rfl
      · simp only [if_neg isEmpty]
        have isText : someText (.text text) = sound text :=
          accepts_iff_eq_sound.mp (accepts_someText.mpr ⟨rfl, isEmpty⟩)
        rw [isText]
        rfl

/-! ## Fields -/

theorem read_texts (text : String) (count : Nat) :
    anyList someText (.ofTexts (List.replicate count text)) =
      ⟨some (List.replicate count text),
        if text = "" then (List.range count).map fun place => ⟨[.item place], .textTooShort⟩
        else []⟩ := by
  rw [Value.ofTexts, anyList_list, List.range_eq_range']
  exact items_replicate text 0 count

theorem read_blockCounts (someBlockCounts : arguments.blockCounts ≠ []) :
    someList whole (.list (arguments.blockCounts.map .ofInt)) =
      sound (draftOf arguments).blockCounts := by
  refine accepts_iff_eq_sound.mp (accepts_someList.mpr ⟨_, rfl, ?_, ?_⟩)
  · simpa using someBlockCounts
  · simp [draftOf, List.forall₂_map_left_iff, List.forall₂_map_right_iff, List.forall₂_same,
      whole_ofInt]

theorem read_size (someBlockCounts : arguments.blockCounts ≠ []) :
    wholeFrom 1 (.ofInt arguments.blockCounts.length) = sound (draftOf arguments).size := by
  have positive := List.length_pos_iff.mpr someBlockCounts
  exact accepts_iff_eq_sound.mp (accepts_wholeFrom.mpr ⟨rfl, _, integer?_finite _, by omega⟩)

theorem read_paths (fileNamed : arguments.fileName ≠ "") :
    anyList someText (.ofTexts (draftOf arguments).paths) = sound (draftOf arguments).paths := by
  rw [draftOf, read_texts, if_neg fileNamed]
  rfl

theorem read_graphNames (arguments : Arguments) :
    (anyList someText (.ofTexts (draftOf arguments).graphNames)).under (.field "graphNames") =
      ⟨some (draftOf arguments).graphNames,
        if Path.name arguments.fileName = "" then nameless arguments else []⟩ := by
  rw [draftOf, read_texts, nameless]
  by_cases noName : Path.name arguments.fileName = ""
  · simp only [under, if_pos noName, List.map_map]
    rfl
  · simp only [under, if_neg noName, List.map_nil]

/-- The check of the descriptor of arguments has only the names of the graphs to complain of. -/
theorem check_ofArguments (wellFormed : arguments.WellFormed) :
    check (ofArguments arguments).toValue =
      ⟨some (ofArguments arguments),
        if Path.name arguments.fileName = "" then nameless arguments else []⟩ := by
  have drafted : ((Draft.mk
      <$> (whole (.ofInt singleFileType)).under (.field "experimentType")
      <*> (whole (.ofInt arguments.dimensions)).under (.field "dimension")
      <*> (whole (.ofInt arguments.fileFormat)).under (.field "fileFormatCode")
      <*> (whole (.ofInt unassignedIdentifier)).under (.field "identifier")
      <*> (someList whole (.list (arguments.blockCounts.map .ofInt))).under (.field "blockCounts")
      <*> (wholeFrom 1 (.ofInt arguments.blockCounts.length)).under (.field "size")
      <*> (anyList someText (.ofTexts (draftOf arguments).paths)).under (.field "paths")
      <*> (anyList someText (.ofTexts (draftOf arguments).graphNames)).under
            (.field "graphNames"))).refine Draft.isAligned misaligned =
      ⟨some (draftOf arguments),
        if Path.name arguments.fileName = "" then nameless arguments else []⟩ := by
    rw [read_blockCounts wellFormed.someBlockCounts, read_size wellFormed.someBlockCounts,
      read_paths wellFormed.fileNamed, read_graphNames]
    simp only [whole_ofInt, under_sound, map_sound, sound_seq_sound, sound_seq]
    exact refine_of_holds (draftOf_isAligned arguments) _ misaligned
  refine (congrArg (Checked.map ofDraft) drafted).trans ?_
  simp only [Checked.map, Option.map_some, ofDraft_draftOf]

end Experiment

namespace Batch

variable {τ : Type} {arguments : Arguments}

theorem checked_of_named (wellFormed : arguments.WellFormed)
    (named : ∃ c ∈ arguments.fileName.toList, c ≠ '/') :
    (Experiment.check (Experiment.ofArguments arguments).toValue).accepted =
      .ok (Experiment.ofArguments arguments) := by
  have hasName : Path.name arguments.fileName ≠ "" := by
    intro noName
    obtain ⟨c, member, notSlash⟩ := named
    exact notSlash (Path.name_eq_empty_iff.mp noName c member)
  rw [Experiment.check_ofArguments wellFormed, if_neg hasName]
  rfl

theorem checked_of_slashes (wellFormed : arguments.WellFormed)
    (slashes : ∀ c ∈ arguments.fileName.toList, c = '/') :
    (Experiment.check (Experiment.ofArguments arguments).toValue).accepted =
      .error (Experiment.nameless arguments) := by
  have someIssues : Experiment.nameless arguments ≠ [] := by
    simpa [Experiment.nameless] using wellFormed.someBlockCounts
  rw [Experiment.check_ofArguments wellFormed, if_pos (Path.name_eq_empty_iff.mpr slashes)]
  cases issues : Experiment.nameless arguments with
  | nil => exact absurd issues someIssues
  | cons issue rest => rfl

/-- **Arguments are admitted unless their file has no name.** Arguments that were read from raw
values describe an experiment whose descriptor is accepted as it is, and every call for it goes on
to submit the jobs of its plan, when a character of the file name is no slash. For a file name of
slashes alone every call fails over the empty names of the graphs, and does nothing. -/
theorem parsed_arguments_admitted (scheduler : Scheduler τ) (settings : Settings) (dryRun : Bool)
    {raw : Value} (parsed : Arguments.ofValue raw = .ok arguments) :
    let experiment := Experiment.ofArguments arguments
    ((∃ c ∈ arguments.fileName.toList, c ≠ '/') →
      (Experiment.check experiment.toValue).accepted = .ok experiment ∧
      ∀ target (site : Site τ),
        (submitter scheduler settings dryRun).submit experiment.toValue target site =
          submitAll scheduler settings dryRun (Job.plan settings experiment target site.taken).1
            { site with taken := (Job.plan settings experiment target site.taken).2 }) ∧
    ((∀ c ∈ arguments.fileName.toList, c = '/') →
      (Experiment.check experiment.toValue).accepted = .error (Experiment.nameless arguments) ∧
      ∀ target (site : Site τ),
        (submitter scheduler settings dryRun).submit experiment.toValue target site =
          ⟨.error (refusal (Experiment.nameless arguments)), [], site⟩) := by
  intro experiment
  have wellFormed := Arguments.wellFormed_of_value parsed
  constructor
  · intro named
    have checked := checked_of_named wellFormed named
    have isAccepted : accepted experiment.toValue = .ok experiment := by
      rw [accepted, checked]
    exact ⟨checked, fun target site =>
      submit_of_accepted scheduler settings dryRun target site isAccepted⟩
  · intro slashes
    have checked := checked_of_slashes wellFormed slashes
    have refused : accepted experiment.toValue =
        .error (refusal (Experiment.nameless arguments)) := by
      rw [accepted, checked]
      rfl
    exact ⟨checked, fun target site =>
      submit_of_refused scheduler settings dryRun target site refused⟩

/-- A file name that ends in a slash and has a name before it. -/
theorem parsed_arguments_admitted_with_trailing_slash :
    let raw : Value := .record [("tools", .ofTexts ["Geographer"]), ("fileName", .text "a.graph/"),
      ("numBlocks", .ofTexts ["16", " -32"]), ("fileFormat", .text "1"), ("dimensions", .text "0")]
    let arguments : Arguments := ⟨["Geographer"], "a.graph/", [16, -32], 1, 0⟩
    Arguments.ofValue raw = .ok arguments ∧
      (Experiment.check (Experiment.ofArguments arguments).toValue).accepted =
        .ok (Experiment.ofArguments arguments) := by
  intro raw arguments
  have parsed : Arguments.ofValue raw = .ok arguments := by decide +kernel
  exact ⟨parsed, ((parsed_arguments_admitted Scheduler.scripted Settings.standard true parsed).1
    ⟨'a', by decide, by decide⟩).1⟩

/-- A file name of one slash is read, and the tool is refused after the operator has agreed. -/
theorem parsed_arguments_refused :
    let raw : Value := .record [("tools", .ofTexts ["Geographer"]), ("fileName", .text "/"),
      ("numBlocks", .ofTexts ["16"]), ("fileFormat", .text "0"), ("dimensions", .text "2")]
    let arguments : Arguments := ⟨["Geographer"], "/", [16], 0, 2⟩
    let descriptor := (Experiment.ofArguments arguments).toValue
    let session : Session (Site Scheduler.Script) := ⟨⟨["y"], .closed⟩, ⟨⟨[], []⟩, [], ⟨[], 0⟩⟩⟩
    Arguments.ofValue raw = .ok arguments ∧
      (Experiment.check descriptor).accepted.isOk = false ∧
      (Dispatch.dispatch (submitter Scheduler.scripted Settings.standard true) descriptor
        arguments.tools session).result =
          .error (refusal [⟨[.field "graphNames", .item 0], .textTooShort⟩]) := by
  decide +kernel

end Batch

end PartitionBench
