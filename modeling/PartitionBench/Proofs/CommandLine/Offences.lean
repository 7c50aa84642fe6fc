import Mathlib.Data.List.Basic
import PartitionBench.Proofs.CommandLine.Options

/-!
Contract: the usage error about options.

Owns:
- what is wrong with the texts of options, told one by one and in the order of the options, with
  nothing but the integers that the texts spell to decide on them;
- that the usage error puts all of it into words, each block count beside the entry as it was given;
- that there is no usage error without an offence, but arguments.

Does not own: which arguments these are (`Proofs.CommandLine.Options`), and the exit code
(`Proofs.CommandLine.Ending`).
-/

namespace PartitionBench

open PartitionBench.Document PartitionBench.Numeric Checked Check

namespace Arguments

/-! ## Integers -/

instance (text : String) : Decidable (∃ value, Spells text value) :=
  match readInteger text, readInteger_spec text with
  | .integer value, isSpelled => .isTrue ⟨value, isSpelled.1⟩
  | .outOfRange _, isSpelled => .isTrue (isSpelled.imp fun _ => And.left)
  | .notInteger, isNone => .isFalse (not_exists.mpr isNone)

/-- A text spells one integer at most, so none in the range when it spells one beyond. -/
theorem not_denotes_of_beyond {text : String}
    (isSpelled : ∃ value, Spells text value ∧ ¬ isSafe value = true) :
    ¬ ∃ value, Denotes text value := by
  rintro ⟨value, isDenoted⟩
  obtain ⟨spelled, spells, beyond⟩ := isSpelled
  obtain ⟨again, inRange⟩ := denotes_iff.mp isDenoted
  rw [spells.unique again] at beyond
  exact beyond inRange

theorem not_denotes_of_none {text : String} (isNone : ∀ value, ¬ Spells text value) :
    ¬ ∃ value, Denotes text value := by
  rintro ⟨value, spells, _⟩
  exact isNone value spells

instance (text : String) : Decidable (∃ value, Denotes text value) :=
  match readInteger text, readInteger_spec text with
  | .integer value, isSpelled => .isTrue ⟨value, denotes_iff.mpr isSpelled⟩
  | .outOfRange _, isSpelled => .isFalse (not_denotes_of_beyond isSpelled)
  | .notInteger, isNone => .isFalse (not_denotes_of_none isNone)

/-- What is wrong with a text that is given for an integer, if anything is. -/
def integerOffence? (option text : String) : Option String :=
  if ∃ value, Denotes text value then none
  else if ∃ value, Spells text value then some (option ++ " is out of range")
  else some (option ++ " expects an integer")

theorem integerOffence_eq_none_iff {option text : String} :
    integerOffence? option text = none ↔ ∃ value, Denotes text value := by
  unfold integerOffence?
  split
  next denotes => exact iff_of_true rfl denotes
  next notDenoted =>
    refine iff_of_false ?_ notDenoted
    split <;> exact Option.some_ne_none _

theorem issues_integerOption (option text : String) :
    (integerOption option (.text text)).issues =
      (integerOffence? option text).toList.map fun message => ⟨[], .stated message⟩ := by
  have isRead := readInteger_spec text
  simp only [integerOption, integerOffence?]
  generalize readInteger text = reading at *
  cases reading with
  | notInteger =>
      rw [if_neg (not_denotes_of_none isRead), if_neg (not_exists.mpr isRead)]
      rfl
  | outOfRange stored =>
      rw [if_neg (not_denotes_of_beyond isRead), if_pos (isRead.imp fun _ => And.left)]
      rfl
  | integer spelled =>
      rw [if_pos ⟨spelled, denotes_iff.mpr isRead⟩]
      rfl

end Arguments

namespace CommandLine.SubmitOptions

/-! ## Offences -/

/-- What is wrong with a text that is given for a name: it may be empty. -/
def nameOffence? (whenEmpty text : String) : Option String :=
  if text = "" then some whenEmpty else none

/-- What is wrong with a block count, which is told beside it. -/
def blockCountOffence? (entry : String) : Option String :=
  (Arguments.integerOffence? "--numBlocks" entry).map
    fun offence => offence ++ " (got \"" ++ entry ++ "\")"

/-- What is wrong with a list of texts: there are none, or something is wrong with some of them. -/
def listOffences (whenEmpty : String) (offence? : String → Option String)
    (texts : List String) : List String :=
  if texts = [] then [whenEmpty] else texts.filterMap offence?

/-- All that is wrong with the texts of options, in the order of the options. -/
def offences (options : SubmitOptions) : List String :=
  listOffences "--tools needs at least one name"
      (nameOffence? "String must contain at least 1 character(s)") options.tools
    ++ (nameOffence? "--fileName must not be empty" options.fileName).toList
    ++ listOffences "--numBlocks needs at least one value" blockCountOffence? options.blockCounts
    ++ (Arguments.integerOffence? "--fileFormat" options.fileFormat).toList
    ++ (Arguments.integerOffence? "--dimensions" options.dimensions).toList

theorem nameOffence_eq_none_iff {whenEmpty text : String} :
    nameOffence? whenEmpty text = none ↔ text ≠ "" := by
  simp [nameOffence?]

theorem listOffences_eq_nil_iff {whenEmpty : String} {offence? : String → Option String}
    {texts : List String} :
    listOffences whenEmpty offence? texts = [] ↔
      texts ≠ [] ∧ ∀ text ∈ texts, offence? text = none := by
  unfold listOffences
  split
  next isEmpty => exact iff_of_false (List.cons_ne_nil _ _) fun holds => holds.1 isEmpty
  next notEmpty => rw [List.filterMap_eq_nil_iff, and_iff_right notEmpty]

/-- Without an offence, and only then, the texts of options denote arguments. -/
theorem offences_eq_nil_iff {options : SubmitOptions} :
    options.offences = [] ↔ ∃ arguments, options.Denotes arguments := by
  simp only [offences, List.append_eq_nil_iff, Option.toList_eq_nil_iff, listOffences_eq_nil_iff,
    nameOffence_eq_none_iff, blockCountOffence?, Option.map_eq_none_iff,
    Arguments.integerOffence_eq_none_iff]
  constructor
  · rintro ⟨⟨⟨⟨⟨someTools, toolsNamed⟩, fileNamed⟩, someBlockCounts, areBlockCounts⟩,
      fileFormat, isFormat⟩, dimensions, areDimensions⟩
    obtain ⟨blockCounts, areRead⟩ := Check.exists_items_iff.mpr areBlockCounts
    exact ⟨⟨options.tools, options.fileName, blockCounts, fileFormat, dimensions⟩,
      rfl, someTools, toolsNamed, rfl, fileNamed, someBlockCounts, areRead, isFormat, areDimensions⟩
  · rintro ⟨arguments, denoted⟩
    exact ⟨⟨⟨⟨⟨denoted.someTools, denoted.toolsNamed⟩, denoted.fileNamed⟩,
      denoted.someBlockCounts, Check.exists_items_iff.mp ⟨_, denoted.blockCounts⟩⟩,
      _, denoted.fileFormat⟩, _, denoted.dimensions⟩

/-! ## Words -/

/-- Options are texts and lists of texts, so each offence among them can be put into words. -/
theorem isSpeakable (options : SubmitOptions) (issue : Issue) :
    Arguments.isSpeakable options.toValue issue = true := by
  have blockCounts : options.toValue.field? "numBlocks" =
      some (.list (options.blockCounts.map .text)) := rfl
  unfold Arguments.isSpeakable Arguments.blockCountOf?
  rw [blockCounts]
  split
  next entry found =>
    split at found
    next index _ _ =>
      have isEntry : (options.blockCounts.map Value.text)[index]? = some entry :=
        Option.some.inj found
      rw [List.getElem?_map] at isEntry
      obtain ⟨text, _, rfl⟩ := Option.map_eq_some_iff.mp isEntry
      rfl
    next => cases found
  next => rfl

/-- An issue that is not with one of the block counts is put into words as it is. -/
theorem offence_elsewhere (raw : Value) {name : String} (differs : name ≠ "numBlocks")
    (issue : Issue) : Arguments.offence raw (issue.under (.field name)) = issue.cause.message := by
  have notOne : Arguments.blockCountOf? raw (issue.under (.field name)) = none := by
    unfold Arguments.blockCountOf?
    split
    next index rest isPlace =>
      obtain ⟨isField, _⟩ := List.cons.inj isPlace
      exact absurd (Step.field.inj isField) differs
    next => rfl
  rw [Arguments.offence, notOne]
  rfl

theorem offence_blockCount (options : SubmitOptions) {index : Nat} {entry : String}
    (isEntry : options.blockCounts[index]? = some entry) (cause : Cause) :
    Arguments.offence options.toValue ⟨[.field "numBlocks", .item index], cause⟩ =
      cause.message ++ " (got \"" ++ entry ++ "\")" := by
  have isText : (options.blockCounts.map Value.text)[index]? = some (.text entry) := by
    rw [List.getElem?_map, isEntry]
    rfl
  have isOne : Arguments.blockCountOf? options.toValue ⟨[.field "numBlocks", .item index], cause⟩ =
      some (some (.text entry)) := congrArg some isText
  rw [Arguments.offence, isOne]
  rfl

theorem messages_textOr (cause : Cause) (text : String) :
    (textOr cause (.text text)).issues.map (fun issue => issue.cause.message) =
      (nameOffence? cause.message text).toList := by
  simp only [textOr, nameOffence?]
  split <;> rfl

theorem messages_integerOption (option text : String) :
    (Arguments.integerOption option (.text text)).issues.map (fun issue => issue.cause.message) =
      (Arguments.integerOffence? option text).toList := by
  rw [Arguments.issues_integerOption, List.map_map]
  exact List.map_id _

theorem said_of_tools (options : SubmitOptions) :
    (listOr (.stated "--tools needs at least one name") someText (.ofTexts options.tools)).issues.map
        (fun issue => Arguments.offence options.toValue (issue.under (.field "tools"))) =
      listOffences "--tools needs at least one name"
        (nameOffence? "String must contain at least 1 character(s)") options.tools := by
  have elsewhere := @offence_elsewhere options.toValue "tools" (by decide)
  simp only [elsewhere]
  exact issues_listOr_map fun _ tool _ => messages_textOr .textTooShort tool

theorem said_of_blockCounts (options : SubmitOptions) :
    (listOr (.stated "--numBlocks needs at least one value")
          (Arguments.integerOption "--numBlocks") (.ofTexts options.blockCounts)).issues.map
        (fun issue => Arguments.offence options.toValue (issue.under (.field "numBlocks"))) =
      listOffences "--numBlocks needs at least one value" blockCountOffence?
        options.blockCounts := by
  refine issues_listOr_map fun index entry isEntry => ?_
  rw [Arguments.issues_integerOption, List.map_map, blockCountOffence?, Option.toList_map]
  refine List.map_congr_left fun message _ => ?_
  exact offence_blockCount options isEntry (.stated message)

/-- The issues of options in words are all that is wrong with their texts. -/
theorem said_of_options (options : SubmitOptions) :
    (Arguments.check options.toValue).issues.map (Arguments.offence options.toValue) =
      options.offences := by
  simp only [check_toValue, issues_seq, issues_map, issues_under, List.map_append, List.map_map,
    Function.comp_def, said_of_tools, said_of_blockCounts,
    offence_elsewhere options.toValue (by decide : "fileName" ≠ "numBlocks"),
    offence_elsewhere options.toValue (by decide : "fileFormat" ≠ "numBlocks"),
    offence_elsewhere options.toValue (by decide : "dimensions" ≠ "numBlocks"),
    messages_textOr, messages_integerOption]
  rfl

/-! ## The usage error -/

theorem ofValue_eq_error_iff {options : SubmitOptions} {failure : Failure} :
    Arguments.ofValue options.toValue = .error failure ↔
      options.offences ≠ [] ∧ failure = .usage (String.intercalate "; " options.offences) := by
  cases checked : (Arguments.check options.toValue).accepted with
  | ok arguments =>
      have denoted := accepts_toValue.mp (accepted_eq_ok_iff.mp checked)
      have noOffence := offences_eq_nil_iff.mpr ⟨arguments, denoted⟩
      refine iff_of_false ?_ fun refused => refused.1 noOffence
      simp [Arguments.ofValue, checked]
  | error issues =>
      have speakable : issues.all (Arguments.isSpeakable options.toValue) = true := by
        rw [List.all_eq_true]
        exact fun issue _ => options.isSpeakable issue
      have someOffence : options.offences ≠ [] := by
        intro noOffence
        obtain ⟨arguments, denoted⟩ := offences_eq_nil_iff.mp noOffence
        have accepted := accepted_eq_ok_iff.mpr (accepts_toValue.mpr denoted)
        rw [checked] at accepted
        cases accepted
      have said := said_of_options options
      rw [issues_of_accepted_error checked] at said
      rw [Arguments.ofValue, checked]
      dsimp only
      rw [if_pos speakable, said, Except.error.injEq, and_iff_right someOffence]
      exact eq_comm

/-- **Usage errors** are complete: options are refused exactly when something is wrong with their
texts, all that is wrong is told in the order of the options, and options with which nothing is
wrong give the arguments that their texts denote. -/
theorem offences_reported (options : SubmitOptions) :
    (∀ failure, Arguments.ofValue options.toValue = .error failure ↔
      options.offences ≠ [] ∧ failure = .usage (String.intercalate "; " options.offences)) ∧
    ((∃ arguments, Arguments.ofValue options.toValue = .ok arguments) ↔ options.offences = []) ∧
    ∀ arguments, Arguments.ofValue options.toValue = .ok arguments ↔ options.Denotes arguments := by
  have isRead : ∀ arguments,
      Arguments.ofValue options.toValue = .ok arguments ↔ options.Denotes arguments :=
    fun arguments => Arguments.ofValue_eq_ok_iff.trans accepts_toValue
  refine ⟨fun failure => ofValue_eq_error_iff, ?_, isRead⟩
  rw [offences_eq_nil_iff]
  exact exists_congr isRead

example :
    offences
        { tools := ["", "SORCERER", ""], fileName := "", blockCounts := ["4", " x ", "1e3"]
          fileFormat := " -2 ", dimensions := "9007199254740992", config := none, dryRun := false } =
      ["String must contain at least 1 character(s)", "String must contain at least 1 character(s)",
        "--fileName must not be empty", "--numBlocks expects an integer (got \" x \")",
        "--numBlocks expects an integer (got \"1e3\")", "--dimensions is out of range"] := by
  decide +kernel

end CommandLine.SubmitOptions

end PartitionBench
