import PartitionBench.Proofs.Settings
import PartitionBench.Proofs.Table

/-!
Contract: settings that were read stay what they are.

Owns:
- the settings that the check accepts as they are, and that all settings it gives are such;
- what an environment changes in settings, and one environment laid over another;
- what comes of reading a configuration file.

Does not own: what the checks of single fields accept (`Proofs.Check`).
-/

namespace PartitionBench

open PartitionBench.Document Checked Check

namespace Settings

/-! ## Valid settings -/

/-- A list of texts, none of them empty, of which there is one at least. -/
def AreTexts (texts : List String) : Prop :=
  texts ≠ [] ∧ ∀ text ∈ texts, text ≠ ""

/-- A table has entries under the keys that a table may have, and of texts none is empty. -/
def AreEntries (entries : List (String × String)) : Prop :=
  ∀ entry ∈ entries, entry.1 ≠ "__proto__" ∧ entry.2 ≠ ""

/-- Settings that meet every demand on a configuration. -/
structure Valid (settings : Settings) : Prop where
  submitCommand : settings.submitCommand ≠ ""
  account : settings.account ≠ some ""
  partition : settings.partition ≠ some ""
  walltime : isWalltime settings.walltime = true
  coresPerNode : 0 < settings.coresPerNode
  jobDirectory : settings.jobDirectory ≠ ""
  outputDirectory : settings.outputDirectory ≠ ""
  launcher : settings.launcher ≠ ""
  repeatTimes : 0 < settings.repeatTimes
  initialPartition : 0 ≤ settings.initialPartition
  initialMigration : 0 ≤ settings.initialMigration
  executables : AreEntries settings.executables
  competitorsExecutable : settings.competitorsExecutable ≠ ""
  allCompetitorsExecutable : settings.allCompetitorsExecutable ≠ ""
  competitorTools : AreTexts settings.competitorTools

section Reading

variable {fields : List (String × Value)} {name : String}

theorem text_of_fieldOr {default text : String}
    (isRead : (fieldOr name default someText fields).Accepts text) (ofDefault : default ≠ "") :
    text ≠ "" :=
  holds_of_fieldOr (· ≠ "") isRead ofDefault fun _ isText => (accepts_someText.mp isText).2

theorem text_of_optionalField {text : Option String}
    (isRead : (optionalField name someText fields).Accepts text) : text ≠ some "" := by
  refine holds_of_fieldOr (· ≠ some "") isRead (by simp) ?_
  intro found isText
  obtain ⟨given, ofText, rfl⟩ := accepts_map.mp isText
  simpa using (accepts_someText.mp ofText).2

theorem positive_of_fieldOr {default integer : Int}
    (isRead : (fieldOr name default (integerOf positiveWhole) fields).Accepts integer)
    (ofDefault : 0 < default) : 0 < integer :=
  holds_of_fieldOr (0 < ·) isRead ofDefault fun _ isInteger =>
    ((accepts_integerOf accepts_positiveWhole).mp isInteger).2

theorem natural_of_fieldOr {default integer : Int}
    (isRead : (fieldOr name default (integerOf (wholeFrom 0)) fields).Accepts integer)
    (ofDefault : 0 ≤ default) : 0 ≤ integer :=
  holds_of_fieldOr (0 ≤ ·) isRead ofDefault fun _ isInteger =>
    ((accepts_integerOf accepts_wholeFrom).mp isInteger).2

end Reading

theorem entries_of_table {value : Value} {found : List (String × String)}
    (isRead : (table someText value).Accepts found) : AreEntries found := by
  obtain ⟨fields, rfl, all, areRead, rfl⟩ := accepts_table.mp isRead
  have areTexts : ∀ entry ∈ all, entry.2 ≠ "" :=
    forall_of_items areRead fun _ _ ofEntry => (accepts_someText.mp ofEntry.2).2
  intro entry member
  obtain ⟨inAll, isOther⟩ := List.mem_filter.mp member
  exact ⟨of_decide_eq_true isOther, areTexts entry inAll⟩

theorem texts_of_someList {value : Value} {texts : List String}
    (isRead : (someList someText value).Accepts texts) : AreTexts texts := by
  obtain ⟨values, _, some, areRead⟩ := accepts_someList.mp isRead
  refine ⟨?_, forall_of_items areRead fun _ _ ofText => (accepts_someText.mp ofText).2⟩
  rintro rfl
  exact some (List.forall₂_nil_right_iff.mp areRead)

/-- Whatever settings the check gives are valid, the defaults among them. -/
theorem valid_of_check {value : Value} {settings : Settings}
    (isChecked : (check value).Accepts settings) : Valid settings := by
  obtain ⟨fields, _, read⟩ := read_of_check isChecked
  exact
    { submitCommand := text_of_fieldOr read.submitCommand (by decide)
      account := text_of_optionalField read.account
      partition := text_of_optionalField read.partition
      walltime := check_isWalltime isChecked
      coresPerNode := positive_of_fieldOr read.coresPerNode (by decide)
      jobDirectory := text_of_fieldOr read.jobDirectory (by decide)
      outputDirectory := text_of_fieldOr read.outputDirectory (by decide)
      launcher := text_of_fieldOr read.launcher (by decide)
      repeatTimes := positive_of_fieldOr read.repeatTimes (by decide)
      initialPartition := natural_of_fieldOr read.initialPartition (by decide)
      initialMigration := natural_of_fieldOr read.initialMigration (by decide)
      executables := holds_of_fieldOr AreEntries read.executables (List.forall_mem_nil _)
        fun _ => entries_of_table
      competitorsExecutable := text_of_fieldOr read.competitorsExecutable (by decide)
      allCompetitorsExecutable := text_of_fieldOr read.allCompetitorsExecutable (by decide)
      competitorTools := holds_of_fieldOr AreTexts read.competitorTools
        ⟨by decide, by decide⟩ fun _ => texts_of_someList }

/-! ## Settings as a document -/

@[simp]
theorem find?_optionalEntry (name key : String) (value : Option String) :
    Table.find? (optionalEntry name value) key =
      if name = key then value.map Value.text else none := by
  cases value with
  | none => simp [optionalEntry]
  | some text => simp [optionalEntry]

theorem someText_text {text : String} (some : text ≠ "") : (someText (.text text)).Accepts text :=
  accepts_someText.mpr ⟨rfl, some⟩

theorem optional_of_document {fields : List (String × Value)} {name : String}
    {value : Option String} (isFound : Table.find? fields name = value.map Value.text)
    (some : value ≠ some "") : (optionalField name someText fields).Accepts value := by
  cases value with
  | none => exact accepts_fieldOr.mpr (Or.inl ⟨isFound, rfl⟩)
  | some text =>
      refine fieldOr_of_found isFound (accepts_map.mpr ⟨text, someText_text ?_, rfl⟩)
      rintro rfl
      exact some rfl

theorem table_of_entries {found : List (String × String)} (areEntries : AreEntries found) :
    (table someText (.record (found.map fun entry => (entry.1, .text entry.2)))).Accepts found := by
  refine accepts_table.mpr ⟨_, rfl, found, ?_, ?_⟩
  · rw [List.forall₂_map_left_iff, List.forall₂_same]
    exact fun entry member => ⟨rfl, someText_text (areEntries entry member).2⟩
  · rw [List.filter_eq_self]
    exact fun entry member => decide_eq_true (areEntries entry member).1

theorem someList_of_texts {texts : List String} (areTexts : AreTexts texts) :
    (someList someText (.ofTexts texts)).Accepts texts := by
  refine accepts_ofTexts.mpr ⟨areTexts.1, ?_⟩
  simp only [accepts_someText]
  exact areTexts_iff.mpr ⟨areTexts.2, rfl⟩

/-- Valid settings are read of their own document: each field is there, and what is absent from
the settings is absent from the document. -/
theorem read_of_valid {settings : Settings} (valid : Valid settings) :
    Read settings.toValue.fields settings := by
  have text : ∀ {name default text : String},
      Table.find? settings.toValue.fields name = some (.text text) → text ≠ "" →
        (fieldOr name default someText settings.toValue.fields).Accepts text :=
    fun isFound some => fieldOr_of_found isFound (someText_text some)
  have positive : ∀ {name : String} {default integer : Int},
      Table.find? settings.toValue.fields name = some (.ofInt integer) → 0 < integer →
        (fieldOr name default (integerOf positiveWhole) settings.toValue.fields).Accepts integer :=
    fun isFound above => fieldOr_of_found isFound
      ((accepts_integerOf accepts_positiveWhole).mpr ⟨ofInt_isInteger _, above⟩)
  have natural : ∀ {name : String} {default integer : Int},
      Table.find? settings.toValue.fields name = some (.ofInt integer) → 0 ≤ integer →
        (fieldOr name default (integerOf (wholeFrom 0)) settings.toValue.fields).Accepts integer :=
    fun isFound notBelow => fieldOr_of_found isFound
      ((accepts_integerOf accepts_wholeFrom).mpr ⟨ofInt_isInteger _, notBelow⟩)
  constructor
  case submitCommand => exact text (by simp [toValue, Value.fields]) valid.submitCommand
  case account => exact optional_of_document (by simp [toValue, Value.fields]) valid.account
  case partition => exact optional_of_document (by simp [toValue, Value.fields]) valid.partition
  case walltime =>
    exact fieldOr_of_found (by simp [toValue, Value.fields])
      (accepts_textWhere.mpr ⟨rfl, valid.walltime⟩)
  case coresPerNode => exact positive (by simp [toValue, Value.fields]) valid.coresPerNode
  case jobDirectory => exact text (by simp [toValue, Value.fields]) valid.jobDirectory
  case outputDirectory => exact text (by simp [toValue, Value.fields]) valid.outputDirectory
  case launcher => exact text (by simp [toValue, Value.fields]) valid.launcher
  case repeatTimes => exact positive (by simp [toValue, Value.fields]) valid.repeatTimes
  case initialPartition => exact natural (by simp [toValue, Value.fields]) valid.initialPartition
  case initialMigration => exact natural (by simp [toValue, Value.fields]) valid.initialMigration
  case executables =>
    exact fieldOr_of_found (by simp [toValue, Value.fields]) (table_of_entries valid.executables)
  case competitorsExecutable =>
    exact text (by simp [toValue, Value.fields]) valid.competitorsExecutable
  case allCompetitorsExecutable =>
    exact text (by simp [toValue, Value.fields]) valid.allCompetitorsExecutable
  case competitorTools =>
    exact fieldOr_of_found (by simp [toValue, Value.fields])
      (someList_of_texts valid.competitorTools)

/-- Settings that the check accepts as they are: nothing is filled in, and nothing is changed. -/
def Stable (settings : Settings) : Prop :=
  (check settings.toValue).accepted = .ok settings

theorem stable_of_valid {settings : Settings} (valid : Valid settings) : Stable settings :=
  accepted_eq_ok_iff.mpr (check_of_read (read_of_valid valid))

/-! ## Environments -/

theorem override?_ne_empty (environment : List (String × String)) (name : String) :
    override? environment name ≠ some "" := by
  unfold override?
  split
  · split
    · simp
    next some => simpa using some
  · simp

theorem valid_overridden {settings : Settings} (valid : Valid settings)
    (environment : List (String × String)) : Valid (settings.overridden environment) := by
  have optional : ∀ (name : String) {value : Option String}, value ≠ some "" →
      (override? environment name).or value ≠ some "" := by
    intro name value some
    have ofName := override?_ne_empty environment name
    cases found : override? environment name with
    | none => exact some
    | some named =>
        rw [found] at ofName
        exact ofName
  have command :
      (override? environment submitCommandVariable).getD settings.submitCommand ≠ "" := by
    have ofName := override?_ne_empty environment submitCommandVariable
    cases found : override? environment submitCommandVariable with
    | none => exact valid.submitCommand
    | some named =>
        rw [found] at ofName
        simpa using ofName
  exact
    { valid with
      submitCommand := command
      account := optional accountVariable valid.account
      partition := optional partitionVariable valid.partition }

/-- A value that a variable overrides becomes what the environment names under the variable, if
that is not empty; where it is empty or the environment names nothing, the value stays. -/
structure Overrides (environment : List (String × String)) (name : String)
    (before after : Option String) : Prop where
  named : ∀ value, Table.find? environment name = some value → value ≠ "" → after = some value
  unnamed : (Table.find? environment name).getD "" = "" → after = before

theorem override?_overrides (environment : List (String × String)) (name : String)
    (before : Option String) :
    Overrides environment name before ((override? environment name).or before) where
  named := by
    intro value isNamed some
    simp only [override?, isNamed, if_neg some, Option.some_or]
  unnamed := by
    intro isEmpty
    unfold override?
    cases found : Table.find? environment name with
    | none => rfl
    | some value =>
        rw [found, Option.getD_some] at isEmpty
        simp only [if_pos isEmpty, Option.none_or]

/-- What an environment changes in settings: the account, the partition and the submit command,
each by its own variable, and nothing else. -/
structure Changes (environment : List (String × String)) (before after : Settings) : Prop where
  account : Overrides environment "PARTSUBMIT_ACCOUNT" before.account after.account
  partition : Overrides environment "PARTSUBMIT_PARTITION" before.partition after.partition
  submitCommand : Overrides environment "PARTSUBMIT_SUBMIT_COMMAND" (some before.submitCommand)
    (some after.submitCommand)
  others : after =
    { before with
      account := after.account
      partition := after.partition
      submitCommand := after.submitCommand }

theorem overridden_changes (settings : Settings) (environment : List (String × String)) :
    Changes environment settings (settings.overridden environment) where
  account := override?_overrides environment accountVariable settings.account
  partition := override?_overrides environment partitionVariable settings.partition
  submitCommand := by
    have overrides := override?_overrides environment submitCommandVariable
      (some settings.submitCommand)
    rwa [Option.or_some] at overrides
  others := rfl

/-! ## One environment over another -/

/-- An environment with what another names laid over it; an empty value covers nothing. -/
def overlaid (first second : List (String × String)) : List (String × String) :=
  second.filter (fun entry => override? second entry.1 = some entry.2) ++ first

theorem override?_eq_some_iff {environment : List (String × String)} {name value : String} :
    override? environment name = some value ↔
      Table.find? environment name = some value ∧ value ≠ "" := by
  unfold override?
  cases Table.find? environment name with
  | none => simp
  | some found =>
      by_cases isEmpty : found = ""
      · simp only [if_pos isEmpty, Option.some.injEq]
        constructor
        · rintro ⟨⟩
        · rintro ⟨rfl, some⟩
          exact absurd isEmpty some
      · simp only [if_neg isEmpty, Option.some.injEq]
        constructor
        · rintro rfl
          exact ⟨rfl, isEmpty⟩
        · exact And.left

theorem find?_overlaid (first second : List (String × String)) (name : String) :
    Table.find? (overlaid first second) name =
      (override? second name).or (Table.find? first name) := by
  rw [overlaid, Table.find?_append]
  congr 1
  cases found : Table.find? (second.filter fun entry =>
      override? second entry.1 = some entry.2) name with
  | some value =>
      have inUpper := (List.mem_filter.mp (Table.mem_of_find? found)).2
      exact (of_decide_eq_true inUpper).symm
  | none =>
      cases named : override? second name with
      | none => rfl
      | some value =>
          have member := Table.mem_of_find? (override?_eq_some_iff.mp named).1
          exact absurd (List.mem_filter.mpr ⟨member, decide_eq_true named⟩)
            (Table.not_mem_of_find? found value)

/-- In an environment laid over another, a name has the value of the upper one unless that is empty
or absent, and else that of the lower one. -/
theorem overlaid_covers (first second : List (String × String)) (name : String) :
    Table.find? (overlaid first second) name =
      if (Table.find? second name).getD "" = "" then Table.find? first name
      else Table.find? second name := by
  rw [find?_overlaid, override?]
  cases Table.find? second name with
  | none => rfl
  | some value => by_cases isEmpty : value = "" <;> simp [isEmpty]

theorem override?_overlaid (first second : List (String × String)) (name : String) :
    override? (overlaid first second) name =
      (override? second name).or (override? first name) := by
  cases named : override? second name with
  | some value =>
      have isFound := find?_overlaid first second name
      rw [named, Option.some_or] at isFound
      exact override?_eq_some_iff.mpr ⟨isFound, (override?_eq_some_iff.mp named).2⟩
  | none =>
      have isFound := find?_overlaid first second name
      rw [named, Option.none_or] at isFound
      simp only [override?, isFound, Option.none_or]

/-- To override settings twice is to override them once by the second environment laid over the
first. -/
theorem overridden_overridden (settings : Settings) (first second : List (String × String)) :
    (settings.overridden first).overridden second =
      settings.overridden (overlaid first second) := by
  simp only [overridden, override?_overlaid, Option.or_assoc, Option.getD_or]

/-! ## Reading a configuration file -/

theorem standard_checked : (check (.record [])).accepted = .ok standard := by
  decide +kernel

theorem ofDocument_valid {path : String} {document : Option Value} {settings : Settings}
    (isRead : ofDocument path document = .ok settings) : Valid settings := by
  unfold ofDocument at isRead
  split at isRead
  · cases isRead
  · dsimp only at isRead
    split at isRead
    next isChecked =>
      cases isRead
      exact valid_of_check (accepted_eq_ok_iff.mp isChecked)
    next => cases isRead

theorem ofReading_valid {path : String} {allowMissing : Bool} {parse : String → Option Value}
    {reading : Except Fault String} {settings : Settings}
    (isRead : ofReading path allowMissing parse reading = .ok settings) : Valid settings := by
  unfold ofReading at isRead
  split at isRead
  · exact ofDocument_valid isRead
  · split at isRead
    · cases isRead
      exact valid_of_check (accepted_eq_ok_iff.mp standard_checked)
    · cases isRead

/-- A file that cannot be read gives settings only when it is missing and may be, and then the
defaults. -/
theorem ofReading_fault_iff {path : String} {allowMissing : Bool} {parse : String → Option Value}
    {fault : Fault} {settings : Settings} :
    ofReading path allowMissing parse (.error fault) = .ok settings ↔
      allowMissing = true ∧ fault.kind = .notFound ∧ settings = standard := by
  unfold ofReading
  dsimp only
  split
  next isAllowed =>
    constructor
    · rintro ⟨⟩
      exact ⟨isAllowed.1, isAllowed.2, rfl⟩
    · rintro ⟨_, _, rfl⟩
      rfl
  next notAllowed =>
    constructor
    · rintro ⟨⟩
    · rintro ⟨mayMiss, isMissing, _⟩
      exact absurd ⟨mayMiss, isMissing⟩ notAllowed

theorem ofReading_null {path text : String} {allowMissing : Bool} {parse : String → Option Value}
    (isNull : parse text = some .null) :
    ofReading path allowMissing parse (.ok text) = .ok standard := by
  simp only [ofReading, isNull, ofDocument, standard_checked]

/-! ## What is known of settings that were read -/

/-- Settings that stay what they are: they and what any environment makes of them are accepted as
they are, an environment changes three fields of them only, and two environments one after the other
change them like the second laid over the first. -/
structure Steady (settings : Settings) : Prop where
  stable : Stable settings
  overridden : ∀ environment, Stable (settings.overridden environment)
  changes : ∀ environment, Changes environment settings (settings.overridden environment)
  layers : ∀ first second, (settings.overridden first).overridden second =
    settings.overridden (overlaid first second)

theorem steady_of_valid {settings : Settings} (valid : Valid settings) : Steady settings where
  stable := stable_of_valid valid
  overridden := fun environment => stable_of_valid (valid_overridden valid environment)
  changes := overridden_changes settings
  layers := overridden_overridden settings

/-- **Settings that were read are valid and steady.** Whatever the file is, whatever the parser
makes of its text and whatever reading it comes to: reading ends in steady settings or in a
configuration failure. Of a file that cannot be read only a missing one gives settings, if it may be
missing, and then the defaults; so does a document that is null. -/
theorem read_settings_steady (path : String) (allowMissing : Bool)
    (parse : String → Option Value) (reading : Except Fault String) :
    (match ofReading path allowMissing parse reading with
      | .ok settings => Steady settings
      | .error failure => IsConfiguration failure) ∧
    (match reading with
      | .error fault => ∀ settings, ofReading path allowMissing parse reading = .ok settings ↔
          allowMissing = true ∧ fault.kind = .notFound ∧ settings = standard
      | .ok text => parse text = some .null →
          ofReading path allowMissing parse reading = .ok standard) ∧
    (check (.record [])).accepted = .ok standard ∧
    (∀ first second name, Table.find? (overlaid first second) name =
      if (Table.find? second name).getD "" = "" then Table.find? first name
      else Table.find? second name) ∧
    ∀ files : FileTree, load files path allowMissing =
      ofReading path allowMissing (document? path) (files.read path) := by
  refine ⟨?_, ?_, standard_checked, overlaid_covers, fun _ => rfl⟩
  · split
    next settings isRead => exact steady_of_valid (ofReading_valid isRead)
    next failure failed => exact ofReading_fails failed
  · cases reading with
    | error fault => exact fun settings => ofReading_fault_iff
    | ok text => exact ofReading_null

end Settings

end PartitionBench
