import Mathlib.Data.List.Forall2
import PartitionBench.Check

/-!
Contract: the values that checks accept.

Owns:
- acceptance: a value was read and no issue was met;
- what each combinator of checks accepts, by what its parts accept, and what comes of checks
  that stand beside sound ones;
- the same for the checks of texts, integers, lists, fields, tables and records.

Does not own: any particular shape (`Proofs.Experiment`).
-/

namespace PartitionBench

open PartitionBench.Document PartitionBench.Numeric

variable {α β : Type}

namespace Checked

/-- A check accepts a value: it was read, and no issue was met. -/
def Accepts (checked : Checked α) (value : α) : Prop :=
  checked.value = some value ∧ checked.issues = []

theorem accepted_eq_ok_iff {checked : Checked α} {value : α} :
    checked.accepted = .ok value ↔ checked.Accepts value := by
  obtain ⟨read, issues⟩ := checked
  cases read <;> cases issues <;> simp [accepted, Accepts]

theorem issues_of_accepted_error {checked : Checked α} {issues : List Issue}
    (refused : checked.accepted = .error issues) : checked.issues = issues := by
  obtain ⟨read, met⟩ := checked
  cases read <;> cases met <;> cases refused <;> rfl

/-! ## Combinators -/

@[simp]
theorem accepts_sound {given value : α} : (sound given).Accepts value ↔ given = value := by
  simp [Accepts, sound]

@[simp]
theorem not_accepts_broken {cause : Cause} {value : α} : ¬ (broken cause).Accepts value := by
  simp [Accepts, broken]

@[simp]
theorem accepts_noting {given value : α} {causes : List Cause} :
    (noting given causes).Accepts value ↔ causes = [] ∧ given = value := by
  simp [Accepts, noting, and_comm]

@[simp]
theorem accepts_map {f : α → β} {checked : Checked α} {value : β} :
    (f <$> checked).Accepts value ↔ ∃ read, checked.Accepts read ∧ f read = value := by
  change (checked.map f).Accepts value ↔ _
  constructor
  · rintro ⟨isRead, noIssue⟩
    obtain ⟨read, found, applied⟩ := Option.map_eq_some_iff.mp isRead
    exact ⟨read, ⟨found, noIssue⟩, applied⟩
  · rintro ⟨read, ⟨found, noIssue⟩, rfl⟩
    exact ⟨Option.map_eq_some_iff.mpr ⟨read, found, rfl⟩, noIssue⟩

@[simp]
theorem accepts_seq {f : Checked (α → β)} {checked : Checked α} {value : β} :
    (f <*> checked).Accepts value ↔
      ∃ function, f.Accepts function ∧ ∃ read, checked.Accepts read ∧ function read = value := by
  change (beside f checked).Accepts value ↔ _
  obtain ⟨first, firstIssues⟩ := f
  obtain ⟨second, secondIssues⟩ := checked
  constructor
  · rintro ⟨isRead, noIssue⟩
    obtain ⟨noFirst, noSecond⟩ := List.append_eq_nil_iff.mp noIssue
    cases first with
    | none => cases isRead
    | some function =>
        cases second with
        | none => cases isRead
        | some read => exact ⟨function, ⟨rfl, noFirst⟩, read, ⟨rfl, noSecond⟩, Option.some.inj isRead⟩
  · rintro ⟨function, ⟨rfl, rfl⟩, read, ⟨rfl, rfl⟩, rfl⟩
    exact ⟨rfl, rfl⟩

@[simp]
theorem accepts_under {step : Step} {checked : Checked α} {value : α} :
    (checked.under step).Accepts value ↔ checked.Accepts value := by
  simp [Accepts, under]

@[simp]
theorem accepts_refine {holds : α → Bool} {message : String} {checked : Checked α} {value : α} :
    (checked.refine holds message).Accepts value ↔
      checked.Accepts value ∧ holds value = true := by
  obtain ⟨read, issues⟩ := checked
  cases read with
  | none => simp [Accepts, refine]
  | some read =>
      by_cases isHeld : holds read = true
      · simp only [refine, Accepts, isHeld, if_true, Option.some.injEq]
        constructor
        · rintro ⟨rfl, noIssue⟩
          exact ⟨⟨rfl, noIssue⟩, isHeld⟩
        · exact And.left
      · simp only [refine, Accepts, isHeld, Option.some.injEq]
        constructor
        · rintro ⟨_, noIssue⟩
          simp at noIssue
        · rintro ⟨⟨rfl, _⟩, nowHeld⟩
          exact absurd nowHeld isHeld

theorem accepts_iff_eq_sound {checked : Checked α} {value : α} :
    checked.Accepts value ↔ checked = sound value := by
  obtain ⟨read, issues⟩ := checked
  simp [Accepts, sound]

/-! ## Checks beside sound ones -/

theorem under_sound (step : Step) (value : α) : (sound value).under step = sound value :=
  rfl

theorem map_sound (f : α → β) (value : α) : f <$> sound value = sound (f value) :=
  rfl

theorem sound_seq_sound (f : α → β) (value : α) : sound f <*> sound value = sound (f value) :=
  rfl

theorem sound_seq (f : α → β) (value : α) (issues : List Issue) :
    sound f <*> ⟨some value, issues⟩ = ⟨some (f value), issues⟩ :=
  rfl

theorem refine_of_holds {holds : α → Bool} {value : α} (isHeld : holds value = true)
    (issues : List Issue) (message : String) :
    (⟨some value, issues⟩ : Checked α).refine holds message = ⟨some value, issues⟩ := by
  simp only [refine, isHeld, if_true]

end Checked

namespace Check

open Checked

/-! ## Texts and integers -/

/-- A value is a text that is not empty. -/
def IsText (value : Value) (text : String) : Prop :=
  value = .text text ∧ text ≠ ""

/-- A value is a number that stores an integer. -/
def IsInteger (value : Value) (integer : Int) : Prop :=
  ∃ number, value = .number number ∧ number.integer? = some integer

theorem toInt_of_integer {number : Binary64} {integer : Int}
    (isInteger : number.integer? = some integer) : number.toInt = integer := by
  rw [Binary64.toInt, isInteger, Option.getD_some]

theorem integer?_finite (value : Int) : (Binary64.finite value 0).integer? = some value := by
  have whole : (Binary64.finite value 0).integer? = some (value * 2 ^ 0) := rfl
  rw [whole, Int.pow_zero, Int.mul_one]

theorem accepts_textOr {cause : Cause} {value : Value} {text : String} :
    (textOr cause value).Accepts text ↔ IsText value text := by
  cases value with
  | text given =>
      simp only [textOr, accepts_noting, IsText, Value.text.injEq]
      constructor
      · rintro ⟨noCause, rfl⟩
        refine ⟨rfl, ?_⟩
        intro isEmpty
        simp [isEmpty] at noCause
      · rintro ⟨rfl, notEmpty⟩
        simp [notEmpty]
  | _ => simp [textOr, IsText]

theorem accepts_someText {value : Value} {text : String} :
    (someText value).Accepts text ↔ IsText value text :=
  accepts_textOr

theorem accepts_textWhere {holds : String → Bool} {message : String} {value : Value}
    {text : String} :
    (textWhere holds message value).Accepts text ↔ value = .text text ∧ holds text = true := by
  cases value with
  | text given =>
      simp only [textWhere, accepts_noting, Value.text.injEq]
      constructor
      · rintro ⟨noCause, rfl⟩
        refine ⟨rfl, ?_⟩
        cases isHeld : holds given with
        | true => rfl
        | false => simp [isHeld] at noCause
      · rintro ⟨rfl, isHeld⟩
        simp [isHeld]
  | _ => simp [textWhere]

/-- A number with tests is accepted when it is defined and every test holds of it. -/
theorem accepts_numberWith {tests : List ((Binary64 → Bool) × Cause)} {value : Value}
    {number : Binary64} :
    (numberWith tests value).Accepts number ↔
      value = .number number ∧ number ≠ .undefined ∧ ∀ test ∈ tests, test.1 number = true := by
  have noCause : ∀ given : Binary64,
      (tests.filter fun test => !test.1 given).map Prod.snd = [] ↔
        ∀ test ∈ tests, test.1 given = true := by
    intro given
    simp [List.filter_eq_nil_iff]
  cases value with
  | number given =>
      have defined : given ≠ .undefined →
          numberWith tests (.number given) =
            .noting given ((tests.filter fun test => !test.1 given).map Prod.snd) := by
        intro isDefined
        cases given <;> first | rfl | exact absurd rfl isDefined
      by_cases isDefined : given = .undefined
      · subst isDefined
        simp only [numberWith, not_accepts_broken, Value.number.injEq, false_iff, not_and]
        rintro rfl isDefined
        exact absurd rfl isDefined
      · rw [defined isDefined, accepts_noting, noCause, Value.number.injEq]
        constructor
        · rintro ⟨allHold, rfl⟩
          exact ⟨rfl, isDefined, allHold⟩
        · rintro ⟨rfl, _, allHold⟩
          exact ⟨allHold, rfl⟩
  | _ => simp [numberWith]

theorem accepts_whole {value : Value} {number : Binary64} :
    (whole value).Accepts number ↔
      value = .number number ∧ ∃ integer, number.integer? = some integer := by
  rw [whole, accepts_numberWith]
  simp only [wholeTest, List.forall_mem_singleton, Option.isSome_iff_exists]
  constructor
  · rintro ⟨isNumber, _, isInteger⟩
    exact ⟨isNumber, isInteger⟩
  · rintro ⟨isNumber, integer, isInteger⟩
    refine ⟨isNumber, ?_, integer, isInteger⟩
    rintro rfl
    cases isInteger

theorem whole_ofInt (value : Int) : whole (.ofInt value) = sound (.finite value 0) :=
  accepts_iff_eq_sound.mp (accepts_whole.mpr ⟨rfl, value, integer?_finite value⟩)

/-- For a number that stores an integer, to be at least a bound is to store at least that. -/
theorem isAtLeast_iff {number : Binary64} {integer : Int} (bound : Int)
    (isInteger : number.integer? = some integer) :
    number.isAtLeast bound = true ↔ bound ≤ integer := by
  cases number with
  | finite significand exponent =>
      simp only [Binary64.integer?] at isInteger
      simp only [Binary64.isAtLeast]
      by_cases coarse : 0 ≤ exponent
      · rw [if_pos coarse] at isInteger ⊢
        cases isInteger
        rw [decide_eq_true_iff]
      · rw [if_neg coarse] at isInteger ⊢
        split at isInteger
        next isMultiple =>
          have positive : (0 : Int) < (Nat.pow 2 (-exponent).toNat : Nat) :=
            Int.natCast_pos.mpr (Nat.pow_pos (by decide))
          cases isInteger
          rw [decide_eq_true_iff, Int.le_ediv_iff_mul_le positive]
        next => cases isInteger
  | infinite negative => cases isInteger
  | undefined => cases isInteger

theorem accepts_wholeFrom {bound : Int} {value : Value} {number : Binary64} :
    (wholeFrom bound value).Accepts number ↔
      value = .number number ∧ ∃ integer, number.integer? = some integer ∧ bound ≤ integer := by
  rw [wholeFrom, accepts_numberWith, List.forall_mem_cons, List.forall_mem_singleton]
  simp only [wholeTest, Option.isSome_iff_exists]
  constructor
  · rintro ⟨isNumber, _, ⟨integer, isInteger⟩, atLeast⟩
    exact ⟨isNumber, integer, isInteger, (isAtLeast_iff bound isInteger).mp atLeast⟩
  · rintro ⟨isNumber, integer, isInteger, atLeast⟩
    refine ⟨isNumber, ?_, ⟨integer, isInteger⟩, (isAtLeast_iff bound isInteger).mpr atLeast⟩
    rintro rfl
    cases isInteger

/-- A number that stores an integer is above zero when the integer is. -/
theorem isPositive_iff {number : Binary64} {integer : Int}
    (isInteger : number.integer? = some integer) : number.isPositive = true ↔ 0 < integer := by
  have ofProduct : ∀ (value : Int) (steps : Nat),
      0 < value * (Nat.pow 2 steps : Nat) ↔ 0 < value := by
    intro value steps
    have positive : (0 : Int) < (Nat.pow 2 steps : Nat) :=
      Int.natCast_pos.mpr (Nat.pow_pos (by decide))
    constructor
    · intro above
      refine Int.lt_of_mul_lt_mul_right ?_ (Int.le_of_lt positive)
      rwa [Int.zero_mul]
    · exact fun above => Int.mul_pos above positive
  cases number with
  | finite significand exponent =>
      simp only [Binary64.integer?] at isInteger
      simp only [Binary64.isPositive, decide_eq_true_iff]
      split at isInteger
      · cases isInteger
        exact (ofProduct _ _).symm
      · split at isInteger
        next isMultiple =>
          cases isInteger
          have product := Int.ediv_mul_cancel (Int.dvd_of_emod_eq_zero isMultiple)
          have ofQuotient := ofProduct (significand / (Nat.pow 2 (-exponent).toNat : Nat))
            (-exponent).toNat
          rwa [product] at ofQuotient
        next => cases isInteger
  | infinite negative => cases isInteger
  | undefined => cases isInteger

theorem accepts_positiveWhole {value : Value} {number : Binary64} :
    (positiveWhole value).Accepts number ↔
      value = .number number ∧ ∃ integer, number.integer? = some integer ∧ 0 < integer := by
  rw [positiveWhole, accepts_numberWith, List.forall_mem_cons, List.forall_mem_singleton]
  simp only [wholeTest, Option.isSome_iff_exists]
  constructor
  · rintro ⟨isNumber, _, ⟨integer, isInteger⟩, isPositive⟩
    exact ⟨isNumber, integer, isInteger, (isPositive_iff isInteger).mp isPositive⟩
  · rintro ⟨isNumber, integer, isInteger, isPositive⟩
    refine ⟨isNumber, ?_, ⟨integer, isInteger⟩, (isPositive_iff isInteger).mpr isPositive⟩
    rintro rfl
    cases isInteger

/-- The integer of a number that is checked to be an integer with a property. -/
theorem accepts_integerOf {check : Value → Checked Binary64} {property : Int → Prop}
    (ofCheck : ∀ {value number}, (check value).Accepts number ↔
      value = .number number ∧ ∃ integer, number.integer? = some integer ∧ property integer)
    {value : Value} {integer : Int} :
    (integerOf check value).Accepts integer ↔ IsInteger value integer ∧ property integer := by
  rw [integerOf, accepts_map]
  constructor
  · rintro ⟨number, isRead, rfl⟩
    obtain ⟨rfl, integer, isInteger, holds⟩ := ofCheck.mp isRead
    rw [toInt_of_integer isInteger]
    exact ⟨⟨number, rfl, isInteger⟩, holds⟩
  · rintro ⟨⟨number, rfl, isInteger⟩, holds⟩
    exact ⟨number, ofCheck.mpr ⟨rfl, integer, isInteger, holds⟩, toInt_of_integer isInteger⟩

theorem ofInt_isInteger (value : Int) : IsInteger (.ofInt value) value :=
  ⟨_, rfl, integer?_finite value⟩

/-! ## Lists -/

theorem anyList_list (check : Value → Checked α) (values : List Value) :
    anyList check (.list values) = items check 0 values :=
  rfl

theorem accepts_items {check : Value → Checked α} {index : Nat} {values : List Value}
    {items : List α} :
    (Check.items check index values).Accepts items ↔
      List.Forall₂ (fun value item => (check value).Accepts item) values items := by
  induction values generalizing index items with
  | nil => simp [Check.items, eq_comm]
  | cons value rest inductionHypothesis =>
      simp only [Check.items, accepts_seq, accepts_map, accepts_under, inductionHypothesis]
      constructor
      · rintro ⟨_, ⟨item, ofItem, rfl⟩, others, ofOthers, rfl⟩
        exact List.Forall₂.cons ofItem ofOthers
      · rintro (_ | ⟨ofItem, ofOthers⟩)
        exact ⟨_, ⟨_, ofItem, rfl⟩, _, ofOthers, rfl⟩

theorem accepts_listWith {causes : List Value → List Cause} {check : Value → Checked α}
    {value : Value} {items : List α} :
    (listWith causes check value).Accepts items ↔
      ∃ values, value = .list values ∧ causes values = [] ∧
        List.Forall₂ (fun value item => (check value).Accepts item) values items := by
  cases value with
  | list values =>
      simp only [Value.list.injEq, exists_eq_left', ← @accepts_items α check 0]
      simp only [listWith, Accepts, List.append_eq_nil_iff, List.map_eq_nil_iff]
      exact and_left_comm
  | _ => simp [listWith]

theorem accepts_anyList {check : Value → Checked α} {value : Value} {items : List α} :
    (anyList check value).Accepts items ↔
      ∃ values, value = .list values ∧
        List.Forall₂ (fun value item => (check value).Accepts item) values items := by
  simp [anyList, accepts_listWith]

theorem accepts_listOr {cause : Cause} {check : Value → Checked α} {value : Value}
    {items : List α} :
    (listOr cause check value).Accepts items ↔
      ∃ values, value = .list values ∧ values ≠ [] ∧
        List.Forall₂ (fun value item => (check value).Accepts item) values items := by
  simp [listOr, accepts_listWith]

theorem accepts_someList {check : Value → Checked α} {value : Value} {items : List α} :
    (someList check value).Accepts items ↔
      ∃ values, value = .list values ∧ values ≠ [] ∧
        List.Forall₂ (fun value item => (check value).Accepts item) values items :=
  accepts_listOr

/-- The texts of a list are read one by one. -/
theorem accepts_ofTexts {cause : Cause} {check : Value → Checked α} {texts : List String}
    {items : List α} :
    (listOr cause check (.ofTexts texts)).Accepts items ↔
      texts ≠ [] ∧
        List.Forall₂ (fun text item => (check (.text text)).Accepts item) texts items := by
  rw [accepts_listOr, Value.ofTexts]
  simp only [Value.list.injEq, exists_eq_left', ne_eq, List.map_eq_nil_iff,
    List.forall₂_map_left_iff]

/-- Texts that must not be empty are taken as they are. -/
theorem areTexts_iff {texts items : List String} :
    List.Forall₂ (fun text item => IsText (.text text) item) texts items ↔
      (∀ text ∈ texts, text ≠ "") ∧ texts = items := by
  have asEqual : (fun text item => IsText (.text text) item) =
      fun text item : String => text ≠ "" ∧ text = item := by
    funext text item
    simp only [IsText, Value.text.injEq, eq_iff_iff]
    constructor
    · rintro ⟨rfl, notEmpty⟩
      exact ⟨notEmpty, rfl⟩
    · rintro ⟨notEmpty, rfl⟩
      exact ⟨rfl, notEmpty⟩
  rw [asEqual, List.forall₂_and_left, List.forall₂_eq_eq_eq]

/-- What holds of every item that is read of a value holds of the items of a list. -/
theorem forall_of_items {γ : Type} {reads : γ → α → Prop} {property : α → Prop}
    {values : List γ} {items : List α} (areRead : List.Forall₂ reads values items)
    (ofItem : ∀ value item, reads value item → property item) :
    ∀ item ∈ items, property item := by
  induction areRead with
  | nil => exact fun _ member => absurd member List.not_mem_nil
  | cons isRead _ inductionHypothesis =>
      exact List.forall_mem_cons.mpr ⟨ofItem _ _ isRead, inductionHypothesis⟩

/-- A list can be read when something can be read of each of its values, and only then. -/
theorem exists_items_iff {γ : Type} {reads : γ → α → Prop} {values : List γ} :
    (∃ items, List.Forall₂ reads values items) ↔ ∀ value ∈ values, ∃ item, reads value item := by
  induction values with
  | nil => exact iff_of_true ⟨[], .nil⟩ fun _ member => absurd member List.not_mem_nil
  | cons value rest inductionHypothesis =>
      rw [List.forall_mem_cons, ← inductionHypothesis]
      constructor
      · rintro ⟨_, _ | ⟨isRead, areRead⟩⟩
        exact ⟨⟨_, isRead⟩, _, areRead⟩
      · rintro ⟨⟨item, isRead⟩, items, areRead⟩
        exact ⟨item :: items, .cons isRead areRead⟩

/-! ## Records -/

theorem accepts_field {name : String} {check : Value → Checked α}
    {fields : List (String × Value)} {value : α} :
    (field name check fields).Accepts value ↔
      ∃ found, Table.find? fields name = some found ∧ (check found).Accepts value := by
  unfold field
  cases Table.find? fields name <;> simp

theorem accepts_fieldOr {name : String} {default : α} {check : Value → Checked α}
    {fields : List (String × Value)} {value : α} :
    (fieldOr name default check fields).Accepts value ↔
      (Table.find? fields name = none ∧ default = value) ∨
        ∃ found, Table.find? fields name = some found ∧ (check found).Accepts value := by
  unfold fieldOr
  cases Table.find? fields name <;> simp

/-- What holds of a default and of all that a check accepts holds of what is read of a field. -/
theorem holds_of_fieldOr (property : α → Prop) {name : String} {default : α}
    {check : Value → Checked α} {fields : List (String × Value)} {value : α}
    (isRead : (fieldOr name default check fields).Accepts value) (ofDefault : property default)
    (ofCheck : ∀ found, (check found).Accepts value → property value) : property value := by
  rcases accepts_fieldOr.mp isRead with ⟨_, rfl⟩ | ⟨found, _, ofFound⟩
  · exact ofDefault
  · exact ofCheck found ofFound

theorem fieldOr_of_found {name : String} {default : α} {check : Value → Checked α}
    {fields : List (String × Value)} {found : Value} {value : α}
    (isFound : Table.find? fields name = some found) (isRead : (check found).Accepts value) :
    (fieldOr name default check fields).Accepts value :=
  accepts_fieldOr.mpr (Or.inr ⟨found, isFound, isRead⟩)

/-! ## Tables -/

/-- An entry is read under its own key. -/
def ReadsEntry (check : Value → Checked α) (entry : String × Value) (read : String × α) : Prop :=
  read.1 = entry.1 ∧ (check entry.2).Accepts read.2

theorem accepts_entries {check : Value → Checked α} {fields : List (String × Value)}
    {found : List (String × α)} :
    (entries check fields).Accepts found ↔ List.Forall₂ (ReadsEntry check) fields found := by
  induction fields generalizing found with
  | nil => simp [entries, eq_comm]
  | cons entry rest inductionHypothesis =>
      simp only [entries, accepts_seq, accepts_map, accepts_under, inductionHypothesis]
      constructor
      · rintro ⟨_, ⟨value, ofEntry, rfl⟩, others, ofOthers, rfl⟩
        exact List.Forall₂.cons ⟨rfl, ofEntry⟩ ofOthers
      · rintro (_ | ⟨⟨sameKey, ofEntry⟩, ofOthers⟩)
        refine ⟨_, ⟨_, ofEntry, rfl⟩, _, ofOthers, ?_⟩
        rw [← sameKey]

theorem accepts_table {check : Value → Checked α} {value : Value} {found : List (String × α)} :
    (table check value).Accepts found ↔
      ∃ fields, value = .record fields ∧ ∃ all, List.Forall₂ (ReadsEntry check) fields all ∧
        all.filter (fun entry => entry.1 ≠ "__proto__") = found := by
  cases value with
  | record fields => simp only [table, accepts_map, accepts_entries, Value.record.injEq,
      exists_eq_left']
  | _ => simp [table]

theorem accepts_record {check : List (String × Value) → Checked α} {value : Value}
    {read : α} :
    (record check value).Accepts read ↔
      ∃ fields, value = .record fields ∧ (check fields).Accepts read := by
  cases value <;> simp [record]

end Check

end PartitionBench
