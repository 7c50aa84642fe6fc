import PartitionBench.Document.Value

/-!
Contract: checking document values against a shape, with every issue reported.

Owns:
- issues: where in the value, and what is wrong there;
- checked results, which keep a usable value beside the issues found in it, so
  that a later check of the whole can still be made;
- the checks for texts, numbers, lists, tables and fields of a record.

Does not own: any particular shape. The shapes stand beside the types they
produce (`Experiment`, `Arguments`, `Settings`, `Job`).
-/

namespace PartitionBench

open PartitionBench.Document PartitionBench.Numeric

/-- What is wrong at one place of a value. -/
inductive Cause where
  | required
  | wrongKind (expected received : String)
  | textTooShort
  | listTooShort
  | notAbove (bound : Int)
  | notAtLeast (bound : Int)
  | stated (message : String)
  deriving DecidableEq, Repr

def Cause.message : Cause → String
  | .required => "Required"
  | .wrongKind expected received => "Expected " ++ expected ++ ", received " ++ received
  | .textTooShort => "String must contain at least 1 character(s)"
  | .listTooShort => "Array must contain at least 1 element(s)"
  | .notAbove bound => "Number must be greater than " ++ toString bound
  | .notAtLeast bound => "Number must be greater than or equal to " ++ toString bound
  | .stated message => message

/-- One step into a value: to a field of a record or to an item of a list. -/
inductive Step where
  | field (name : String)
  | item (index : Nat)
  deriving DecidableEq, Repr

def Step.text : Step → String
  | .field name => name
  | .item index => toString index

/-- An issue: the place in the value, outermost step first, and the cause. -/
structure Issue where
  place : List Step
  cause : Cause
  deriving DecidableEq, Repr

namespace Issue

/-- The text of the place of an issue; the whole value is called the root. -/
def placeText (issue : Issue) : String :=
  let text := String.intercalate "." (issue.place.map Step.text)
  if text = "" then "(root)" else text

def text (issue : Issue) : String :=
  issue.placeText ++ ": " ++ issue.cause.message

/-- The same issue, seen from one step further out. -/
def under (step : Step) (issue : Issue) : Issue :=
  { issue with place := step :: issue.place }

def summary (issues : List Issue) : String :=
  String.intercalate "; " (issues.map text)

end Issue

/-- The result of a check: the value that was read, if reading could go on at all,
and the issues met. A value with issues is good enough for checks of the whole it
belongs to, and for nothing else. -/
structure Checked (α : Type) where
  value : Option α
  issues : List Issue

namespace Checked

variable {α β : Type}

/-- A value without issues. -/
def sound (value : α) : Checked α :=
  ⟨some value, []⟩

/-- No value can be read here. -/
def broken (cause : Cause) : Checked α :=
  ⟨none, [⟨[], cause⟩]⟩

/-- A value with the issues that hold of it at its own place. -/
def noting (value : α) (causes : List Cause) : Checked α :=
  ⟨some value, causes.map (⟨[], ·⟩)⟩

def map (f : α → β) (checked : Checked α) : Checked β :=
  ⟨checked.value.map f, checked.issues⟩

/-- Two checks side by side: both values are needed, and the issues of the first
come first. -/
def beside (f : Checked (α → β)) (checked : Checked α) : Checked β :=
  ⟨match f.value, checked.value with
    | some f, some value => some (f value)
    | _, _ => none,
    f.issues ++ checked.issues⟩

instance : Functor Checked where
  map := map

instance : Applicative Checked where
  pure := sound
  seq f checked := beside f (checked ())

/-- The same result, seen from one step further out. -/
def under (step : Step) (checked : Checked α) : Checked α :=
  { checked with issues := checked.issues.map (Issue.under step) }

/-- A further check on the whole value, made whenever there is one. -/
def refine (holds : α → Bool) (message : String) (checked : Checked α) : Checked α :=
  match checked.value with
  | none => checked
  | some value =>
      if holds value then checked
      else { checked with issues := checked.issues ++ [⟨[], .stated message⟩] }

/-- The accepted value, or the issues. -/
def accepted (checked : Checked α) : Except (List Issue) α :=
  match checked.value, checked.issues with
  | some value, [] => .ok value
  | _, issues => .error issues

end Checked

namespace Check

variable {α : Type}

def anyText : Value → Checked String
  | .text text => .sound text
  | value => .broken (.wrongKind "string" value.kind)

/-- A text that is not empty, with the cause that is reported of an empty one. -/
def textOr (cause : Cause) : Value → Checked String
  | .text text => .noting text (if text = "" then [cause] else [])
  | value => .broken (.wrongKind "string" value.kind)

/-- A text that is not empty. -/
def someText : Value → Checked String :=
  textOr .textTooShort

/-- A number for which the tests hold; every test that fails is reported, in
order. -/
def numberWith (tests : List ((Binary64 → Bool) × Cause)) : Value → Checked Binary64
  | .number .undefined => .broken (.wrongKind "number" "nan")
  | .number value =>
      .noting value ((tests.filter (fun test => !test.1 value)).map (·.2))
  | value => .broken (.wrongKind "number" value.kind)

def wholeTest : (Binary64 → Bool) × Cause :=
  (fun value => value.integer?.isSome, .wrongKind "integer" "float")

def whole : Value → Checked Binary64 :=
  numberWith [wholeTest]

def positiveWhole : Value → Checked Binary64 :=
  numberWith [wholeTest, (Binary64.isPositive, .notAbove 0)]

/-- An integer that is at least `bound`. -/
def wholeFrom (bound : Int) : Value → Checked Binary64 :=
  numberWith [wholeTest, (Binary64.isAtLeast bound, .notAtLeast bound)]

def integerOf (check : Value → Checked Binary64) (value : Value) : Checked Int :=
  Binary64.toInt <$> check value

/-- A text for which a test holds, with the message that is reported when it does
not. -/
def textWhere (holds : String → Bool) (message : String) : Value → Checked String
  | .text text => .noting text (if holds text then [] else [.stated message])
  | value => .broken (.wrongKind "string" value.kind)

/-- The items of a list, checked one by one from the given index on. -/
def items (check : Value → Checked α) : Nat → List Value → Checked (List α)
  | _, [] => .sound []
  | index, item :: rest =>
      List.cons <$> (check item).under (.item index) <*> items check (index + 1) rest

/-- A list, with what holds of the list itself reported before its items. -/
def listWith (causes : List Value → List Cause) (check : Value → Checked α) :
    Value → Checked (List α)
  | .list values =>
      let checked := items check 0 values
      { checked with issues := (causes values).map (⟨[], ·⟩) ++ checked.issues }
  | value => .broken (.wrongKind "array" value.kind)

def anyList (check : Value → Checked α) : Value → Checked (List α) :=
  listWith (fun _ => []) check

/-- A list that is not empty, with the cause that is reported of an empty one. -/
def listOr (cause : Cause) (check : Value → Checked α) : Value → Checked (List α) :=
  listWith (fun values => if values.isEmpty then [cause] else []) check

/-- A list that is not empty. -/
def someList (check : Value → Checked α) : Value → Checked (List α) :=
  listOr .listTooShort check

/-- The entries of a table, checked one by one. -/
def entries (check : Value → Checked α) : List (String × Value) → Checked (List (String × α))
  | [] => .sound []
  | entry :: rest =>
      (fun value others => (entry.1, value) :: others)
        <$> (check entry.2).under (.field entry.1) <*> entries check rest

/-- A table of values under any names. The name that every table uses for its own
base cannot be an entry: its value is checked and then left out. -/
def table (check : Value → Checked α) : Value → Checked (List (String × α))
  | .record fields =>
      (fun found => found.filter (fun entry => entry.1 ≠ "__proto__")) <$> entries check fields
  | value => .broken (.wrongKind "object" value.kind)

def field (name : String) (check : Value → Checked α) (fields : List (String × Value)) :
    Checked α :=
  (match Table.find? fields name with
    | some value => check value
    | none => .broken .required).under (.field name)

/-- A field that takes a default when it is absent. -/
def fieldOr (name : String) (default : α) (check : Value → Checked α)
    (fields : List (String × Value)) : Checked α :=
  match Table.find? fields name with
  | some value => (check value).under (.field name)
  | none => .sound default

def optionalField (name : String) (check : Value → Checked α) (fields : List (String × Value)) :
    Checked (Option α) :=
  fieldOr name none (fun value => some <$> check value) fields

/-- A record, read field by field. Fields that no check asks for are ignored. -/
def record (check : List (String × Value) → Checked α) : Value → Checked α
  | .record fields => check fields
  | value => .broken (.wrongKind "object" value.kind)

end Check

end PartitionBench
