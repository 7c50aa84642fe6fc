import PartitionBench.Numeric.Shortest
import PartitionBench.Table

/-!
Contract: the values that a configuration document, or a raw argument record, may
hold.

Owns: the value type, the word for the kind of a value in messages, the fields of
a record, and the plain text of a value.

Does not own: reading values from text (`Document.Json`, `Document.Yaml`) and the
rules that values must meet (`Check`).
-/

namespace PartitionBench.Document

open PartitionBench.Numeric

/-- A value of a document. The fields of a record stand in the order in which they
are listed. -/
inductive Value where
  | null
  | truth (value : Bool)
  | number (value : Binary64)
  | text (value : String)
  | list (items : List Value)
  | record (fields : List (String × Value))
  /-- A value that no rule about configurations accepts, with the word for its kind and
  its plain text, if it has one. -/
  | foreign (kind : String) (shown : Option String)
  deriving Repr, Inhabited

namespace Value

def kind : Value → String
  | .null => "null"
  | .truth _ => "boolean"
  | .number .undefined => "nan"
  | .number _ => "number"
  | .text _ => "string"
  | .list _ => "array"
  | .record _ => "object"
  | .foreign kind _ => kind

/-- The integer `value` as a document number. -/
def ofInt (value : Int) : Value :=
  .number (.finite value 0)

def ofTexts (texts : List String) : Value :=
  .list (texts.map .text)

/-- The fields of a record; other values have none. -/
def fields : Value → List (String × Value)
  | .record fields => fields
  | _ => []

def field? (value : Value) (name : String) : Option Value :=
  Table.find? value.fields name

mutual

/-- The plain text of a value, as it is quoted in messages. A list is its items
with commas between them, where a null item is left empty; a record shows nothing
of its fields. -/
def plainText : Value → String
  | .null => "null"
  | .truth value => if value then "true" else "false"
  | .number value => value.text
  | .text value => value
  | .list items => String.intercalate "," (itemTexts items)
  | .record _ => "[object Object]"
  | .foreign _ shown => shown.getD ""

def itemTexts : List Value → List String
  | [] => []
  | .null :: rest => "" :: itemTexts rest
  | item :: rest => plainText item :: itemTexts rest

end

/-- The field that stands in the way of the plain text of its record. -/
def textField : String := "toString"

mutual

/-- A value has a plain text. A record with a field of the name of the way to its
text has none, and neither has a list that holds one. -/
def hasPlainText : Value → Bool
  | .list items => allHavePlainText items
  | .record fields => (Table.find? fields textField).isNone
  | .foreign _ shown => shown.isSome
  | _ => true

def allHavePlainText : List Value → Bool
  | [] => true
  | item :: rest => hasPlainText item && allHavePlainText rest

end

/-- What is said of a value that has no plain text. -/
def unspeakable : String := "Cannot convert object to primitive value"

end Value

end PartitionBench.Document
