import PartitionBench.Check
import PartitionBench.Failure
import PartitionBench.Numeric.Literal

/-!
Contract: the typed arguments of a submission.

Owns: the arguments, their check against raw values, and the usage error that
lists every offence in the order of the options.

Does not own: the grammar of integers (`Numeric.Literal`) and the options of the
command line, which only supply the raw values.
-/

namespace PartitionBench

open PartitionBench.Document

/-- What is to be submitted: one file, partitioned into each number of blocks by
each tool. -/
structure Arguments where
  tools : List String
  fileName : String
  blockCounts : List Int
  fileFormat : Int
  dimensions : Int
  deriving DecidableEq, Repr

namespace Arguments

/-- The value of an integer option. A text that is no integer is not read at all;
an integer out of range is read and reported. -/
def integerOption (option : String) : Value → Checked Int
  | .text text =>
      match Numeric.readInteger text with
      | .notInteger => .broken (.stated (option ++ " expects an integer"))
      | .outOfRange value => .noting value [.stated (option ++ " is out of range")]
      | .integer value => .sound value
  | value => .broken (.wrongKind "string" value.kind)

/-- The arguments in a record of raw values. -/
def check : Value → Checked Arguments :=
  Check.record fun fields =>
    Arguments.mk
      <$> Check.field "tools"
            (Check.listOr (.stated "--tools needs at least one name") Check.someText) fields
      <*> Check.field "fileName" (Check.textOr (.stated "--fileName must not be empty")) fields
      <*> Check.field "numBlocks"
            (Check.listOr (.stated "--numBlocks needs at least one value")
              (integerOption "--numBlocks")) fields
      <*> Check.field "fileFormat" (integerOption "--fileFormat") fields
      <*> Check.field "dimensions" (integerOption "--dimensions") fields

def toValue (arguments : Arguments) : Value :=
  .record [
    ("tools", .ofTexts arguments.tools),
    ("fileName", .text arguments.fileName),
    ("numBlocks", .list (arguments.blockCounts.map .ofInt)),
    ("fileFormat", .ofInt arguments.fileFormat),
    ("dimensions", .ofInt arguments.dimensions)]

/-- The block count that an issue is about, as it was given, if it is about one. -/
def blockCountOf? (raw : Value) (issue : Issue) : Option (Option Value) :=
  match issue.place with
  | .field "numBlocks" :: .item index :: _ =>
      match raw.field? "numBlocks" with
      | some (.list entries) => some entries[index]?
      | _ => some none
  | _ => none

/-- The text of an issue in a usage error. An issue with one of the block counts
ends with that entry as it was given. -/
def offence (raw : Value) (issue : Issue) : String :=
  match blockCountOf? raw issue with
  | some entry =>
      issue.cause.message ++ " (got \"" ++ (entry.map Value.plainText).getD "undefined" ++ "\")"
  | none => issue.cause.message

/-- An issue can be put into words: it quotes no entry that has no plain text. -/
def isSpeakable (raw : Value) (issue : Issue) : Bool :=
  match blockCountOf? raw issue with
  | some (some entry) => entry.hasPlainText
  | _ => true

/-- The arguments in a record of raw values, or the usage error with one text for
each offence. Where an offence cannot be put into words there is no usage error. -/
def ofValue (raw : Value) : Except Failure Arguments :=
  match (check raw).accepted with
  | .ok arguments => .ok arguments
  | .error issues =>
      if issues.all (isSpeakable raw) then
        .error (.usage (String.intercalate "; " (issues.map (offence raw))))
      else .error (.unusable Value.unspeakable)

end Arguments

end PartitionBench
