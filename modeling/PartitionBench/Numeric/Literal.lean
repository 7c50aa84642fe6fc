import PartitionBench.Numeric.Decimal
import PartitionBench.Text.Blank
import PartitionBench.Text.Digits

/-!
Contract: integers as they are typed for an option.

Owns: the grammar (blanks around an optional minus sign and decimal digits), the
conversion through a stored number, and the range in which integers are exact.

Does not own: the wording of complaints (`Arguments`).
-/

namespace PartitionBench.Numeric

/-- What a text given for an integer option turns out to be. -/
inductive IntegerReading where
  | notInteger
  | outOfRange (value : Int)
  | integer (value : Int)
  deriving DecidableEq, Repr

def numeral? (chars : List Char) : Option (Bool × List Char) :=
  let negative := chars.head? = some '-'
  let digits := if negative then chars.drop 1 else chars
  if digits ≠ [] ∧ digits.all Text.isDigit then some (negative, digits) else none

/-- Read the text of an integer option. The numeral becomes the stored number
nearest to it, and is accepted when that is an integer in the exact range. -/
def readInteger (text : String) : IntegerReading :=
  match numeral? (Text.trimChars text.toList) with
  | none => .notInteger
  | some (negative, digits) =>
      match (Binary64.ofDecimal negative (Text.decimalValue digits) 0).integer? with
      | some value => if isSafe value then .integer value else .outOfRange value
      | none => .outOfRange 0

end PartitionBench.Numeric
