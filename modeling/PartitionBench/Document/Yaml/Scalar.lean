import PartitionBench.Document.Yaml.Calendar
import PartitionBench.Document.Yaml.Directive
import PartitionBench.Numeric.Decimal
import PartitionBench.Text.Encoding
import PartitionBench.Text.Units

/-!
Contract: what YAML scalars stand for.

Owns:
- the contents of scalars: nothing, truths, numbers, texts, points in time, bytes, and
  the mark of merged fields;
- the rules that read a content from the text of a scalar, in both versions of the
  language;
- what the tag of a scalar asks for.

Does not own: the text of a scalar (`Yaml.Quoted`, `Yaml.Literal`) and how a scalar is
written again (`Yaml.Written`).
-/

namespace PartitionBench.Document.Yaml

open PartitionBench.Numeric

inductive Content where
  | null
  | truth (value : Bool)
  /-- A number. A zero may be a negative one. -/
  | number (value : Binary64) (isNegativeZero : Bool)
  | text (value : List Char)
  | instant (value : Instant)
  | bytes (value : List UInt8)
  | merge
  deriving DecidableEq, Repr

inductive NumberStyle where
  | usual
  | binary
  | octal
  | hexadecimal
  | exponent
  /-- In base sixty, with colons. -/
  | clock
  deriving DecidableEq, Repr

/-- What a rule reads: a content, how it is written if it is a number, and its number of
decimal places if they end in a zero. -/
structure Reading where
  content : Content
  style : NumberStyle := .usual
  places : Nat := 0
  deriving Repr

/-- A way to read texts as contents of some kind. -/
structure Rule where
  /-- The last part of the name of the tag that asks for the kind. -/
  kind : String
  /-- Without its tag the rule holds for keys only. -/
  isForKeys : Bool := false
  read? : List Char → Option Reading

def isWord (words : List String) (chars : List Char) : Bool :=
  words.any fun word => word.toList = chars

/-- A text without a sign at its start. -/
def unsigned : List Char → List Char
  | '-' :: rest => rest
  | '+' :: rest => rest
  | rest => rest

def isNegative (chars : List Char) : Bool :=
  chars.head? = some '-'

/-- A text is one or more characters for which a test holds. -/
def isRun (test : Char → Bool) (chars : List Char) : Bool :=
  !chars.isEmpty && chars.all test

def isSpacedDigit (c : Char) : Bool :=
  Text.isDigit c || c = '_'

def withoutUnderscores (chars : List Char) : List Char :=
  chars.filter (· ≠ '_')

/-- A number, and whether it is a negative zero. -/
def numberContent (negative : Bool) (value : Binary64) : Content :=
  .number value (negative && value = .zero)

/-- The integer that digits denote in a base. No digits denote the undefined number. -/
def integerReading (negative : Bool) (base : Nat) (style : NumberStyle) (digits : List Char) :
    Reading :=
  let value :=
    if digits = [] then .undefined
    else Binary64.ofQuotient negative (Text.valueFrom base 0 digits) 1
  ⟨numberContent negative value, style, 0⟩

/-- The parts of a decimal number: the digits in front of the point, those behind it, and
the exponent. -/
structure DecimalParts where
  whole : List Char
  fraction : Option (List Char)
  exponent : Option Int

def exponent? (chars : List Char) : Option Int :=
  let digits := unsigned chars
  if isRun Text.isDigit digits then
    let value : Int := Text.decimalValue digits
    some (if isNegative chars then -value else value)
  else none

/-- The parts of a decimal number without a sign. -/
def decimalParts? (test : Char → Bool) (chars : List Char) : Option DecimalParts :=
  let whole := chars.takeWhile test
  let behind := chars.dropWhile test
  let fraction :=
    match behind with
    | '.' :: rest => some (rest.takeWhile test)
    | _ => none
  let behind :=
    match behind with
    | '.' :: rest => rest.dropWhile test
    | _ => behind
  match behind with
  | [] => some ⟨whole, fraction, none⟩
  | c :: rest =>
      if c = 'e' ∨ c = 'E' then
        (exponent? rest).map fun exponent => ⟨whole, fraction, some exponent⟩
      else none

/-- The number that parts denote. Without any digit it is the undefined one. -/
def DecimalParts.content (negative : Bool) (parts : DecimalParts) : Content :=
  let fraction := withoutUnderscores (parts.fraction.getD [])
  let digits := withoutUnderscores parts.whole ++ fraction
  let scale := parts.exponent.getD 0 - fraction.length
  if digits = [] then .number .undefined false
  else numberContent negative (Binary64.ofDecimal negative (Text.decimalValue digits) scale)

/-- The number of decimal places, if the last is a zero. -/
def DecimalParts.places (parts : DecimalParts) : Nat :=
  let fraction := withoutUnderscores (parts.fraction.getD [])
  if fraction.getLast? = some '0' then fraction.length else 0

/-! ## Rules of both versions -/

/-- The texts that stand for nothing. -/
def nullRule : Rule where
  kind := "null"
  read? chars :=
    if isWord ["", "~", "null", "Null", "NULL"] chars then some ⟨.null, .usual, 0⟩ else none

def truthRule (value : Bool) (words : List String) : Rule where
  kind := "bool"
  read? chars := if isWord words chars then some ⟨.truth value, .usual, 0⟩ else none

/-- The infinite numbers and the undefined one. -/
def specialRule : Rule where
  kind := "float"
  read? chars :=
    if isWord [".nan", ".NaN", ".NAN"] chars then some ⟨.number .undefined false, .usual, 0⟩
    else if isWord [".inf", ".Inf", ".INF"] (unsigned chars) then
      some ⟨.number (.infinite (isNegative chars)) false, .usual, 0⟩
    else none

def baseRule (opening : String) (base : Nat) (style : NumberStyle) (isSigned : Bool)
    (test : Char → Bool) : Rule where
  kind := "int"
  read? chars :=
    match Text.dropOpening? opening.toList (if isSigned then unsigned chars else chars) with
    | some digits =>
        if isRun test digits then
          some (integerReading (isNegative chars) base style (withoutUnderscores digits))
        else none
    | none => none

/-! ## Rules of the newer version -/

def integerRule : Rule where
  kind := "int"
  read? chars :=
    if isRun Text.isDigit (unsigned chars) then
      some (integerReading (isNegative chars) 10 .usual (unsigned chars))
    else none

/-- Decimal numbers, with or without an exponent. Where nothing stands in front of the
point, something stands behind it; without an exponent there is a point. -/
def decimalRule (hasExponent : Bool) : Rule where
  kind := "float"
  read? chars :=
    match decimalParts? Text.isDigit (unsigned chars) with
    | some parts =>
        let isNumber :=
          if parts.whole = [] then parts.fraction.any (· ≠ [])
          else hasExponent || parts.fraction.isSome
        if isNumber && parts.exponent.isSome = hasExponent then
          some ⟨parts.content (isNegative chars), if hasExponent then .exponent else .usual,
            if hasExponent then 0 else parts.places⟩
        else none
    | none => none

/-- The rules of version 1.2, in the order in which they are tried. -/
def coreRules : List Rule :=
  [nullRule, truthRule true ["true", "True", "TRUE"], truthRule false ["false", "False", "FALSE"],
    baseRule "0o" 8 .octal false (fun c => '0' ≤ c && c ≤ '7'), integerRule,
    baseRule "0x" 16 .hexadecimal false (fun c => (Text.hexValue? c).isSome),
    specialRule, decimalRule true, decimalRule false]

/-! ## Rules of the older version -/

/-- Integers in base ten, with underscores behind the first digit. -/
def spacedIntegerRule : Rule where
  kind := "int"
  read? chars :=
    let digits := unsigned chars
    if digits.head?.any Text.isDigit && digits.all isSpacedDigit then
      some (integerReading (isNegative chars) 10 .usual (withoutUnderscores digits))
    else none

/-- Decimal numbers with underscores behind the first digit, with or without an exponent.
Without an exponent there is a point; nothing else has to be there. -/
def spacedDecimalRule (hasExponent : Bool) : Rule where
  kind := "float"
  read? chars :=
    match decimalParts? isSpacedDigit (unsigned chars) with
    | some parts =>
        let isNumber :=
          (parts.whole = [] || parts.whole.head?.any Text.isDigit)
            && (hasExponent || parts.fraction.isSome)
        if isNumber && parts.exponent.isSome = hasExponent then
          some ⟨parts.content (isNegative chars), if hasExponent then .exponent else .usual,
            if hasExponent then 0 else parts.places⟩
        else none
    | none => none

/-- A part of a number in base sixty behind the first: one digit, or two of which the first
is below six. -/
def isSixtieth : List Char → Bool
  | [digit] => Text.isDigit digit
  | [tens, digit] => '0' ≤ tens && tens ≤ '5' && Text.isDigit digit
  | _ => false

/-- The exact fraction that a finite number is; other numbers count as zero. -/
def exactFraction : Binary64 → Int × Nat
  | .finite significand exponent =>
      if 0 ≤ exponent then (significand * Nat.pow 2 exponent.toNat, 1)
      else (significand, Nat.pow 2 (-exponent).toNat)
  | _ => (0, 1)

/-- Sixty times a number, plus another one; both steps are rounded. -/
def sixtyfoldPlus (value part : Binary64) : Binary64 :=
  let (number, scale) := exactFraction value
  let product := exactFraction (Binary64.divide (60 * number) scale)
  let addend := exactFraction part
  match value with
  | .finite _ _ =>
      Binary64.divide (product.1 * addend.2 + addend.1 * product.2) (product.2 * addend.2)
  | _ => value

/-- Numbers in base sixty: parts with colons between them, of which the last may have
decimal places. -/
def clockRule (isDecimal : Bool) : Rule where
  kind := if isDecimal then "float" else "int"
  read? chars :=
    let isPoint (c : Char) : Bool := c = '.'
    let digits := unsigned chars
    let clock := if isDecimal then digits.takeWhile (!isPoint ·) else digits
    let places := if isDecimal then digits.dropWhile (!isPoint ·) else []
    match Text.pieces ':' clock with
    | first :: second :: rest =>
        let isPlaces :=
          if isDecimal then !places.isEmpty && (places.drop 1).all isSpacedDigit else true
        if first.head?.any Text.isDigit && first.all isSpacedDigit
            && (second :: rest).all isSixtieth && isPlaces then
          let whole (part : List Char) : Binary64 :=
            Binary64.ofDecimal false (Text.decimalValue (withoutUnderscores part)) 0
          let fraction := withoutUnderscores (places.drop 1)
          let last := (second :: rest).getLastD []
          let lastValue :=
            Binary64.ofDecimal false (Text.decimalValue (last ++ fraction)) (-fraction.length)
          let value :=
            sixtyfoldPlus (((second :: rest).dropLast.map whole).foldl sixtyfoldPlus (whole first))
              lastValue
          let negative := isNegative chars
          let signed :=
            match value with
            | .finite significand exponent =>
                Binary64.finite (if negative then -significand else significand) exponent
            | .infinite _ => .infinite negative
            | .undefined => .undefined
          some ⟨numberContent negative signed, .clock, 0⟩
        else none
    | _ => none

def instantRule : Rule where
  kind := "timestamp"
  read? chars := (Instant.read? chars).map fun instant => ⟨.instant instant, .usual, 0⟩

def mergeRule : Rule where
  kind := "merge"
  isForKeys := true
  read? chars := if isWord ["<<"] chars then some ⟨.merge, .usual, 0⟩ else none

/-- The rules of version 1.1, in the order in which they are tried. -/
def oldRules : List Rule :=
  [nullRule,
    truthRule true ["Y", "y", "Yes", "yes", "YES", "True", "true", "TRUE", "On", "on", "ON"],
    truthRule false ["N", "n", "No", "no", "NO", "False", "false", "FALSE", "Off", "off", "OFF"],
    baseRule "0b" 2 .binary true (fun c => c = '0' || c = '1' || c = '_'),
    baseRule "0" 8 .octal true (fun c => ('0' ≤ c && c ≤ '7') || c = '_'), spacedIntegerRule,
    baseRule "0x" 16 .hexadecimal true (fun c => (Text.hexValue? c).isSome || c = '_'),
    specialRule, spacedDecimalRule true, spacedDecimalRule false, mergeRule, clockRule false,
    clockRule true, instantRule]

def rulesOf (isOld : Bool) : List Rule :=
  if isOld then oldRules else coreRules

/-! ## Scalars -/

/-- How the text of a scalar is written. -/
inductive Writing where
  | plain
  | singleQuoted
  | doubleQuoted
  | block (isFolded : Bool)
  deriving DecidableEq, Repr

/-- A scalar: its text, how that is written, and what it stands for. -/
structure Scalar where
  text : List Char
  writing : Writing
  reading : Reading
  deriving Repr

def Reading.ofText (chars : List Char) : Reading :=
  ⟨.text chars, .usual, 0⟩

def Reading.first? (rules : List Rule) (chars : List Char) : Option Reading :=
  rules.findSome? fun rule => rule.read? chars

/-- The reading of a text with a tag of the core namespace. A kind with rules takes the
texts that meet one; in the newer version any text may be the mark of merged fields, and
a point in time has to be one. All else is text. -/
def Reading.ofKind? (isOld : Bool) (kind : String) (chars : List Char) : Option Reading :=
  let bytes := Text.bytesOfBase64 (Text.unitsOfAll chars)
  if kind = "binary" then some ⟨.bytes bytes, .usual, 0⟩
  else if !isOld && kind = "merge" then some ⟨.merge, .usual, 0⟩
  else if !isOld && kind = "timestamp" then instantRule.read? chars
  else
    some ((Reading.first? ((rulesOf isOld).filter (·.kind = kind)) chars).getD (.ofText chars))

/-- The reading of the text of a scalar, by its tag, or by the rules of the version if it
is plain and has none. A tag of a name that every table answers cannot be followed. -/
def Reading.of? (isOld isKey : Bool) (tag : Option String) (writing : Writing)
    (chars : List Char) : Option Reading :=
  match tag with
  | none =>
      if writing = .plain then
        let rules := (rulesOf isOld).filter fun rule => isKey || !rule.isForKeys
        some ((Reading.first? rules chars).getD (.ofText chars))
      else some (.ofText chars)
  | some name =>
      match Text.dropOpening? coreNamespace.toList name.toList with
      | some kind => Reading.ofKind? isOld (String.ofList kind) chars
      | none => if (Table.builtinText? name).isSome then none else some (.ofText chars)

/-- Two scalars are the same key. Points in time, bytes and merges are the same as
nothing else, and neither is the undefined number. -/
def Content.isSameKey : Content → Content → Bool
  | .null, .null => true
  | .truth first, .truth second => first = second
  | .number first _, .number second _ => first = second && first ≠ .undefined
  | .text first, .text second => first = second
  | _, _ => false

end PartitionBench.Document.Yaml
