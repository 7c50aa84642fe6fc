import PartitionBench.Document.Yaml.Folding
import PartitionBench.Document.Yaml.Node
import PartitionBench.Document.Yaml.Pieces
import PartitionBench.Numeric.Shortest

/-!
Contract: scalars as they are written inside flow collections.

Owns:
- which texts can be written without quotes, and which quotes the others have;
- numbers in the style in which they were read;
- truths and nulls in their own words, points in time, and bytes in base 64.

Does not own: what is written around a scalar (`Yaml.FlowText`).
-/

namespace PartitionBench.Document.Yaml

open PartitionBench.Numeric

structure TextPlace where
  isOld : Bool
  /-- The scalar is a key without a mark, and has to be on one line. -/
  isKey : Bool
  indent : Nat
  /-- The column at which the scalar begins, if that is known. -/
  column : Option Nat

/-- A text behind which every run of line breaks has one more, and indentation. -/
def spreadBreaks (indent : Nat) : List Char → List Char
  | '\n' :: '\n' :: rest => '\n' :: spreadBreaks indent ('\n' :: rest)
  | '\n' :: rest => '\n' :: '\n' :: (List.replicate indent ' ' ++ spreadBreaks indent rest)
  | c :: rest => c :: spreadBreaks indent rest
  | [] => []

/-- The escape of a character inside double quotes, before the names of escapes are
looked up. -/
def escaped (c : Char) : List Char :=
  match c with
  | '"' => ['\\', '"']
  | '\\' => ['\\', '\\']
  | '\n' => ['\\', 'n']
  | '\t' => ['\\', 't']
  | '\r' => ['\\', 'r']
  | c =>
      let code := c.toNat
      if code = 0x00 then ['\\', '0']
      else if code = 0x07 then ['\\', 'a']
      else if code = 0x08 then ['\\', 'b']
      else if code = 0x0B then ['\\', 'v']
      else if code = 0x0C then ['\\', 'f']
      else if code = 0x1B then ['\\', 'e']
      else if code < 0x20 then
        ['\\', 'x', Text.smallHexDigit (code / 16), Text.smallHexDigit (code % 16)]
      else [c]

/-- The length of the plain escape of a character, which decides whether a text in double
quotes is long. -/
def escapedLength (c : Char) : Nat :=
  let code := c.toNat
  if c = '"' ∨ c = '\\' ∨ c = '\n' ∨ c = '\t' ∨ c = '\r' ∨ code = 0x08 ∨ code = 0x0C then 2
  else if code < 0x20 then 6
  else Text.units c

/-- A text in double quotes with at least so many units has real line breaks. -/
def longQuoted : Nat := 40

/-- The inside of double quotes. In a long text line breaks are real where more follows, and
then one of them more is written. Spaces around them are escaped. -/
def quotedInside (isLong : Bool) (indent : Nat) (isInBreak : Bool) : List Char → List Char
  | [] => []
  | '\n' :: rest =>
      if isLong && !rest.isEmpty then
        let isLast := rest.head? ≠ some '\n' || rest.drop 1 = []
        (if isInBreak then ['\n'] else ['\n', '\n'])
          ++ (if isLast then
            List.replicate indent ' ' ++ (if rest.head? = some ' ' then ['\\'] else [])
            else [])
          ++ quotedInside isLong indent (!isLast) rest
      else '\\' :: 'n' :: quotedInside isLong indent false rest
  | ' ' :: '\n' :: rest => '\\' :: ' ' :: quotedInside isLong indent false ('\n' :: rest)
  | c :: rest => escaped c ++ quotedInside isLong indent false rest

/-- A document marker, or a directive, stands at the start of a line. -/
def containsMarker (text : List Char) : Bool :=
  (Text.pieces '\n' text).any fun line =>
    line.head? = some '%' || line.take 3 = ['-', '-', '-'] || line.take 3 = ['.', '.', '.']

def quotedIndent (place : TextPlace) (text : List Char) : Nat :=
  if place.indent = 0 && containsMarker text then 2 else place.indent

def doubleQuotedForm (place : TextPlace) (text : List Char) : List Char :=
  let isLong := !place.isKey && longQuoted ≤ text.foldl (fun length c => length + escapedLength c) 2
  let indent := quotedIndent place text
  let written := '"' :: (quotedInside isLong indent false text ++ ['"'])
  if place.isKey then written else foldLines true indent place.column written

/-- A blank stands in front of or behind a line break. -/
def hasBlankAtBreak : List Char → Bool
  | first :: second :: rest =>
      (isBlank first && second = '\n') || (first = '\n' && isBlank second)
        || hasBlankAtBreak (second :: rest)
  | _ => false

/-- A text in single quotes, if it can be written so. -/
def singleQuotedForm (place : TextPlace) (text : List Char) : List Char :=
  if (place.isKey && text.contains '\n') || hasBlankAtBreak text then doubleQuotedForm place text
  else
    let indent := quotedIndent place text
    let doubled := text.flatMap fun c => if c = '\'' then ['\'', '\''] else [c]
    let written := '\'' :: (spreadBreaks indent doubled ++ ['\''])
    if place.isKey then written else foldLines false indent place.column written

/-- A text in quotes: in single ones if it holds double ones only. -/
def quotedForm (place : TextPlace) (text : List Char) : List Char :=
  if text.contains '"' && !text.contains '\'' then singleQuotedForm place text
  else doubleQuotedForm place text

/-- A character with which no text without quotes begins. -/
def isQuoteStart (c : Char) : Bool :=
  isSpace c && c ≠ '\r' || ",[]\x7b\x7d#&*!|>'\"%@".toList.contains c || c = Char.ofNat 0x60

/-- Two characters that never stand next to each other in a text without quotes. -/
def isBadPair (first second : Char) : Bool :=
  ((first = '\n' || first = ':') && isBlank second) || (isBlank first && second = '\n')
    || ((first = '\n' || isBlank first) && second = '#')

/-- Somewhere two characters stand next to each other that may not. -/
def hasBadPair : List Char → Bool
  | first :: second :: rest => isBadPair first second || hasBadPair (second :: rest)
  | _ => false

/-- A text cannot be written without quotes because of its characters. -/
def needsQuotes (text : List Char) : Bool :=
  let isMark (c : Char) : Bool := c = '?' || c = '-'
  let isMarked :=
    match text with
    | [c] => isMark c
    | c :: second :: _ => isMark c && isBlank second
    | [] => false
  text.head?.any isQuoteStart || isMarked || hasBadPair text
    || text.getLast?.any fun c => c = '\n' || isBlank c || c = ':' || c = '-'

/-- A text without quotes, if it can be written so. A text that any rule reads as something
else needs quotes, if it has to remain a text. -/
def plainForm (place : TextPlace) (isActual : Bool) (text : List Char) : List Char :=
  let written := spreadBreaks place.indent text
  let isRead := (rulesOf place.isOld).any fun rule => (rule.read? written).isSome
  if (place.isKey && text.contains '\n') || text.any isFlowIndicator || needsQuotes text
      || (isActual && isRead) then quotedForm place text
  else if place.isKey then written
  else foldLines false place.indent place.column written

/-- A control character, which is written in double quotes only. -/
def isControl (c : Char) : Bool :=
  let code := c.toNat
  (code < 0x20 && code ≠ 0x09 && code ≠ 0x0A) || (0x7F ≤ code && code ≤ 0x9F)

/-- A text in the way in which it was written, if that is possible. -/
def textForm (place : TextPlace) (isActual : Bool) (writing : Writing) (text : List Char) :
    List Char :=
  if text.any isControl then doubleQuotedForm place text
  else
    match writing with
    | .plain => plainForm place isActual text
    | .singleQuoted => singleQuotedForm place text
    | .doubleQuoted => doubleQuotedForm place text
    | .block _ => quotedForm place text

def digitsIn (base : Nat) (value : Binary64) : List Char :=
  Nat.toDigits base value.toInt.natAbs

def baseForm (base : Nat) (opening : String) (value : Binary64) : List Char :=
  let digits := opening.toList ++ digitsIn base value
  if value.toInt < 0 then '-' :: digits else digits

def exponentForm (value : Binary64) : List Char :=
  match value with
  | .finite significand exponent =>
      if significand = 0 then "0e+0".toList
      else
        let form := shortestForm significand.natAbs exponent
        let body :=
          match form.digits with
          | [] => []
          | [digit] => digit :: 'e' :: exponentText (form.point - 1)
          | digit :: more => digit :: '.' :: (more ++ 'e' :: exponentText (form.point - 1))
        if significand < 0 then '-' :: body else body
  | _ => []

/-- The rest of a number after division by sixty, and what is left of it, with the sign
taken off. -/
def sixtieths (value : Binary64) : Binary64 × Binary64 :=
  let (number, scale) := exactFraction value
  let number := number.natAbs
  let part := number % (60 * scale)
  (Binary64.ofQuotient false part scale, Binary64.ofQuotient false (number - part) (60 * scale))

/-- A number with at least two characters. -/
def padPart (value : Binary64) : List Char :=
  let text := value.text.toList
  List.replicate (2 - text.length) '0' ++ text

/-- A text up to the last six zeros that only digits follow. -/
def dropStrayPlaces : List Char → List Char
  | [] => []
  | c :: rest =>
      if (c :: rest).take 6 = List.replicate 6 '0' && ((c :: rest).drop 6).all Text.isDigit then []
      else c :: dropStrayPlaces rest

/-- A number in base sixty, with two or three parts. -/
def clockForm (value : Binary64) : List Char :=
  let first := sixtieths value
  let parts :=
    if first.2 = .zero then [.zero, first.1]
    else
      let second := sixtieths first.2
      if second.2 = .zero then [second.1, first.1] else [second.2, second.1, first.1]
  let isNegative :=
    match value with
    | .finite significand _ => decide (significand < 0)
    | _ => false
  let text := dropStrayPlaces (List.intercalate [':'] (parts.map padPart))
  if isNegative then '-' :: text else text

/-- A number in plain notation, with at least so many decimal places. -/
def usualForm (value : Binary64) (isNegativeZero : Bool) (places : Nat) : List Char :=
  match value with
  | .undefined => ".nan".toList
  | .infinite negative => if negative then "-.inf".toList else ".inf".toList
  | .finite _ _ =>
      let text := if isNegativeZero then ['-', '0'] else value.text.toList
      if places = 0 || !text.head?.any Text.isDigit then text
      else
        let text := if text.contains '.' then text else text ++ ['.']
        let count := ((text.dropWhile (· ≠ '.')).drop 1).length
        text ++ List.replicate (places - count) '0'

/-- A number in the style in which it was read. Only integers are written in a base, and
only finite numbers with an exponent. -/
def numberForm (isOld : Bool) (value : Binary64) (isNegativeZero : Bool) (style : NumberStyle)
    (places : Nat) : List Char :=
  let isFinite :=
    match value with
    | .finite _ _ => true
    | _ => false
  let plain := usualForm value isNegativeZero (if style = .usual then places else 0)
  if !isFinite then plain
  else
    match style with
    | .usual => plain
    | .binary => baseForm 2 "0b" value
    | .octal => baseForm 8 (if isOld then "0" else "0o") value
    | .hexadecimal => baseForm 16 "0x" value
    | .exponent => exponentForm value
    | .clock => clockForm value

/-- Bytes in base 64, in lines with a blank between them unless they stand in double
quotes. -/
def bytesForm (place : TextPlace) (writing : Writing) (bytes : List UInt8) : List Char :=
  let digits := Text.base64Of ('+', '/') ['='] bytes
  let width := max (lineWidth - place.indent) contentWidth
  let separator := if writing = .block false then '\n' else ' '
  let count := (digits.length + width - 1) / width
  let lines := (List.range count).map fun index => (digits.drop (index * width)).take width
  let text :=
    if writing = .doubleQuoted then digits else List.intercalate [separator] lines
  textForm place false writing text

/-- A text that is a numeral of any kind, or empty. -/
def isNumeral (text : List Char) : Bool :=
  let digits := Text.trimChars text
  let isIn (test : Char → Bool) : Bool := isRun test (digits.drop 2)
  let isDecimal :=
    match decimalParts? Text.isDigit (unsigned digits) with
    | some parts => parts.whole ≠ [] || parts.fraction.any (· ≠ [])
    | none => false
  digits.isEmpty || isDecimal
    || (isWord ["0x", "0X"] (digits.take 2) && isIn (fun c => (Text.hexValue? c).isSome))
    || (isWord ["0o", "0O"] (digits.take 2) && isIn (fun c => '0' ≤ c && c ≤ '7'))
    || (isWord ["0b", "0B"] (digits.take 2) && isIn (fun c => c = '0' || c = '1'))

def isTooLarge (digits : List Char) : Bool :=
  match decimalParts? Text.isDigit digits with
  | some parts => parts.content false = .number (.infinite false) false
  | none => false

/-- A text whose tag asks for a number: the text in double quotes if it is a numeral, and
the undefined number otherwise. A number that is too large is infinite. -/
def numeralForm (text : List Char) : List Char :=
  let digits := Text.trimChars text
  if unsigned digits = "Infinity".toList || isTooLarge (unsigned digits) then
    if isNegative digits then "-.inf".toList else ".inf".toList
  else if isNumeral text then '"' :: (text.flatMap escaped ++ ['"'])
  else ".nan".toList

def kindOf? (tag : Option String) : Option String :=
  (tag.bind fun tag => Text.dropOpening? coreNamespace.toList tag.toList).map String.ofList

/-- What is written for a collection whose tag asks for a scalar that is written in a way of
its own. -/
def misplacedForm? (isOld : Bool) (tag : Option String) : Option String :=
  match kindOf? tag with
  | some "int" => some ".nan"
  | some "float" => some ".nan"
  | some "null" => some "null"
  | some "bool" => some "false"
  | some "str" => some "undefined"
  | some "binary" => if isOld then some "" else none
  | some "timestamp" => if isOld then some "" else none
  | some "merge" => if isOld then some "<<" else none
  | _ => none

/-- A scalar whose text its tag could not read, by the kind that the tag asks for. A text
is no point in time. -/
def misreadForm? (place : TextPlace) (tag : Option String) (writing : Writing)
    (text : List Char) : Option (List Char) :=
  let kinds := ["int", "float", "null", "bool", "timestamp", "merge", "str"]
  let kind := kindOf? tag
  let known := kind.filter fun kind =>
    kinds.contains kind && (place.isOld || (kind ≠ "timestamp" && kind ≠ "merge"))
  match known with
  | some "int" => some (numeralForm text)
  | some "float" => some (numeralForm text)
  | some "null" => some "null".toList
  | some "bool" => some (if text.isEmpty then "false".toList else "true".toList)
  | some "timestamp" => none
  | some "merge" => some ['<', '<']
  | some _ => some (textForm place true writing text)
  | none =>
      if place.isOld && text = ['<', '<'] then some ['<', '<']
      else
        let kinds := if place.isOld then ["map", "seq", "set", "omap", "pairs"] else ["map", "seq"]
        some (textForm place (kind.all fun kind => !kinds.contains kind) writing text)

def scalarForm? (place : TextPlace) (tag : Option String) (written : Scalar) :
    Option (List Char) :=
  match written.reading.content with
  | .null => some written.text
  | .truth _ => some written.text
  | .number value isNegativeZero =>
      some (numberForm place.isOld value isNegativeZero written.reading.style
        written.reading.places)
  | .text text => misreadForm? place tag written.writing text
  | .instant instant => some instant.shortText
  | .bytes bytes => some (bytesForm place written.writing bytes)
  | .merge => some ['<', '<']

end PartitionBench.Document.Yaml
