import PartitionBench.Document.Yaml.Token
import PartitionBench.Text.Digits

/-!
Contract: a YAML text as a sequence of pieces.

Owns:
- the state of a scan: what is left, the indentation of the line, the margin that
  scalars have to keep, and the depth of flow collections;
- where each piece ends, line by line in block collections and through line breaks in
  flow collections;
- which lines continue a scalar, and which belong to a block scalar.

Does not own: what the pieces mean. A scan never fails; pieces that make no sense
together are refused later.
-/

namespace PartitionBench.Document.Yaml

/-- A space or a tab. -/
def isBlank (c : Char) : Bool :=
  c = ' ' || c = '\t'

/-- A blank or a character that ends a line. -/
def isSpace (c : Char) : Bool :=
  c = ' ' || c = '\t' || c = '\n' || c = '\r'

/-- The text is at its end, or a space follows. -/
def endsToken : List Char → Bool
  | [] => true
  | c :: _ => isSpace c

/-- A character with a meaning of its own inside flow collections. -/
def isFlowIndicator (c : Char) : Bool :=
  c = ',' || c = '[' || c = ']' || c = '\x7b' || c = '\x7d'

def startsWithFlowIndicator (rest : List Char) : Bool :=
  rest.head?.any isFlowIndicator

/-- The line ends here, at the end of the text, at a line feed, or at a carriage return
and a line feed. -/
def isAtBreak : List Char → Bool
  | [] => true
  | '\n' :: _ => true
  | '\r' :: '\n' :: _ => true
  | _ => false

/-- The rest of the line, without its end. -/
def lineOf : List Char → List Char
  | [] => []
  | '\n' :: _ => []
  | '\r' :: '\n' :: _ => []
  | c :: rest => c :: lineOf rest

/-- A document marker of one character, three times, stands at the start of a line. -/
def startsWithMarker (c : Char) (line : List Char) : Bool :=
  line.take 3 = [c, c, c] && endsToken (line.drop 3)

/-- A line begins with the start or the end of a document. -/
def isMarkerLine (line : List Char) : Bool :=
  startsWithMarker '-' line || startsWithMarker '.' line

def indentation (line : List Char) : Nat :=
  (line.takeWhile (· = ' ')).length

/-- A line continues a scalar that has to be indented by `margin` columns: it is
indented that far, or holds spaces only and ends. A scalar without a margin is
continued by every line that marks no document. -/
def continues (margin : Nat) (line : List Char) : Bool :=
  if margin = 0 then !isMarkerLine line
  else
    let behind := line.dropWhile (· = ' ')
    margin ≤ indentation line || (!behind.isEmpty && isAtBreak behind)

structure Scan where
  rest : List Char
  /-- The indentation of the line, with the indicators that open nested collections. -/
  indent : Nat := 0
  /-- The indentation that the lines of the next scalar have to keep. -/
  margin : Nat := 0
  depth : Nat := 0
  /-- A colon may follow directly, because a quoted scalar or a flow collection has just
  ended. -/
  isBehindKey : Bool := false
  /-- The pieces so far, the latest first. -/
  pieces : List Piece := []

inductive Mode where
  | stream
  | lineStart
  | blockStart
  | block
  | flow
  deriving DecidableEq

namespace Scan

def push (scan : Scan) (piece : Piece) : Scan :=
  { scan with pieces := piece :: scan.pieces }

/-- Take the next `count` characters as a piece, if there are any. -/
def take (scan : Scan) (count : Nat) : Scan :=
  if count = 0 then scan
  else
    { scan with
      rest := scan.rest.drop count
      pieces := .mark (scan.rest.take count) :: scan.pieces }

def takeWhile (scan : Scan) (test : Char → Bool) : Scan :=
  scan.take (scan.rest.takeWhile test).length

def takeBlanks (scan : Scan) : Scan :=
  scan.takeWhile isBlank

/-- Take the spaces that follow, but no tabs. -/
def takeSpaces (scan : Scan) : Scan :=
  scan.takeWhile (· = ' ')

def takeLine (scan : Scan) : Scan :=
  scan.take (lineOf scan.rest).length

/-- Take the end of the line, if it ends here. -/
def takeBreak (scan : Scan) : Scan :=
  match scan.rest with
  | '\n' :: _ => scan.take 1
  | '\r' :: '\n' :: _ => scan.take 2
  | _ => scan

/-- Take the next `count` characters as the content of a scalar. -/
def takeContent (scan : Scan) (count : Nat) : Scan :=
  { scan with
    rest := scan.rest.drop count
    pieces := .content (scan.rest.take count) :: scan.pieces }

/-- The character of the line that follows, if the line does not end here. -/
def next? (scan : Scan) : Option Char :=
  if isAtBreak scan.rest then none else scan.rest.head?

end Scan

def isNameCharacter (c : Char) : Bool :=
  !isSpace c && !isFlowIndicator c

/-- A character of a tag that is not written by its code. -/
def isTagCharacter (c : Char) : Bool :=
  c.isAlphanum || "-#;/?:@&=+$_.!~*'()".toList.contains c

/-- The length of the characters of a tag. A percent sign stands with two hexadecimal
digits. -/
def tagLength : List Char → Nat
  | '%' :: first :: second :: rest =>
      if (Text.hexValue? first).isSome && (Text.hexValue? second).isSome then
        tagLength rest + 3
      else 0
  | c :: rest => if isTagCharacter c then tagLength rest + 1 else 0
  | [] => 0

/-- The length of a tag, from its exclamation mark on. A tag in angle brackets ends
behind them, or where a space comes first. -/
def fullTagLength : List Char → Nat
  | _ :: '<' :: rest =>
      let inside := (rest.takeWhile (fun c => !isSpace c && c != '>')).length
      inside + 2 + (if (rest.drop inside).head? = some '>' then 1 else 0)
  | _ :: rest => tagLength rest + 1
  | [] => 0

/-- Take the tags, anchors and indicators that follow. Each step of `fuel` takes at
least one character. An indicator of a collection sets the margin of scalars; inside
flow collections it ends a key. -/
def takeProperties : Nat → Scan → Scan
  | 0, scan => scan
  | fuel + 1, scan =>
      match scan.rest with
      | '!' :: _ => takeProperties fuel (scan.take (fullTagLength scan.rest)).takeBlanks
      | '&' :: _ => takeProperties fuel (scan.takeWhile isNameCharacter).takeBlanks
      | c :: rest =>
          let isOpen := decide (0 < scan.depth)
          if (c = '-' || c = '?' || c = ':')
              && (endsToken rest || (isOpen && startsWithFlowIndicator rest)) then
            let scan :=
              if isOpen then { scan with isBehindKey := false }
              else { scan with margin := scan.indent + 1 }
            takeProperties fuel (scan.take 1).takeBlanks
          else scan
      | [] => scan

/-- Take all that follows of tags, anchors and indicators. -/
def Scan.takeLead (scan : Scan) : Scan :=
  takeProperties (scan.rest.length + 1) scan

/-- The length of a plain scalar. `seen` characters were looked at, of which `kept`
belong to it. It ends before a colon with a space behind it and before a comment, and
inside flow collections before their indicators; blanks and line breaks belong to it
only when more follows on a line that continues it. -/
def plainLength (inFlow : Bool) (margin seen kept : Nat) : List Char → Nat
  | [] => kept
  | c :: rest =>
      if c = ':' then
        if endsToken rest || (inFlow && startsWithFlowIndicator rest) then kept
        else plainLength inFlow margin (seen + 1) (seen + 1) rest
      else if isSpace c then
        if c = '\r' && rest.head? = some '\n' then plainLength inFlow margin (seen + 1) kept rest
        else
          let kept := if c = '\r' then seen + 1 else kept
          if rest.head? = some '#' || (inFlow && startsWithFlowIndicator rest) then kept
          else if c = '\n' && !continues margin rest then kept
          else plainLength inFlow margin (seen + 1) kept rest
      else if inFlow && isFlowIndicator c then kept
      else plainLength inFlow margin (seen + 1) (seen + 1) rest

/-- The length of a scalar in single quotes behind the opening one, with the closing
one, if there is one. -/
def singleQuotedLength? : List Char → Option Nat
  | '\'' :: '\'' :: rest => (singleQuotedLength? rest).map (· + 2)
  | c :: rest => if c = '\'' then some 1 else (singleQuotedLength? rest).map (· + 1)
  | [] => none

/-- The length of a scalar in double quotes behind the opening one, with the closing
one, if there is one. -/
def doubleQuotedLength? : List Char → Option Nat
  | '\\' :: _ :: rest => (doubleQuotedLength? rest).map (· + 2)
  | c :: rest => if c = '"' then some 1 else (doubleQuotedLength? rest).map (· + 1)
  | [] => none

/-- The number of characters, up to `count`, before the end of the first line whose next
does not continue a scalar; `count` itself if all lines continue it. The carriage
return at the end of the line is not counted. -/
def continuedLength (margin : Nat) : Nat → List Char → Nat
  | 0, _ => 0
  | _ + 1, [] => 0
  | count + 1, c :: rest =>
      if c = '\n' && !continues margin rest then 0
      else if c = '\r' && 0 < count && rest.head? = some '\n' && !continues margin (rest.drop 1)
      then 0
      else continuedLength margin count rest + 1

/-- The length of a quoted scalar, from its opening quote on. One that is never closed
takes all that is left; one with a line that does not continue it ends before that
line. -/
def quotedLength (margin : Nat) : List Char → Nat
  | [] => 0
  | quote :: rest =>
      let closing := if quote = '"' then doubleQuotedLength? rest else singleQuotedLength? rest
      match closing with
      | none => rest.length + 1
      | some count =>
          let continued := continuedLength margin (count - 1) rest
          if continued = count - 1 then count + 1 else continued + 1

/-- The header of a block scalar: its length, the indentation that it demands, and
whether the line breaks at the end are kept. -/
structure BlockHeader where
  length : Nat
  indent : Option Nat
  keeps : Bool

/-- The indicators of a block header, up to the first character that is none. The last
digit counts. -/
def blockIndicators (header : BlockHeader) : List Char → BlockHeader
  | [] => header
  | c :: rest =>
      if c = '+' then blockIndicators { header with keeps := true } rest
      else if '1' ≤ c ∧ c ≤ '9' then
        blockIndicators { header with indent := some (c.toNat - 0x31) } rest
      else if c = '-' then blockIndicators header rest
      else header

/-- The header of a block scalar that follows. It reaches to a space or a comment. -/
def blockHeader (rest : List Char) : BlockHeader :=
  let length := 1 + ((rest.drop 1).takeWhile (fun c => !isSpace c && c != '#')).length
  blockIndicators ⟨length, none, false⟩ (rest.drop 1)

def linesWithBreaks : List Char → List (List Char)
  | [] => []
  | '\n' :: rest => ['\n'] :: linesWithBreaks rest
  | c :: rest =>
      match linesWithBreaks rest with
      | [] => [[c]]
      | line :: others => (c :: line) :: others

/-- A line without the line feed at its end. -/
def withoutFeed (line : List Char) : List Char :=
  if line.getLast? = some '\n' then line.dropLast else line

/-- A line without the carriage return at its end. -/
def withoutReturn (line : List Char) : List Char :=
  if line.getLast? = some '\r' then line.dropLast else line

/-- A line of spaces only, that ends. -/
def isBareLine (line : List Char) : Bool :=
  line.getLast? = some '\n' && (withoutReturn (withoutFeed line)).all (· = ' ')

/-- Lines at the end, of no more than `indent` spaces, are left out; the first line
stays. -/
def withoutBareEnd (indent : Nat) (lines : List (List Char)) : List (List Char) :=
  let isLeftOut (line : List Char) : Bool :=
    let content := withoutReturn (withoutFeed line)
    content.all (· = ' ') && content.length ≤ indent
  lines.take 1 ++ ((lines.drop 1).reverse.dropWhile isLeftOut).reverse

/-- The length of a block scalar, and the margin that it sets. The first line that is
not bare sets the indentation, unless the header does; it has to keep the margin.
Tabs right behind the block are counted to it, and are refused later. -/
def blockLength (margin : Nat) (header : BlockHeader) (rest : List Char) : Nat × Nat :=
  let lines := linesWithBreaks rest
  let leading := lines.takeWhile isBareLine
  let others := lines.dropWhile isBareLine
  let indent := indentation (others.headD [])
  let isIndented := decide (margin ≤ indent)
  let next :=
    if isIndented then
      match header.indent with
      | none => indent
      | some explicit => explicit + (if margin = 0 then 1 else margin)
    else margin
  let body := if isIndented then others.takeWhile (continues next) else []
  let taken := leading ++ body
  let behind := rest.drop taken.flatten.length
  let blanks := (behind.takeWhile (· = ' ')).length
  let length :=
    if (behind.drop blanks).head? = some '\t' then
      taken.flatten.length + blanks + ((behind.drop blanks).takeWhile isSpace).length
    else if header.keeps then taken.flatten.length
    else (withoutBareEnd indent taken).flatten.length
  (length, next)

/-- The part of a line before a comment. A comment stands behind a blank. -/
def beforeComment : List Char → List Char
  | [] => []
  | c :: rest =>
      if isBlank c && rest.head? = some '#' then [] else c :: beforeComment rest

/-- The length of a directive: up to the blanks before a comment or the end of the
line. -/
def directiveLength (line : List Char) : Nat :=
  ((beforeComment line).reverse.dropWhile isBlank).length

/-- Nothing but blanks and a comment is left on the line. -/
def closesLine (rest : List Char) : Bool :=
  let behind := rest.dropWhile isBlank
  isAtBreak behind || behind.head? = some '#'

namespace Scan

/-- Outside documents: a directive, a line without content, or the start of a
document. -/
def stepStream (scan : Scan) : Mode × Scan :=
  let scan := if scan.rest.head? = some byteOrderMark then scan.take 1 else scan
  if scan.rest.head? = some '%' then
    (.stream, ((scan.take (directiveLength (lineOf scan.rest))).takeBlanks).takeLine)
  else if closesLine scan.rest then (.stream, scan.takeBlanks.takeLine.takeBreak)
  else (.lineStart, scan.push .documentBegin)

/-- At the start of a line: a document marker, or an indentation. -/
def stepLineStart (scan : Scan) : Mode × Scan :=
  if startsWithMarker '-' scan.rest then (.block, { scan.take 3 with indent := 0, margin := 0 })
  else if startsWithMarker '.' scan.rest then
    (.stream, { scan.take 3 with indent := 0, margin := 0 })
  else
    let indent := indentation scan.rest
    let scan := { scan.takeSpaces with indent }
    (.blockStart,
      if indent < scan.margin && !endsToken (scan.rest.drop 1) then { scan with margin := indent }
      else scan)

/-- Behind an indentation: an indicator that opens a nested collection, or anything. -/
def stepBlockStart (scan : Scan) : Mode × Scan :=
  match scan.rest with
  | c :: rest =>
      if (c = '-' || c = '?' || c = ':') && endsToken rest then
        let width := 1 + (rest.takeWhile isBlank).length
        (.blockStart,
          { (scan.take 1).takeBlanks with
            margin := scan.indent + 1, indent := scan.indent + width })
      else (.block, scan)
  | [] => (.block, scan)

def stepQuoted (scan : Scan) : Mode × Scan :=
  (if scan.depth = 0 then .block else .flow, scan.take (quotedLength scan.margin scan.rest))

def stepPlain (scan : Scan) : Mode × Scan :=
  let inFlow := decide (0 < scan.depth)
  (if inFlow then .flow else .block,
    scan.takeContent (plainLength inFlow scan.margin 0 0 scan.rest))

def stepBlockScalar (scan : Scan) : Mode × Scan :=
  let header := blockHeader scan.rest
  let scan := ((scan.take header.length).takeBlanks.takeLine).takeBreak
  let extent := blockLength scan.margin header scan.rest
  (.lineStart, { scan.takeContent extent.1 with margin := extent.2 })

/-- In a block collection, or outside all collections. -/
def stepBlock (scan : Scan) : Mode × Scan :=
  let scan := scan.takeBlanks.takeLead
  match scan.next? with
  | none => (.lineStart, scan.takeBreak)
  | some '#' => (.lineStart, scan.takeLine.takeBreak)
  | some c =>
      if c = '\x7b' || c = '[' then (.flow, { scan.take 1 with isBehindKey := false, depth := 1 })
      else if c = '\x7d' || c = ']' then (.block, scan.take 1)
      else if c = '*' then (.block, scan.takeWhile isNameCharacter)
      else if c = '"' || c = '\'' then scan.stepQuoted
      else if c = '|' || c = '>' then scan.stepBlockScalar
      else scan.stepPlain

/-- Take line breaks and blanks, and give the indentation of the last line that was
begun. Each step of `fuel` takes at least one character. -/
def takeGap (indent : Option Nat) : Nat → Scan → Option Nat × Scan
  | 0, scan => (indent, scan)
  | fuel + 1, scan =>
      if isAtBreak scan.rest && !scan.rest.isEmpty then
        let scan := scan.takeBreak
        let indent := indentation scan.rest
        takeGap (some indent) fuel { scan.takeSpaces.takeBlanks with indent }
      else if scan.rest.head?.any isBlank then takeGap indent fuel scan.takeBlanks
      else (indent, scan)

/-- Take the commas that follow, each with the blanks behind it. -/
def takeCommas : Nat → Scan → Scan
  | 0, scan => scan
  | fuel + 1, scan =>
      if scan.rest.head? = some ',' then
        takeCommas fuel { (scan.take 1).takeBlanks with isBehindKey := false }
      else scan

/-- A line inside flow collections, whose indentation is given if it was begun here,
cannot belong to them: it lies left of the margin, or is a document marker. The line
that closes the outermost of them may lie one column left of the margin. -/
def breaksFlow (scan : Scan) (indent : Option Nat) : Bool :=
  match indent with
  | none => false
  | some indent =>
      let head := scan.next?
      ((indent < scan.margin && head != some '#') || (indent = 0 && isMarkerLine scan.rest))
        && !(indent + 1 = scan.margin && scan.depth = 1 && (head = some ']' || head = some '\x7d'))

def stepFlow (scan : Scan) : Mode × Scan :=
  let found := takeGap none (scan.rest.length + 1) scan
  let scan := found.2
  if scan.breaksFlow found.1 then (.lineStart, { scan.push .flowBreak with depth := 0 })
  else
    let scan := (takeCommas (scan.rest.length + 1) scan).takeLead
    match scan.next? with
    | none => (.flow, scan)
    | some c =>
        if c = '#' then (.flow, scan.takeLine)
        else if c = '\x7b' || c = '[' then
          (.flow, { scan.take 1 with isBehindKey := false, depth := scan.depth + 1 })
        else if c = '\x7d' || c = ']' then
          (if scan.depth ≤ 1 then .block else .flow,
            { scan.take 1 with isBehindKey := true, depth := scan.depth - 1 })
        else if c = '*' then (.flow, scan.takeWhile isNameCharacter)
        else if c = '"' || c = '\'' then { scan with isBehindKey := true }.stepQuoted
        else if c = ':' && (scan.isBehindKey || endsToken (scan.rest.drop 1)
            || (scan.rest.drop 1).head? = some ',') then
          (.flow, { (scan.take 1).takeBlanks with isBehindKey := false })
        else { scan with isBehindKey := false }.stepPlain

def step (mode : Mode) (scan : Scan) : Mode × Scan :=
  match mode with
  | .stream => scan.stepStream
  | .lineStart => scan.stepLineStart
  | .blockStart => scan.stepBlockStart
  | .block => scan.stepBlock
  | .flow => scan.stepFlow

/-- Scan to the end of the text. Of any few steps of `fuel` one takes a character. -/
def run : Nat → Mode → Scan → Scan
  | 0, _, scan => scan
  | fuel + 1, mode, scan =>
      if scan.rest.isEmpty then scan
      else
        let stepped := scan.step mode
        run fuel stepped.1 stepped.2

end Scan

def piecesOf (text : List Char) : List Piece :=
  (Scan.run (4 * text.length + 16) .stream { rest := text }).pieces.reverse

end PartitionBench.Document.Yaml
