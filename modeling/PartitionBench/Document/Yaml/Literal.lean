import PartitionBench.Document.Yaml.Form
import PartitionBench.Document.Yaml.Quoted

/-!
Contract: YAML scalars that are written as a block of lines.

Owns:
- the header: literal or folded, an explicit indentation, and what becomes of the
  line breaks at the end;
- the text of a literal and of a folded block.

Does not own: which lines belong to a block (`Yaml.Pieces`).
-/

namespace PartitionBench.Document.Yaml

/-- What becomes of the line breaks at the end of a block. -/
inductive Chomping where
  | strip
  | keep
  deriving DecidableEq, Repr

/-- The header of a block. No explicit indentation is written as zero. -/
structure LiteralHeader where
  isFolded : Bool
  indentation : Nat := 0
  chomping : Option Chomping := none

/-- A header with the indicators that follow its first character. Each kind of
indicator stands at most once, and nothing else belongs here. -/
def LiteralHeader.read? (header : LiteralHeader) : List Char → Option LiteralHeader
  | [] => some header
  | c :: rest =>
      let chomping := if c = '-' then some Chomping.strip else if c = '+' then some .keep else none
      if chomping.isSome ∧ header.chomping = none then
        { header with chomping := chomping }.read? rest
      else if '1' ≤ c ∧ c ≤ '9' ∧ header.indentation = 0 then
        { header with indentation := c.toNat - 0x30 }.read? rest
      else none

/-- A line of a block: the number of its leading spaces, and what follows them. -/
structure BlockLine where
  indent : Nat
  content : List Char
  deriving Inhabited

def BlockLine.ofChars (chars : List Char) : BlockLine :=
  ⟨indentation chars, chars.drop (indentation chars)⟩

/-- A line of spaces only. -/
def BlockLine.isEmpty (line : BlockLine) : Bool :=
  line.content = [] || line.content = ['\r']

def BlockLine.beyond (margin : Nat) (line : BlockLine) : List Char :=
  List.replicate (line.indent - margin) ' ' ++ withoutReturn line.content

def literalRest (margin : Nat) (lines : List BlockLine) : List Char :=
  lines.flatMap fun line => '\n' :: line.beyond margin

/-- How two lines of a folded block are separated: not at all before the first, by a
space, by a line break, or by two where an indented part begins. -/
inductive Joint where
  | nothing
  | space
  | lineBreak
  deriving DecidableEq

def Joint.chars : Joint → List Char
  | .nothing => []
  | .space => [' ']
  | .lineBreak => ['\n']

/-- The lines of a folded block. Lines that are indented further than the block, or
begin with a tab, keep their breaks. -/
def foldedFrom (margin : Nat) (joint : Joint) (afterIndented : Bool) : List BlockLine → List Char
  | [] => []
  | line :: rest =>
      let content := withoutReturn line.content
      if margin < line.indent ∨ content.head? = some '\t' then
        let before :=
          match joint with
          | .nothing => []
          | .space => ['\n']
          | .lineBreak => if afterIndented then ['\n'] else ['\n', '\n']
        before ++ line.beyond margin ++ foldedFrom margin .lineBreak true rest
      else if content.isEmpty then
        match joint with
        | .lineBreak => '\n' :: foldedFrom margin .lineBreak afterIndented rest
        | _ => foldedFrom margin .lineBreak afterIndented rest
      else joint.chars ++ content ++ foldedFrom margin .space false rest

/-- The number of lines up to the last that holds anything. -/
def filledCount (lines : List BlockLine) : Nat :=
  (lines.reverse.dropWhile BlockLine.isEmpty).length

/-- The number of lines up to the last that counts: one that holds anything, or one
of more spaces than the margin. -/
def contentCount (margin : Nat) (lines : List BlockLine) : Nat :=
  (lines.reverse.dropWhile (fun line => line.isEmpty && decide (line.indent ≤ margin))).length

/-- The lines of the text of a block; a text without characters has none. -/
def blockLines (text : List Char) : List BlockLine :=
  if text.isEmpty then [] else (Text.pieces '\n' text).map BlockLine.ofChars

/-- The text of a block in a collection at column `parent`. A block that begins with a
line of too many spaces, or has a line left of its margin, is an error, and so is one
without a margin unless it is a whole document. Unless its end is kept, lines of spaces
at the end count only when they go beyond the margin. -/
def blockText? (header : LiteralHeader) (isRoot : Bool) (parent : Nat) (text : List Char) :
    Option (List Char) :=
  let lines := blockLines text
  let filled := filledCount lines
  if filled = 0 then
    some (if header.chomping = some .keep ∧ lines ≠ [] then
      List.replicate (max 1 (lines.length - 1)) '\n' else [])
  else
    let leading := lines.takeWhile BlockLine.isEmpty
    let first := lines.getD leading.length ⟨0, []⟩
    let widest := leading.foldl (fun widest line => max widest line.indent) parent
    let demanded := if header.indentation = 0 then widest else parent + header.indentation
    let margin := if header.indentation = 0 then first.indent else demanded
    let count := max filled (contentCount margin lines)
    let content := (lines.take count).drop leading.length
    let isLeft (line : BlockLine) : Bool :=
      !(withoutReturn line.content).isEmpty && line.indent < margin
    if first.indent < demanded ∨ content.any isLeft ∨ (margin = 0 ∧ !isRoot) then none
    else
      let head := leading.flatMap fun line => List.replicate (line.indent - margin) ' ' ++ ['\n']
      let body :=
        if header.isFolded then foldedFrom margin .nothing false content
        else
          match content with
          | [] => []
          | line :: rest => line.beyond margin ++ literalRest margin rest
      let text := head ++ body
      match header.chomping with
      | some .strip => some text
      | some .keep =>
          let kept := text ++ (lines.drop count).flatMap fun line =>
            '\n' :: List.replicate (line.indent - margin) ' '
          some (if kept.getLast? = some '\n' then kept else kept ++ ['\n'])
      | none => some (text ++ ['\n'])

/-- A block scalar: its text, whether it is folded, the comment in its header, and the
offset behind it. -/
structure Literal where
  text : List Char
  isFolded : Bool
  comment : List Char
  finish : Nat

/-- The tokens behind a block header: blanks, line breaks and comments, which have a
blank in front of them. The comment is the last of them. -/
def headerComment? (isBehindBlank : Bool) (comment : List Char) :
    List Token → Option (List Char)
  | [] => some comment
  | token :: rest =>
      match token.kind with
      | .space => headerComment? true comment rest
      | .newline => headerComment? isBehindBlank comment rest
      | .comment =>
          if isBehindBlank then headerComment? isBehindBlank (token.text.drop 1) rest else none
      | _ => none

/-- The block scalar that begins at an offset, in a collection at column `parent`. -/
def Literal.of? (isRoot : Bool) (offset parent : Nat) (header : List Token) (text : List Char) :
    Option Literal :=
  match header with
  | [] => none
  | first :: behind =>
      let isFolded := first.text.head? = some '>'
      match LiteralHeader.read? { isFolded } (first.text.drop 1),
          headerComment? false [] behind with
      | some header', some comment =>
          let headerLength := Text.unitCount (header.flatMap (·.text))
          (blockText? header' isRoot parent text).map fun value =>
            ⟨value, isFolded, comment, offset + headerLength + Text.unitCount text⟩
      | _, _ => none

end PartitionBench.Document.Yaml
