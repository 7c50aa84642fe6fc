import PartitionBench.Text.Units

/-!
Contract: texts as they are shown inside a message.

Owns: the marks around a shown text, the escapes in it, the splitting of a long text
at its line feeds, and the length at which the whole is cut.

Does not own: the messages.
-/

namespace PartitionBench.Text

/-- The grave accent, which serves as a quotation mark when both others stand in the
text. -/
def grave : Char := Char.ofNat 0x60

/-- A dollar sign stands before an opening brace somewhere in the text. -/
def hasDollarBrace : List Char → Bool
  | '$' :: '\x7b' :: _ => true
  | _ :: rest => hasDollarBrace rest
  | [] => false

/-- The mark around a shown text: the first of the three that the text does not
hold. A grave accent is not used around a text with a dollar sign and a brace, and
when no mark is free it is the first. -/
def shownMark (chars : List Char) : Char :=
  if !chars.contains '\'' then '\''
  else if !chars.contains '"' then '"'
  else if !chars.contains grave && !hasDollarBrace chars then grave
  else '\''

def hexByte (code : Nat) : List Char :=
  let digit (value : Nat) : Char :=
    if value < 10 then Char.ofNat (0x30 + value) else Char.ofNat (0x41 + value - 10)
  [digit (code / 16), digit (code % 16)]

def shownChar (mark c : Char) : List Char :=
  if c = '\\' then ['\\', '\\']
  else if c = '\'' ∧ mark = '\'' then ['\\', c]
  else if c = '\n' then ['\\', 'n']
  else if c = '\t' then ['\\', 't']
  else if c = '\r' then ['\\', 'r']
  else if c.toNat = 0x08 then ['\\', 'b']
  else if c.toNat = 0x0C then ['\\', 'f']
  else if c.toNat < 0x20 ∨ (0x7F ≤ c.toNat ∧ c.toNat ≤ 0x9F) then '\\' :: 'x' :: hexByte c.toNat
  else [c]

def shownPiece (chars : List Char) : List Char :=
  let mark := shownMark chars
  mark :: (chars.flatMap (shownChar mark) ++ [mark])

/-- The lines of a text, each with the line feed that ends it. -/
def linesWithEnds : List Char → List (List Char)
  | [] => []
  | c :: rest =>
      if c = '\n' then [c] :: linesWithEnds rest
      else
        match linesWithEnds rest with
        | [] => [[c]]
        | line :: others => (c :: line) :: others

/-- The longest text, in units, that is shown in one piece. -/
def maxShownPiece : Nat := 76

/-- A text as it is shown: in one piece, or line by line when it is long. -/
def shown (chars : List Char) : List Char :=
  if unitCount chars ≤ maxShownPiece then shownPiece chars
  else List.intercalate " +\n  ".toList ((linesWithEnds chars).map shownPiece)

/-- The units of a shown text that are kept in a message. -/
def maxShown : Nat := 128

/-- The characters within a number of units. A pair of units is not divided; it is
left out and a replacement character stands for its first half. -/
def takeUnits : Nat → List Char → List Char
  | _, [] => []
  | count, c :: rest =>
      if count = 0 then []
      else if units c ≤ count then c :: takeUnits (count - units c) rest
      else [Char.ofNat 0xFFFD]

/-- A text as it is shown in a message, cut when it is too long. -/
def shownInMessage (text : String) : String :=
  let whole := shown text.toList
  String.ofList
    (if unitCount whole ≤ maxShown then whole else takeUnits maxShown whole ++ ['.', '.', '.'])

end PartitionBench.Text
