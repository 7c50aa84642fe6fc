import PartitionBench.Document.Yaml.Pieces
import PartitionBench.Text.Encoding
import PartitionBench.Text.Split
import PartitionBench.Text.Units

/-!
Contract: the texts of plain and quoted YAML scalars.

Owns:
- folding: a single line break is a space, and of several all but the first remain;
- the escapes of double quotes and the doubled mark of single quotes;
- the characters that no plain scalar begins with.

Does not own: what the text stands for (`Yaml.Rule`).
-/

namespace PartitionBench.Document.Yaml

/-- A line without the blanks at its end. -/
def trimEnd (line : List Char) : List Char :=
  (line.reverse.dropWhile isBlank).reverse

/-- A line without the blanks at its start. -/
def trimStart (line : List Char) : List Char :=
  line.dropWhile isBlank

/-- The lines of a scalar behind the first. Empty lines are line breaks, of which the
first is a space. The last line keeps the blanks at its end. -/
def foldRest (separator : Char) : List (List Char) → List Char
  | [] => []
  | [line] => separator :: trimStart line
  | line :: rest =>
      let text := trimStart (trimEnd (withoutReturn line))
      if text = [] then
        if separator = '\n' then '\n' :: foldRest '\n' rest else foldRest '\n' rest
      else separator :: (text ++ foldRest ' ' rest)

def fold (source : List Char) : List Char :=
  match Text.pieces '\n' source with
  | [] => []
  | [line] => line
  | line :: rest => trimEnd (withoutReturn line) ++ foldRest ' ' rest

/-- A character that no plain scalar begins with. -/
def isBadStart (c : Char) : Bool :=
  c = '\t' || c = ',' || c = '%' || c = '|' || c = '>' || c = '@' || c = Char.ofNat 0x60

def plainText? (source : List Char) : Option (List Char) :=
  if source.head?.any isBadStart then none else some (fold source)

/-- Doubled single quote marks, read as one. -/
def undouble : List Char → List Char
  | '\'' :: '\'' :: rest => '\'' :: undouble rest
  | c :: rest => c :: undouble rest
  | [] => []

/-- The text of a scalar in single quotes. The scalar ends with its mark. -/
def singleQuotedText? (source : List Char) : Option (List Char) :=
  if source.length = 1 ∨ source.getLast? ≠ some '\'' then none
  else some (undouble (fold (source.drop 1).dropLast))

def escape? (c : Char) : Option Char :=
  match c with
  | '0' => some (Char.ofNat 0)
  | 'a' => some (Char.ofNat 0x07)
  | 'b' => some (Char.ofNat 0x08)
  | 'e' => some (Char.ofNat 0x1B)
  | 'f' => some (Char.ofNat 0x0C)
  | 'n' => some '\n'
  | 'r' => some '\r'
  | 't' => some '\t'
  | 'v' => some (Char.ofNat 0x0B)
  | 'N' => some (Char.ofNat 0x85)
  | '_' => some (Char.ofNat 0xA0)
  | 'L' => some (Char.ofNat 0x2028)
  | 'P' => some (Char.ofNat 0x2029)
  | ' ' => some ' '
  | '"' => some '"'
  | '/' => some '/'
  | '\\' => some '\\'
  | '\t' => some '\t'
  | _ => none

def codeLength? (c : Char) : Option Nat :=
  if c = 'x' then some 2 else if c = 'u' then some 4 else if c = 'U' then some 8 else none

/-- The sixteen-bit units of the code that `length` hexadecimal digits denote. Half a pair
may be written alone. -/
def codeUnits? (length : Nat) (chars : List Char) : Option (List Nat) :=
  let digits := chars.take length
  let code := Text.valueFrom 16 0 digits
  if digits.length ≠ length ∨ !digits.all (fun c => (Text.hexValue? c).isSome) ∨ 0x10FFFF < code
  then none
  else if code < 0x10000 then some [code]
  else some (Text.unitsOf (Char.ofNat code))

/-- The length of the blanks and line breaks at a place where a line is folded. -/
def breakRunLength : List Char → Nat
  | '\r' :: '\n' :: rest => breakRunLength rest + 2
  | c :: rest => if isBlank c || c = '\n' then breakRunLength rest + 1 else 0
  | [] => 0

/-- What stands for a folded run of line breaks behind the first. -/
def foldedBreak (run : List Char) : List Nat :=
  let count := run.count '\n'
  if count = 0 then [0x20] else List.replicate count 0x0A

/-- The units of the inside of double quotes, the last character being the closing mark.
Each step of `fuel` reads at least one character. An unknown escape is an error. -/
def unescape? : Nat → List Char → Option (List Nat)
  | 0, _ => none
  | _ + 1, [] => some []
  | _ + 1, [_] => some []
  | fuel + 1, '\r' :: '\n' :: rest => unescape? fuel ('\n' :: rest)
  | fuel + 1, '\n' :: rest =>
      let length := breakRunLength rest
      (unescape? fuel (rest.drop length)).map (foldedBreak (rest.take length) ++ ·)
  | fuel + 1, '\\' :: '\n' :: rest => unescape? fuel (trimStart rest)
  | fuel + 1, '\\' :: '\r' :: '\n' :: rest => unescape? fuel (trimStart rest)
  | fuel + 1, '\\' :: c :: rest =>
      match escape? c, codeLength? c with
      | some escaped, _ => (unescape? fuel rest).map (Text.unitsOf escaped ++ ·)
      | none, some length =>
          match codeUnits? length rest with
          | some units => (unescape? fuel (rest.drop length)).map (units ++ ·)
          | none => none
      | none, none => none
  | fuel + 1, c :: rest =>
      if isBlank c then
        let run := (c :: rest).takeWhile isBlank
        let behind := (c :: rest).dropWhile isBlank
        let kept := if !behind.isEmpty && isAtBreak behind then [] else run
        (unescape? fuel behind).map (Text.unitsOfAll kept ++ ·)
      else (unescape? fuel rest).map (Text.unitsOf c ++ ·)

/-- The text of a scalar in double quotes. The scalar ends with its mark. -/
def doubleQuotedText? (source : List Char) : Option (List Char) :=
  if source.length = 1 ∨ source.getLast? ≠ some '"' then none
  else (unescape? (source.length + 1) (source.drop 1)).map Text.ofUnits

end PartitionBench.Document.Yaml
