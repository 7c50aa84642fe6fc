import PartitionBench.Table
import PartitionBench.Text.Blank

/-!
Contract: environment variables from a file of assignments.

Owns:
- the assignments in a text: an optional `export`, a name, an equals sign or a
  colon, a value in quotes or up to a comment, and a comment, all on one line
  unless the quotes span several;
- the value that an assignment gives;
- the environment with the variables that are assigned.

Does not own: what the variables mean (`Settings`).

An assignment may be read in more than one way. A way is known by what it leaves of the
text; the ways are lists in order of preference, and the first that reaches the end of a
line counts.
-/

namespace PartitionBench.CommandLine.EnvironmentFile

def endsLine (c : Char) : Bool :=
  c = '\n' || c = '\r' || c.toNat = 0x2028 || c.toNat = 0x2029

def isLineEnd : List Char → Bool
  | [] => true
  | c :: _ => endsLine c

def isNameCharacter (c : Char) : Bool :=
  c.isAlphanum || c = '_' || c = '.' || c = '-'

/-- What the ways to read characters for which a test holds leave of a text, the longest
way first and the `shorter` ones last. -/
def longestFirstOr (test : Char → Bool) (shorter : List (List Char)) :
    List Char → List (List Char)
  | [] => [] :: shorter
  | c :: rest =>
      if test c then longestFirstOr test ((c :: rest) :: shorter) rest
      else (c :: rest) :: shorter

/-- What the ways to read characters for which a test holds leave of a text, the longest
way first. -/
def longestFirst (test : Char → Bool) : List Char → List (List Char) :=
  longestFirstOr test []

/-- What the ways to read at least one such character leave of a text, the longest way
first. -/
def someLongestFirst (test : Char → Bool) : List Char → List (List Char)
  | [] => []
  | c :: rest => if test c then longestFirst test rest else []

/-- What may be left behind blanks, the longest run of blanks first. -/
def behindBlanks : List Char → List (List Char) :=
  longestFirst Text.isBlank

/-- What stands in a text before the rest that a way to read it leaves. -/
def readBefore (rest text : List Char) : List Char :=
  text.take (text.length - rest.length)

/-- What may be left behind an `export` and the blanks that follow it, or without
one. -/
def behindExport (text : List Char) : List (List Char) :=
  let word := "export".toList
  (if text.take word.length = word then
    someLongestFirst Text.isBlank (text.drop word.length) else []) ++ [text]

/-- What may be left behind the sign between name and value: blanks and an equals
sign, or a colon and blanks; the blanks behind either are as few as can be. -/
def behindSign (text : List Char) : List (List Char) :=
  let afterEquals := (behindBlanks text).flatMap fun rest =>
    match rest with
    | '=' :: rest => (behindBlanks rest).reverse
    | _ => []
  let afterColon :=
    match text with
    | ':' :: rest => (someLongestFirst Text.isBlank rest).reverse
    | _ => []
  afterEquals ++ afterColon

/-- What may be left behind the mark that closes the quotes a text begins in, the ways
that count less last. A mark behind a backslash closes nothing if the quotes can be
closed further on. -/
def behindQuotesOr (mark : Char) (lesser : List (List Char)) : List Char → List (List Char)
  | [] => lesser
  | '\\' :: c :: rest =>
      if c = mark then behindQuotesOr mark (rest :: lesser) rest
      else behindQuotesOr mark lesser (c :: rest)
  | c :: rest => if c = mark then rest :: lesser else behindQuotesOr mark lesser rest

/-- What may be left behind a value in the given quotes, with blanks before it. -/
def behindQuoted (mark : Char) (text : List Char) : List (List Char) :=
  (behindBlanks text).flatMap fun rest =>
    match rest with
    | c :: rest => if c = mark then behindQuotesOr mark [] rest else []
    | [] => []

/-- The marks that values are quoted with. The grave accent is one of them. -/
def quoteMarks : List Char :=
  ['\'', '"', Char.ofNat 0x60]

/-- What may be left behind a value: in quotes, or up to a comment or the end of the
line, or none at all. -/
def behindValue (text : List Char) : List (List Char) :=
  quoteMarks.flatMap (behindQuoted · text)
    ++ someLongestFirst (fun c => c != '#' && c != '\n' && c != '\r') text
    ++ [text]

/-- What is left when a line is closed by blanks and a comment, if it can be. -/
def closings (text : List Char) : List (List Char) :=
  (behindBlanks text).flatMap fun rest =>
    let comments :=
      match rest with
      | '#' :: behind => longestFirst (fun c => !endsLine c) behind
      | _ => []
    (comments ++ [rest]).filter isLineEnd

/-- The name and the value as they are written in the assignment at the start of a
line, and what is left. -/
def assignment? (line : List Char) : Option (List Char × List Char × List Char) :=
  (behindBlanks line).findSome? fun text =>
    (behindExport text).findSome? fun text =>
      (someLongestFirst isNameCharacter text).findSome? fun behindName =>
        (behindSign behindName).findSome? fun value =>
          (behindValue value).findSome? fun behind =>
            (closings behind).head?.map fun rest =>
              (readBefore behindName text, readBefore behind value, rest)

/-- A text with the two characters of an escape replaced by the one they stand
for. -/
def replaceEscape (letter replacement : Char) : List Char → List Char
  | '\\' :: c :: rest =>
      if c = letter then replacement :: replaceEscape letter replacement rest
      else '\\' :: replaceEscape letter replacement (c :: rest)
  | c :: rest => c :: replaceEscape letter replacement rest
  | [] => []

/-- What stands before and behind the last mark that ends a line. -/
def splitAtClosing? (mark : Char) : List Char → Option (List Char × List Char)
  | [] => none
  | c :: rest =>
      match splitAtClosing? mark rest with
      | some (inside, behind) => some (c :: inside, behind)
      | none => if c = mark ∧ isLineEnd rest then some ([], rest) else none

/-- A text without the quotation marks around lines: of a mark at the start of a line
and the last such mark at the end of a line both are dropped, and again behind them.
Each step of `fuel` passes at least one character. -/
def unquoted (atStart : Bool) : Nat → List Char → List Char
  | 0, _ => []
  | _ + 1, [] => []
  | fuel + 1, c :: rest =>
      let closing := if atStart && quoteMarks.contains c then splitAtClosing? c rest else none
      match closing with
      | some (inside, behind) => inside ++ unquoted false fuel behind
      | none => c :: unquoted (endsLine c) fuel rest

/-- The value of an assignment: without blanks around it and without its quotes.
Line breaks may be written as escapes in double quotes. -/
def valueOf (written : List Char) : String :=
  let trimmed := Text.trimChars written
  let inside := unquoted true (trimmed.length + 1) trimmed
  String.ofList
    (if trimmed.head? = some '"' then
      replaceEscape 'r' '\r' (replaceEscape 'n' '\n' inside)
    else inside)

/-- The assignments in a text, where `atStart` says whether a line begins here. Each
step of `fuel` passes at least one character. -/
def assignments (atStart : Bool) : Nat → List Char → List (String × String)
  | 0, _ => []
  | _ + 1, [] => []
  | fuel + 1, c :: rest =>
      match (if atStart then assignment? (c :: rest) else none) with
      | some (name, value, left) =>
          (String.ofList name, valueOf value) :: assignments false fuel left
      | none => assignments (endsLine c) fuel rest

/-- A text with line feeds at all its line ends. -/
def unifyBreaks : List Char → List Char
  | '\r' :: '\n' :: rest => '\n' :: unifyBreaks rest
  | c :: rest => (if c = '\r' then '\n' else c) :: unifyBreaks rest
  | [] => []

/-- A name that no table takes as a key of its own. -/
def baseName : String := "__proto__"

/-- The variables that a text assigns; a later assignment replaces an earlier
one. -/
def assigned (text : String) : List (String × String) :=
  let chars := unifyBreaks text.toList
  Table.ofEntries
    ((assignments true (chars.length + 1) chars).filter fun entry => entry.1 ≠ baseName)

/-- The value that a variable takes: it ends at a null character. -/
def stored (value : String) : String :=
  String.ofList (value.toList.takeWhile (· ≠ Char.ofNat 0))

/-- An environment with further variables. Those that are set already stay as they are,
unless they are overridden. -/
def extend (overrides : Bool) (environment entries : List (String × String)) :
    List (String × String) :=
  entries.foldl
    (fun environment entry =>
      if overrides || (Table.find? environment entry.1).isNone then
        Table.put environment entry.1 (stored entry.2)
      else environment)
    environment

end PartitionBench.CommandLine.EnvironmentFile
