import PartitionBench.Text.Units

/-!
Contract: the tokens of a YAML text.

Owns:
- the kinds of tokens, and which kind a piece of text is of;
- where a token stands: its offset in sixteen-bit units, and the indentation of its
  line so far.

Does not own: cutting a text into pieces (`Yaml.Pieces`), and what tokens make up
together (`Yaml.Form`).
-/

namespace PartitionBench.Document.Yaml

inductive TokenKind where
  | orderMark
  | directive
  /-- A document begins without a marker. -/
  | documentBegin
  /-- The marker `---`. -/
  | documentStart
  /-- The marker `...`. -/
  | documentEnd
  | space
  | newline
  | comment
  /-- The `-` of an item. -/
  | item
  /-- The `?` of a key. -/
  | explicitKey
  /-- The `:` of a value. -/
  | mapValue
  | mapOpen
  | mapClose
  | listOpen
  | listClose
  | comma
  /-- A flow collection is broken off by a line that cannot belong to it. -/
  | flowBreak
  | anchor
  | tag
  | reference
  | plain
  | singleQuoted
  | doubleQuoted
  | blockHeader
  /-- Text that is no token. -/
  | unknown
  deriving DecidableEq, Repr

inductive Piece where
  | documentBegin
  | flowBreak
  /-- The text of a plain scalar, or of a block scalar. -/
  | content (text : List Char)
  | mark (text : List Char)
  deriving DecidableEq, Repr

def byteOrderMark : Char := Char.ofNat 0xFEFF

/-- The kind of a piece that is no content. Pieces of one character, the document
markers and the line ends are known as a whole, others by their first character. -/
def TokenKind.ofMark (text : List Char) : TokenKind :=
  match text with
  | ['-', '-', '-'] => .documentStart
  | ['.', '.', '.'] => .documentEnd
  | ['\n'] => .newline
  | ['\r', '\n'] => .newline
  | ['-'] => .item
  | ['?'] => .explicitKey
  | [':'] => .mapValue
  | ['\x7b'] => .mapOpen
  | ['\x7d'] => .mapClose
  | ['['] => .listOpen
  | [']'] => .listClose
  | [','] => .comma
  | ' ' :: _ => .space
  | '\t' :: _ => .space
  | '#' :: _ => .comment
  | '%' :: _ => .directive
  | '*' :: _ => .reference
  | '&' :: _ => .anchor
  | '!' :: _ => .tag
  | '\'' :: _ => .singleQuoted
  | '"' :: _ => .doubleQuoted
  | '|' :: _ => .blockHeader
  | '>' :: _ => .blockHeader
  | [c] => if c = byteOrderMark then .orderMark else .unknown
  | _ => .unknown

/-- A token: its kind, its text, and where it stands. -/
structure Token where
  kind : TokenKind
  text : List Char
  offset : Nat
  indent : Nat
  deriving DecidableEq, Repr

namespace Token

def finish (token : Token) : Nat :=
  token.offset + Text.unitCount token.text

/-- A token that only separates others. -/
def isBlank (token : Token) : Bool :=
  token.kind = .space || token.kind = .newline || token.kind = .comment

def has (tokens : List Token) (kind : TokenKind) : Bool :=
  tokens.any (·.kind = kind)

end Token

def TokenKind.isFlowScalar (kind : TokenKind) : Bool :=
  kind = .reference || kind = .plain || kind = .singleQuoted || kind = .doubleQuoted

end PartitionBench.Document.Yaml
