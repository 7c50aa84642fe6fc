import PartitionBench.Document.Yaml.Scalar

/-!
Contract: the nodes that a YAML document consists of.

Owns:
- nodes: scalars, references to anchored nodes, maps, sets, lists, and lists of pairs;
- what is written around a node: its anchor, its tag, its comments and the empty line in
  front of it;
- the anchored nodes of a document, in order.

Does not own: how nodes come about (`Yaml.Composition`), what they are worth
(`Yaml.Evaluation`), and how they are written (`Yaml.FlowText`).
-/

namespace PartitionBench.Document.Yaml

/-- The name of an anchored node, where it is given to the node or refers to it. Places
tell anchors of one name apart. -/
structure Anchor where
  name : List Char
  offset : Nat
  deriving DecidableEq, Repr

/-- What is written around a node. -/
structure Marks where
  anchor : Option Anchor := none
  tag : Option String := none
  isSpaced : Bool := false
  commentBefore : List Char := []
  comment : List Char := []
  deriving Repr

mutual

inductive Node where
  | scalar (marks : Marks) (scalar : Scalar)
  | reference (marks : Marks) (target : Anchor)
  | map (marks : Marks) (isSet : Bool) (entries : List Entry)
  | list (marks : Marks) (items : List Node)
  | pairs (marks : Marks) (isMap : Bool) (entries : List Entry)

/-- A key, with or without a value. -/
inductive Entry where
  | mk (key : Node) (value : Option Node)

end

namespace Entry

def key : Entry → Node
  | .mk key _ => key

def value : Entry → Option Node
  | .mk _ value => value

end Entry

def joinComments (first second : List Char) : List Char :=
  if first.isEmpty then second
  else if second.isEmpty then first
  else first ++ '\n' :: second

namespace Node

def null : Node := .scalar {} ⟨"null".toList, .plain, ⟨.null, .usual, 0⟩⟩

def marks : Node → Marks
  | .scalar marks _ => marks
  | .reference marks _ => marks
  | .map marks _ _ => marks
  | .list marks _ => marks
  | .pairs marks _ _ => marks

def withMarks (marks : Marks) : Node → Node
  | .scalar _ content => .scalar marks content
  | .reference _ target => .reference marks target
  | .map _ isSet entries => .map marks isSet entries
  | .list _ items => .list marks items
  | .pairs _ isMap entries => .pairs marks isMap entries

def addComment (comment : List Char) (node : Node) : Node :=
  node.withMarks { node.marks with comment := joinComments node.marks.comment comment }

def putComments (before behind : List Char) (node : Node) : Node :=
  node.withMarks
    { node.marks with
      commentBefore := joinComments before node.marks.commentBefore
      comment := joinComments behind node.marks.comment }

def content? : Node → Option Content
  | .scalar _ written => some written.reading.content
  | _ => none

def isSameKey (first second : Node) : Bool :=
  match first.content?, second.content? with
  | some first, some second => first.isSameKey second
  | _, _ => false

/-- A null scalar without tag and comments. -/
def isBareNull (node : Node) : Bool :=
  node.content? = some .null && node.marks.tag.isNone && node.marks.commentBefore.isEmpty
    && node.marks.comment.isEmpty

/-- A map, a set or a list. -/
def isCollection : Node → Bool
  | .scalar _ _ => false
  | .reference _ _ => false
  | _ => true

end Node

mutual

def Node.anchored : Node → List (Anchor × Node)
  | .scalar marks written => (marks.anchor.map (·, Node.scalar marks written)).toList
  | .reference _ _ => []
  | .map marks isSet entries =>
      (marks.anchor.map (·, Node.map marks isSet entries)).toList ++ anchoredInEntries entries
  | .list marks items =>
      (marks.anchor.map (·, Node.list marks items)).toList ++ anchoredInItems items
  | .pairs marks isMap entries =>
      (marks.anchor.map (·, Node.pairs marks isMap entries)).toList ++ anchoredInEntries entries

def anchoredInItems : List Node → List (Anchor × Node)
  | [] => []
  | item :: rest => item.anchored ++ anchoredInItems rest

def anchoredInEntries : List Entry → List (Anchor × Node)
  | [] => []
  | .mk key none :: rest => key.anchored ++ anchoredInEntries rest
  | .mk key (some value) :: rest => key.anchored ++ value.anchored ++ anchoredInEntries rest

end

/-- The node to which a name refers: the last one in front of the reference that has the
name. -/
def target? (anchored : List (Anchor × Node)) (reference : Anchor) : Option (Anchor × Node) :=
  (anchored.filter fun entry =>
    entry.1.name = reference.name && entry.1.offset < reference.offset).getLast?

end PartitionBench.Document.Yaml
