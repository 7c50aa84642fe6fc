import PartitionBench.Document.Yaml.Lead
import PartitionBench.Document.Yaml.Literal
import PartitionBench.Document.Yaml.Node

/-!
Contract: the nodes that the forms of a document make up.

Owns:
- which arrangements of keys, values, items and marks are acceptable, in block and in
  flow collections;
- that the keys of a map differ;
- the nodes of tagged collections: sets, lists of pairs, and maps that keep their order;
- to which node a comment belongs.

Does not own: the tokens in front of and behind a node (`Yaml.Lead`), and the value of a
node (`Yaml.Evaluation`).
-/

namespace PartitionBench.Document.Yaml

structure Place where
  directives : Directives
  isRoot : Bool
  isKey : Bool

/-- A node with the offset behind it. -/
structure Composed where
  node : Node
  finish : Nat

/-- What is written around a node, if its tag has a name and its anchor too. -/
def marksOf? (directives : Directives) (lead : Lead) : Option Marks :=
  let anchor := lead.anchor.map fun token => (⟨token.text.drop 1, token.offset⟩ : Anchor)
  if anchor.any (·.name.isEmpty) then none
  else
    match lead.tag with
    | none => some { anchor, isSpaced := lead.isSpaced, commentBefore := lead.comment }
    | some token =>
        (directives.tagName? token.text).map fun name =>
          { anchor, tag := some name, isSpaced := lead.isSpaced, commentBefore := lead.comment }

/-- The marks with a comment in front of the node counted as one behind it. -/
def Marks.behind (marks : Marks) : Marks :=
  { marks with commentBefore := [], comment := marks.commentBefore }

def scalarOf? (place : Place) (marks : Marks) (writing : Writing) (text : List Char) :
    Option Node :=
  (Reading.of? place.directives.isOld place.isKey marks.tag writing text).map fun reading =>
    .scalar marks ⟨text, writing, reading⟩

/-- The offset of an empty node behind tokens that end at an offset: behind the last token
that is no blank, and the spaces that follow it. -/
def emptyOffset (offset : Nat) (before : List Token) : Nat :=
  let length (tokens : List Token) : Nat := Text.unitCount (tokens.flatMap (·.text))
  let blanks := (before.reverse.takeWhile Token.isBlank).reverse
  if blanks.length = before.length then offset - length blanks
  else offset - length blanks + length (blanks.takeWhile (·.kind = .space))

def emptyNode? (place : Place) (lead : Lead) (offset : Nat) (before : List Token) :
    Option Composed :=
  match marksOf? place.directives lead with
  | none => none
  | some marks =>
      (scalarOf? place marks.behind .plain []).map fun node =>
        ⟨node, if lead.comment.isEmpty then emptyOffset offset before else lead.finish⟩

def flowScalar? (place : Place) (lead : Lead) (token : Token) (behind : List Token) :
    Option Composed :=
  match marksOf? place.directives lead, Tail.of? true token.finish behind with
  | some marks, some tail =>
      let isBehind := token.text.isEmpty && !marks.commentBefore.isEmpty
      let around := if isBehind then marks.behind else { marks with comment := tail.comment }
      let scalar (writing : Writing) (text : Option (List Char)) : Option Composed :=
        match text with
        | none => none
        | some text => (scalarOf? place around writing text).map (⟨·, tail.finish⟩)
      match token.kind with
      | .plain => scalar .plain (plainText? token.text)
      | .singleQuoted => scalar .singleQuoted (singleQuotedText? token.text)
      | .doubleQuoted => scalar .doubleQuoted (doubleQuotedText? token.text)
      | .reference =>
          let name := token.text.drop 1
          if name.isEmpty || marks.anchor.isSome || marks.tag.isSome then none
          else some ⟨.reference around ⟨name, token.offset⟩, tail.finish⟩
      | _ => none
  | _, _ => none

def blockScalar? (place : Place) (lead : Lead) (offset indent : Nat) (header : List Token)
    (text : List Char) : Option Composed :=
  match marksOf? place.directives lead, Literal.of? place.isRoot offset indent header text with
  | some marks, some literal =>
      (scalarOf? place { marks with comment := literal.comment } (.block literal.isFolded)
        literal.text).map
        (⟨·, literal.finish⟩)
  | _, _ => none

mutual

/-- A key has to be written on one line, and is not. A block form counts as several
lines. -/
def Form.spansLines : Form → Bool
  | .scalar token behind =>
      token.text.contains '\n' || Token.has (behind.getD []) .newline
  | .flow _ _ items _ => spansLinesInside items
  | _ => true

def spansLinesInside : List Item → Bool
  | [] => false
  | .mk lead _ key joint value :: rest =>
      let isInKey :=
        match key with
        | some key => key.spansLines
        | none => false
      let isInValue :=
        match value with
        | some value => value.spansLines
        | none => false
      Token.has lead .newline || Token.has (joint.getD []) .newline || isInKey || isInValue
        || spansLinesInside rest

end

/-- A document holds no more collections inside each other. -/
def nestingLimit : Nat := 1000

mutual

/-- The number of collections that a form holds inside each other. -/
def Form.depth : Form → Nat
  | .map _ _ items => depthInside items + 1
  | .list _ _ items => depthInside items + 1
  | .flow _ _ items _ => depthInside items + 1
  | _ => 0

def depthInside : List Item → Nat
  | [] => 0
  | .mk _ _ key _ value :: rest =>
      let keyDepth :=
        match key with
        | some key => key.depth
        | none => 0
      let valueDepth :=
        match value with
        | some value => value.depth
        | none => 0
      max (max keyDepth valueDepth) (depthInside rest)

end

/-- The key of an entry may stand at most so many units in front of its colon. -/
def keyLimit : Nat := 1024

/-- The entries of a map so far, the latest first. -/
structure MapState where
  offset : Nat
  entries : List Entry := []
  comment : List Char := []
  commentEnd : Option Nat := none

namespace MapState

def isNew (state : MapState) (key : Node) : Bool :=
  !state.entries.any fun entry => entry.key.isSameKey key

def add (state : MapState) (entry : Entry) (offset : Nat) : MapState :=
  { state with entries := entry :: state.entries, offset }

def addComment (state : MapState) (comment : List Char) (finish : Nat) : MapState :=
  { state with comment := joinComments state.comment comment, commentEnd := some finish }

/-- The offset behind the map, if no entry follows a comment of the map. -/
def finish? (state : MapState) : Option Nat :=
  match state.commentEnd with
  | some finish => if 0 < finish ∧ finish < state.offset then none else some finish
  | none => some state.offset

end MapState

/-- The items of a list so far, the latest first. -/
structure ListState where
  offset : Nat
  items : List Node := []
  comment : List Char := []
  commentEnd : Option Nat := none

def blockKeyLead? (indent offset : Nat) (lead : List Token) (key : Option Form)
    (joint : Option (List Token)) : Option Lead :=
  Lead.of?
    { indicator := .explicitKey, next := Follower.of key joint, offset, parentIndent := indent
      isAtLineStart := true }
    lead

/-- The key of a block map stands where it may: behind its mark at the column of the map,
or without a mark at that column and on one line. No list is a key without a mark. -/
def isBlockKeyPlaced (indent : Nat) (lead : Lead) (key : Option Form) : Bool :=
  match lead.found with
  | some found => found.indent = indent
  | none =>
      match key with
      | none => lead.breakBehind.isNone
      | some (.list _ _ _) => false
      | some (.wrong _) => false
      | some form =>
          form.indent = indent && lead.breakBehind.isNone && !form.spansLines

/-- The lead of the value of a block map. A value begins a line where its key is empty or
a block. -/
def blockValueLead? (indent finish : Nat) (key : Option Form) (joint : Option (List Token))
    (value : Option Form) : Option Lead :=
  let isAtLineStart :=
    match key with
    | none => true
    | some (.block _ _ _ _) => true
    | some _ => false
  Lead.of?
    { indicator := .mapValue, next := Follower.of value none, offset := finish
      parentIndent := indent, isAtLineStart }
    (joint.getD [])

/-- The value of a block map may follow its key: no map begins on the line of a key without
a mark, and such a key is not too far from its colon. -/
def isBlockValuePlaced (keyLead lead : Lead) (found : Token) (value : Option Form) : Bool :=
  let isCompactMap :=
    match value with
    | some (.map _ _ _) => !lead.hasBreak
    | _ => false
  keyLead.found.isSome || (!isCompactMap && found.offset ≤ keyLead.start + keyLimit)

def flowItemLead? (indent offset : Nat) (lead : List Token) (key : Option Form)
    (joint : Option (List Token)) : Option Lead :=
  Lead.of?
    { indicator := .explicitKey, next := Follower.of key joint, offset, parentIndent := indent
      isAtLineStart := false, inFlow := true }
    lead

def flowValueLead? (indent finish : Nat) (joint : Option (List Token)) (value : Option Form) :
    Option Lead :=
  Lead.of?
    { indicator := .mapValue, next := Follower.of value none, offset := finish
      parentIndent := indent, isAtLineStart := false, inFlow := true }
    (joint.getD [])

/-- A block collection, which no flow collection holds. -/
def isBlockForm : Option Form → Bool
  | some form => form.isBlockCollection
  | none => false

/-- The entries and items of a flow collection so far, the latest first. -/
structure FlowState where
  offset : Nat
  isMap : Bool
  entries : List Entry := []
  items : List Node := []
  comment : List Char := []
  count : Nat := 0

namespace FlowState

/-- The comment that stands on the line of the comma, and belongs to what is in front of
it. -/
def commaComment : List Token → List Char
  | [] => []
  | token :: rest =>
      match token.kind with
      | .comma => commaComment rest
      | .space => commaComment rest
      | .comment => token.text.drop 1
      | _ => []

def addCommentToLast (state : FlowState) (comment : List Char) : FlowState :=
  if state.isMap then
    match state.entries with
    | .mk key none :: rest => { state with entries := .mk (key.addComment comment) none :: rest }
    | .mk key (some value) :: rest =>
        { state with entries := .mk key (some (value.addComment comment)) :: rest }
    | [] => state
  else
    match state.items with
    | item :: rest => { state with items := item.addComment comment :: rest }
    | [] => state

/-- The collection behind the comma of an item, and the lead of the item without a comment
that belongs to the item in front of it. The first item has no comma, and all others
have one. -/
def atItem? (state : FlowState) (lead : Lead) (tokens : List Token) :
    Option (FlowState × Lead) :=
  if lead.comma.isSome ≠ decide (0 < state.count) then none
  else
    let comment := if lead.comma.isSome && !lead.comment.isEmpty then commaComment tokens else []
    if comment.isEmpty then some (state, lead)
    else
      some (state.addCommentToLast comment,
        { lead with comment := lead.comment.drop (comment.length + 1) })

def addItem (state : FlowState) (node : Node) (offset : Nat) : FlowState :=
  { state with items := node :: state.items, offset, count := state.count + 1 }

/-- The collection with one more entry, if it may be there. In a list it is a map of its
own. -/
def addEntry? (state : FlowState) (entry : Entry) (offset : Nat) : Option FlowState :=
  if state.isMap then
    if state.entries.any fun other => other.key.isSameKey entry.key then none
    else
      some { state with entries := entry :: state.entries, offset, count := state.count + 1 }
  else some (state.addItem (.map {} false [entry]) offset)

/-- The collection behind an item of which nothing is there, which only the last one
may be. Its comment belongs to the collection. -/
def skip? (state : FlowState) (isLast : Bool) (lead : Lead) : Option FlowState :=
  if !isLast || (state.count = 0 && lead.comma.isSome) then none
  else
    some { state with
      comment := joinComments state.comment lead.comment
      offset := lead.finish
      count := state.count + 1 }

/-- The colon of an entry stands where it may. A key without a mark in a list stands on the
line of its colon, and is not too far from it; a value has a colon in front of it. -/
def isColonPlaced (state : FlowState) (keyLead lead : Lead) (joint : Option (List Token))
    (value : Option Form) : Bool :=
  match lead.found with
  | none => value.isNone
  | some found =>
      state.isMap || keyLead.found.isSome
        || (!Token.has ((joint.getD []).takeWhile (· ≠ found)) .newline
          && found.offset ≤ keyLead.start + keyLimit)

end FlowState

def mapTag : String := coreNamespace ++ "map"

def listTag : String := coreNamespace ++ "seq"

/-- The marks of a collection. A tag that asks for nothing is the usual one. -/
def Marks.ofCollection (marks : Marks) (usual : String) (comment : List Char) : Marks :=
  { marks with tag := marks.tag.map fun tag => if tag = "!" then usual else tag, comment }

/-- A map, or a set if its tag asks for one. The entries of a set have no values. -/
def mapNode? (marks : Marks) (entries : List Entry) (comment : List Char) : Option Node :=
  let marks := marks.ofCollection mapTag comment
  if marks.tag = some (coreNamespace ++ "set") then
    if entries.all fun entry => entry.value.all Node.isBareNull then some (.map marks true entries)
    else none
  else some (.map marks false entries)

/-- An item of a list of pairs as a pair. A map is its only entry, with the comments of the
map, and another node is a key. -/
def pairOf? : Node → Option Entry
  | .map marks _ entries =>
      match entries with
      | [] => some (.mk (Node.null.putComments marks.commentBefore marks.comment) none)
      | [.mk key none] => some (.mk (key.putComments marks.commentBefore marks.comment) none)
      | [.mk key (some value)] =>
          some (.mk (key.putComments marks.commentBefore [])
            (some (value.putComments [] marks.comment)))
      | _ => none
  | item => some (.mk item none)

/-- No two keys that are scalars are the same. The undefined number is the same as
itself. -/
def haveDistinctKeys : List Entry → Bool
  | [] => true
  | entry :: rest =>
      let isUndefined (key : Node) : Bool := key.content? = some (.number .undefined false)
      !rest.any (fun other =>
          entry.key.isSameKey other.key || (isUndefined entry.key && isUndefined other.key))
        && haveDistinctKeys rest

/-- A list, or a list of pairs if its tag asks for one. -/
def listNode? (marks : Marks) (items : List Node) (comment : List Char) : Option Node :=
  let marks := marks.ofCollection listTag comment
  if marks.tag = some (coreNamespace ++ "pairs") then
    (items.mapM pairOf?).map (.pairs marks false ·)
  else if marks.tag = some (coreNamespace ++ "omap") then
    match items.mapM pairOf? with
    | some entries => if haveDistinctKeys entries then some (.pairs marks true entries) else none
    | none => none
  else some (.list marks items)

/-- The last property of a block list has a line break behind it. -/
def isListPlaced (lead : Lead) : Bool :=
  let offset (token : Option Token) : Nat := (token.map (·.offset + 1)).getD 0
  let last := max (offset lead.anchor) (offset lead.tag)
  last = 0 || last ≤ offset lead.breakBehind

def ListState.addComment (state : ListState) (lead : Lead) : ListState :=
  { state with
    comment := if lead.comment.isEmpty then state.comment else lead.comment
    commentEnd := some lead.finish }

/-- The end of a flow collection: its closing token, and what is behind it. -/
def flowEnd? (isMap : Bool) (closing : List Token) : Option Tail :=
  match closing with
  | [] => none
  | first :: behind =>
      if first.kind = (if isMap then .mapClose else .listClose) then
        Tail.of? true first.finish behind
      else none

mutual

def compose (place : Place) (lead : Lead) : Form → Option Composed
  | .wrong _ => none
  | .scalar token behind => flowScalar? place lead token (behind.getD [])
  | .block offset indent header text => blockScalar? place lead offset indent header text
  | .map offset indent items =>
      match marksOf? place.directives lead, composeEntries place.directives offset indent items with
      | some marks, some state =>
          match state.finish?, mapNode? marks state.entries.reverse state.comment with
          | some finish, some node => some ⟨node, finish⟩
          | _, _ => none
      | _, _ => none
  | .list offset indent items =>
      match marksOf? place.directives lead, composeItems place.directives offset indent items with
      | some marks, some state =>
          if isListPlaced lead then
            (listNode? marks state.items.reverse state.comment).map
              (⟨·, state.commentEnd.getD state.offset⟩)
          else none
      | _, _ => none
  | .flow indent opening items closing =>
      let isMap := decide (opening.kind = .mapOpen)
      match marksOf? place.directives lead, flowEnd? isMap closing,
        composeFlow place.directives indent opening.finish isMap true items with
      | some marks, some tail, some state =>
          let comment := joinComments state.comment tail.comment
          let node :=
            if isMap then mapNode? marks state.entries.reverse comment
            else listNode? marks state.items.reverse comment
          node.map (⟨·, tail.finish⟩)
      | _, _, _ => none

/-- The entries of a block map, of which the items are given with the latest first. -/
def composeEntries (directives : Directives) (offset indent : Nat) :
    List Item → Option MapState
  | [] => some { offset }
  | .mk tokens _ key joint value :: earlier =>
      match composeEntries directives offset indent earlier with
      | none => none
      | some state =>
          match blockKeyLead? indent state.offset tokens key joint with
          | none => none
          | some lead =>
              if lead.found.isNone && lead.anchor.isNone && lead.tag.isNone && joint.isNone then
                some (state.addComment lead.comment lead.finish)
              else if !isBlockKeyPlaced indent lead key then none
              else
                let place : Place := ⟨directives, false, true⟩
                let composed :=
                  match key with
                  | some form => compose place lead form
                  | none => emptyNode? place lead lead.finish tokens
                match composed with
                | none => none
                | some composed =>
                    if !state.isNew composed.node then none
                    else
                      match blockValueLead? indent composed.finish key joint value with
                      | none => none
                      | some valueLead =>
                          match valueLead.found with
                          | none =>
                              if lead.found.isNone then none
                              else
                                some (state.add
                                  (.mk (composed.node.addComment valueLead.comment) none)
                                  valueLead.finish)
                          | some found =>
                              if !isBlockValuePlaced lead valueLead found value then none
                              else
                                let place : Place := ⟨directives, false, false⟩
                                let result :=
                                  match value with
                                  | some form => compose place valueLead form
                                  | none =>
                                      emptyNode? place valueLead valueLead.finish (joint.getD [])
                                result.map fun result =>
                                  state.add (.mk composed.node (some result.node)) result.finish

/-- The items of a block list, of which the latest is given first. -/
def composeItems (directives : Directives) (offset indent : Nat) : List Item → Option ListState
  | [] => some { offset }
  | .mk tokens _ _ _ value :: earlier =>
      match composeItems directives offset indent earlier with
      | none => none
      | some state =>
          let leadPlace : LeadPlace :=
            { indicator := .item, next := Follower.of value none, offset := state.offset
              parentIndent := indent, isAtLineStart := true }
          match Lead.of? leadPlace tokens with
          | none => none
          | some lead =>
              if lead.found.isNone then
                if lead.anchor.isSome || lead.tag.isSome || value.isSome then none
                else some (state.addComment lead)
              else
                let place : Place := ⟨directives, false, false⟩
                let composed :=
                  match value with
                  | some form => compose place lead form
                  | none => emptyNode? place lead lead.finish tokens
                composed.map fun composed =>
                  { state with items := composed.node :: state.items, offset := composed.finish }

/-- The items of a flow collection, of which the latest is given first. -/
def composeFlow (directives : Directives) (indent offset : Nat) (isMap isLast : Bool) :
    List Item → Option FlowState
  | [] => some { offset, isMap }
  | .mk tokens _ key joint value :: earlier =>
      match composeFlow directives indent offset isMap false earlier with
      | none => none
      | some state =>
          match flowItemLead? indent state.offset tokens key joint with
          | none => none
          | some lead =>
              let isMarked := lead.found.isSome
              if !isMarked && lead.anchor.isNone && lead.tag.isNone && joint.isNone
                  && value.isNone then
                state.skip? isLast lead
              else if !isMarked && !isMap && key.any Form.spansLines then none
              else
                match state.atItem? lead tokens with
                | none => none
                | some (state, lead) =>
                    let valuePlace : Place := ⟨directives, false, false⟩
                    if !isMap && joint.isNone && !isMarked then
                      let composed :=
                        match value with
                        | some form => compose valuePlace lead form
                        | none => emptyNode? valuePlace lead lead.finish []
                      if isBlockForm value then none
                      else
                        composed.map fun composed => state.addItem composed.node composed.finish
                    else
                      let place : Place := ⟨directives, false, true⟩
                      let composed :=
                        match key with
                        | some form => compose place lead form
                        | none => emptyNode? place lead lead.finish tokens
                      match composed with
                      | none => none
                      | some composed =>
                          match flowValueLead? indent composed.finish joint value with
                          | none => none
                          | some valueLead =>
                              if isBlockForm key || isBlockForm value
                                  || !state.isColonPlaced lead valueLead joint value then none
                              else
                                match value with
                                | some form =>
                                    match compose valuePlace valueLead form with
                                    | some result =>
                                        state.addEntry? (.mk composed.node (some result.node))
                                          result.finish
                                    | none => none
                                | none =>
                                    if valueLead.found.isSome then
                                      match emptyNode? valuePlace valueLead valueLead.finish
                                        (joint.getD []) with
                                      | some result =>
                                          state.addEntry? (.mk composed.node (some result.node))
                                            result.finish
                                      | none => none
                                    else
                                      state.addEntry?
                                        (.mk (composed.node.addComment valueLead.comment) none)
                                        valueLead.finish

end

/-- The node of a document, if nothing but comments stands behind it. No block collection
begins on the line of the marker of the document, and collections nest only so deep. -/
def DocumentForm.compose? (directives : Directives) (form : DocumentForm) : Option Node :=
  let leadPlace : LeadPlace :=
    { indicator := .documentStart, next := Follower.of form.value form.behind
      offset := form.offset, parentIndent := 0, isAtLineStart := true }
  match Lead.of? leadPlace form.lead with
  | none => none
  | some lead =>
      let place : Place := ⟨directives, true, false⟩
      let composed :=
        match form.value with
        | some value => compose place lead value
        | none => emptyNode? place lead lead.finish form.lead
      match composed with
      | none => none
      | some composed =>
          let isOnMarkerLine := lead.found.isSome && isBlockForm form.value && !lead.hasBreak
          let isTooDeep := form.value.any fun value => decide (nestingLimit < value.depth)
          if isOnMarkerLine || isTooDeep
              || (Tail.of? false composed.finish (form.behind.getD [])).isNone then
            none
          else some composed.node

end PartitionBench.Document.Yaml
