import PartitionBench.Document.Yaml.Form
import PartitionBench.Document.Yaml.Pieces

/-!
Contract: the forms that the pieces of a YAML text make up.

Owns:
- the forms that are open, the innermost first, and the parts of the stream that are
  complete;
- what one token does: it opens a form, adds to the open one, or closes it and goes on
  with the one around it;
- the indentation and the offset of each token.

Does not own: whether forms are acceptable (`Yaml.Composition`). Text that fits nowhere
is a wrong form where a value may stand, and otherwise ends the assembly without a
result.
-/

namespace PartitionBench.Document.Yaml

inductive Frame where
  | document (form : DocumentForm)
  | documentEnd (behind : List Token)
  | value (form : Form)

namespace Frame

/-- The indentation of what is open; outside all collections it is none. -/
def indent : Frame → Nat
  | .value form => form.indent
  | _ => 0

/-- A new value takes the tokens of its own from what is around it. -/
def splitOwn : Frame → Frame × List Token
  | .document form =>
      let parts := splitLead form.lead
      (.document { form with lead := parts.1 }, parts.2)
  | .value (.map offset indent (item :: others)) =>
      match item.joint with
      | some joint =>
          let parts := splitLead joint
          (.value (.map offset indent (item.withJoint parts.1 :: others)), parts.2)
      | none =>
          let parts := splitLead item.lead
          (.value (.map offset indent (item.withLead parts.1 :: others)), parts.2)
  | .value (.list offset indent (item :: others)) =>
      let parts := splitLead item.lead
      (.value (.list offset indent (item.withLead parts.1 :: others)), parts.2)
  | frame => (frame, [])

end Frame

structure Assembly where
  /-- What is open, the innermost first. -/
  stack : List Frame := []
  /-- The parts that are complete, the latest first. -/
  parts : List Part := []
  indent : Nat := 0
  offset : Nat := 0
  isAtLineStart : Bool := true
  isOnKeyLine : Bool := false

/-- What a token came to: it was used up, or what is open now looks at it again. -/
inductive Turn where
  | taken (assembly : Assembly)
  | again (assembly : Assembly)

/-- The tokens at the end of a block collection that belong to what is around it: blanks
and comments behind its last item, unless a comment is indented like the items. -/
def splitTail (lead : List Token) (indent : Nat) : Bool :=
  !lead.isEmpty && lead.all Token.isBlank
    && (indent = 0 || lead.all (fun token => token.kind ≠ .comment || token.indent < indent))

/-- A block collection without the tokens that belong to what is around it, and those
tokens. -/
def Form.splitTail (form : Form) : Form × List Token :=
  let tailOf (indent : Nat) : List Item → List Item × List Token
    | .mk lead isExplicit key none none :: others =>
        if Yaml.splitTail lead indent then (others, lead)
        else (.mk lead isExplicit key none none :: others, [])
    | items => (items, [])
  match form with
  | .map offset indent items =>
      let parts := tailOf indent items
      (.map offset indent parts.1, parts.2)
  | .list offset indent items =>
      let parts := tailOf indent items
      (.list offset indent parts.1, parts.2)
  | form => (form, [])

/-- A form as it stands inside what is around it. A block scalar takes the indentation
from there, and a flow collection that is a whole document has none. -/
def Form.inside (frame : Frame) : Form → Form
  | .block offset _ header text => .block offset frame.indent header text
  | .flow indent opening items closing =>
      match frame with
      | .document _ => (Form.flow 0 opening items closing).settled
      | _ => (Form.flow indent opening items closing).settled
  | form => form

/-- Items with an item that holds some tokens only, if there are any. -/
def withTail (tail : List Token) (items : List Item) : List Item :=
  if tail.isEmpty then items else .opened tail :: items

namespace Assembly

def replace (assembly : Assembly) (frame : Frame) : Assembly :=
  { assembly with stack := frame :: assembly.stack.drop 1 }

def openFrame (assembly : Assembly) (form : Form) : Assembly :=
  { assembly with stack := .value form :: assembly.stack }

/-- Give a form that was closed to what is around it. -/
def attach (assembly : Assembly) (form : Form) : Option Assembly :=
  match assembly.stack with
  | [] => none
  | frame :: _ =>
      let form := form.inside frame
      match frame with
      | .document document =>
          let parts := form.splitTail
          some (assembly.replace (.document
            { document with
              value := some parts.1
              behind := if parts.2.isEmpty then document.behind else some parts.2 }))
      | .value (.map offset indent (item :: others)) =>
          if item.value.isSome then
            some { assembly.replace (.value (.map offset indent
              (.keyed [] (some form) [] :: item :: others))) with isOnKeyLine := true }
          else if item.joint.isSome then
            let parts := form.splitTail
            some (assembly.replace (.value (.map offset indent
              (withTail parts.2 (item.withValue parts.1 :: others)))))
          else
            some { assembly.replace (.value (.map offset indent
              (item.withKey (some form) [] :: others))) with isOnKeyLine := !item.isExplicit }
      | .value (.list offset indent (item :: others)) =>
          let parts := form.splitTail
          let items :=
            if item.value.isSome then (Item.opened []).withValue parts.1 :: item :: others
            else item.withValue parts.1 :: others
          some (assembly.replace (.value (.list offset indent (withTail parts.2 items))))
      | .value (.flow indent opening items closing) =>
          let items :=
            match items with
            | [] => [.keyed [] (some form) []]
            | item :: others =>
                if item.value.isSome then .keyed [] (some form) [] :: item :: others
                else if item.joint.isSome then item.withValue form :: others
                else item.withKey (some form) [] :: others
          some (assembly.replace (.value (.flow indent opening items closing)))
      | _ => none

def close (assembly : Assembly) : Option Assembly :=
  match assembly.stack with
  | [] => none
  | [.document form] =>
    some { assembly with stack := [], parts := .document form :: assembly.parts }
  | [.documentEnd behind] =>
      some { assembly with stack := [], parts := .documentEnd behind :: assembly.parts }
  | .value form :: rest => { assembly with stack := rest }.attach form
  | _ => none

/-- Give a wrong form to what is open. A scalar is closed before it, and the header of a
block scalar takes the text as a token. -/
def attachWrong (assembly : Assembly) (token : Token) : Option Assembly :=
  match assembly.stack with
  | .value (.block offset indent header text) :: _ =>
      some (assembly.replace (.value (.block offset indent (header ++ [token]) text)))
  | .value (.scalar _ _) :: _ => assembly.close.bind (·.attach (.wrong token.offset))
  | _ => assembly.attach (.wrong token.offset)

/-- Close the flow collections that are open. Each step of `fuel` closes one. -/
def closeFlows : Nat → Assembly → Option Assembly
  | 0, assembly => some assembly
  | fuel + 1, assembly =>
      match assembly.stack with
      | .value (.flow _ _ _ _) :: _ => assembly.close.bind (closeFlows fuel)
      | _ => some assembly

/-- Close what is open, for a token that what is around it has to look at. -/
def closeFor (assembly : Assembly) : Option Turn :=
  assembly.close.map .again

/-- Close everything. Each step of `fuel` closes one frame. -/
def closeAll : Nat → Assembly → Option Assembly
  | 0, assembly => if assembly.stack.isEmpty then some assembly else none
  | fuel + 1, assembly =>
      if assembly.stack.isEmpty then some assembly
      else
        match assembly.close with
        | some assembly => closeAll fuel assembly
        | none => none

/-- The form that a token opens as a value, if it opens any. A key or a colon opens a
map, whose first item takes its own tokens from what is around it. -/
def opening? (assembly : Assembly) (token : Token) : Option (Assembly × Form) :=
  if token.kind.isFlowScalar then some (assembly, .scalar token none)
  else
    match token.kind with
    | .blockHeader => some (assembly, .block token.offset token.indent [token] [])
    | .mapOpen => some (assembly, .flow token.indent token [] [])
    | .listOpen => some (assembly, .flow token.indent token [] [])
    | .item => some (assembly, .list token.offset token.indent [.opened [token]])
    | .explicitKey =>
        match assembly.stack with
        | frame :: rest =>
            let parts := frame.splitOwn
            some ({ assembly with stack := parts.1 :: rest, isOnKeyLine := true },
              .map token.offset token.indent [(Item.opened (parts.2 ++ [token])).marked])
        | [] => none
    | .mapValue =>
        match assembly.stack with
        | frame :: rest =>
            let parts := frame.splitOwn
            some ({ assembly with stack := parts.1 :: rest, isOnKeyLine := true },
              .map token.offset token.indent [.keyed parts.2 none [token]])
        | [] => none
    | _ => none

def openValue? (assembly : Assembly) (token : Token) : Option Assembly :=
  (assembly.opening? token).map fun opened => opened.1.openFrame opened.2

/-- A token behind a value that is complete on its line. `added` is the frame with the
token added. The end of the line closes the value. -/
def behindValue (assembly : Assembly) (token : Token) (added : Frame) : Option Turn :=
  match token.kind with
  | .comma | .documentStart | .documentEnd | .listClose | .mapClose | .mapValue =>
      assembly.closeFor
  | .newline => ({ assembly with isOnKeyLine := false }.replace added).close.map .taken
  | _ => some (.taken (assembly.replace added))

/-- A token where nothing is open. -/
def turnStream (assembly : Assembly) (token : Token) : Option Turn :=
  match token.kind with
  | .directive => some (.taken { assembly with parts := .directive token.text :: assembly.parts })
  | .orderMark | .space | .comment | .newline => some (.taken assembly)
  | .documentBegin =>
      some (.taken { assembly with stack := [.document { offset := assembly.offset }] })
  | .documentStart =>
      some (.taken
        { assembly with stack := [.document { offset := assembly.offset, lead := [token] }] })
  | _ => none

def turnDocument (assembly : Assembly) (token : Token) (form : DocumentForm) : Option Turn :=
  if form.value.isSome then
    assembly.behindValue token
      (.document { form with behind := some (form.behind.getD [] ++ [token]) })
  else
    let added := Frame.document { form with lead := form.lead ++ [token] }
    match token.kind with
    | .documentStart =>
        if form.lead.all Token.isBlank then some (.taken (assembly.replace added))
        else assembly.closeFor
    | .anchor | .tag | .space | .comment | .newline => some (.taken (assembly.replace added))
    | _ => (assembly.openValue? token).map .taken

/-- A colon makes the form that is open, with the tokens behind it, the first key of a
map. -/
def turnKey (assembly : Assembly) (token : Token) (form : Form) (joint : List Token) :
    Option Turn :=
  match assembly.stack with
  | _ :: frame :: rest =>
      let parts := frame.splitOwn
      let map := Form.map form.offset form.indent
        [.keyed parts.2 (some form) (joint ++ [token])]
      some (.taken { assembly with stack := .value map :: parts.1 :: rest, isOnKeyLine := true })
  | _ => none

def turnScalar (assembly : Assembly) (token written : Token) (behind : Option (List Token)) :
    Option Turn :=
  if token.kind = .mapValue then
    assembly.turnKey token (.scalar written none) (behind.getD [])
  else assembly.behindValue token (.value ((Form.scalar written behind).addBehind token))

def turnBlock (assembly : Assembly) (token : Token) (offset indent : Nat) (header : List Token) :
    Option Turn :=
  match token.kind with
  | .space | .comment | .newline =>
      some (.taken (assembly.replace (.value (.block offset indent (header ++ [token]) []))))
  | .plain =>
      ({ assembly with isAtLineStart := true, indent := 0 }.replace
        (.value (.block offset indent header token.text))).close.map .taken
  | _ => assembly.closeFor

/-- A comment that is indented more than its collection belongs behind the value in
front of it: nothing but blanks and line breaks stands between them. -/
def isIndentedComment (token : Token) (lead : List Token) (indent : Nat) : Bool :=
  token.kind = .comment && decide (indent < token.indent)
    && lead.all (fun token => token.kind = .newline || token.kind = .space)

/-- The items when a line ends behind the last of them. -/
def itemsAtBreak (token : Token) (item : Item) (others : List Item) : List Item :=
  match item.value with
  | some value =>
      if ((value.behind?.getD []).getLast?).any (fun token => token.kind = .comment) then
        item.withValue (value.addBehind token) :: others
      else .opened [token] :: item :: others
  | none =>
      if item.joint.isSome then item.addJoint token :: others
      else item.addLead token :: others

/-- The items with a blank or a comment behind the last of them. -/
def itemsAtBlank (token : Token) (indent : Nat) (item : Item) (others : List Item) :
    List Item :=
  if item.value.isSome then .opened [token] :: item :: others
  else if item.joint.isSome then item.addJoint token :: others
  else if isIndentedComment token item.lead indent then
    match others with
    | before :: rest =>
        match before.value with
        | some value =>
            if value.behind?.isSome then
              let comments := item.lead ++ [token]
              before.withValue (comments.foldl (fun form token => form.addBehind token) value)
                :: rest
            else item.addLead token :: others
        | none => item.addLead token :: others
    | [] => item.addLead token :: others
  else item.addLead token :: others

/-- The places of the line breaks behind a key that has no value, after the last token
that is more than a blank. A comment that is indented more than the map counts as more
than a blank. -/
def breaksBehind (indent : Nat) (joint : List Token) : List Nat :=
  (joint.zipIdx).foldl
    (fun breaks entry =>
      match entry.1.kind with
      | .newline => breaks ++ [entry.2]
      | .space => breaks
      | .comment => if indent < entry.1.indent then [] else breaks
      | _ => [])
    []

/-- The item without the tokens behind its key that belong to the next item, and those
tokens: from the second line break on. -/
def splitNext (indent : Nat) (item : Item) : Item × List Token :=
  match item.joint with
  | some joint =>
      match breaksBehind indent joint with
      | _ :: second :: _ => (item.withJoint (joint.take second), joint.drop second)
      | _ => (item, [])
  | none => (item, [])

/-- A token inside a block map that may belong to it: where it stands with respect to
the items. -/
structure MapPlace where
  offset : Nat
  indent : Nat
  item : Item
  others : List Item
  /-- The token stands at the column of the map, on a line without a key so far. -/
  isAtMap : Bool
  isAtNext : Bool
  next : List Token

namespace MapPlace

def withItems (place : MapPlace) (assembly : Assembly) (items : List Item) : Assembly :=
  assembly.replace (.value (.map place.offset place.indent items))

def withItem (place : MapPlace) (assembly : Assembly) (item : Item) : Assembly :=
  place.withItems assembly (item :: place.others)

def withNext (place : MapPlace) (assembly : Assembly) (item : Item) : Assembly :=
  place.withItems assembly (item :: place.item :: place.others)

def kept (place : MapPlace) (assembly : Assembly) : Assembly :=
  place.withItem assembly place.item

def property (place : MapPlace) (assembly : Assembly) (token : Token) : Assembly :=
  if place.isAtNext || place.item.value.isSome then
    { place.withNext assembly (.opened (place.next ++ [token])) with isOnKeyLine := true }
  else if place.item.joint.isSome then place.withItem assembly (place.item.addJoint token)
  else place.withItem assembly (place.item.addLead token)

def keyMark (place : MapPlace) (assembly : Assembly) (token : Token) : Assembly :=
  let assembly := { assembly with isOnKeyLine := true }
  if place.item.joint.isNone && !place.item.isExplicit then
    place.withItem assembly (place.item.addLead token).marked
  else if place.isAtNext || place.item.value.isSome then
    place.withNext assembly (Item.opened (place.next ++ [token])).marked
  else
    (place.kept assembly).openFrame
      (.map token.offset token.indent [(Item.opened [token]).marked])

/-- A map inside an item, whose first key is empty. -/
def nested (place : MapPlace) (assembly : Assembly) (token : Token) (lead : List Token) :
    Assembly :=
  (place.kept assembly).openFrame
    (.map token.offset token.indent [.keyed lead none [token]])

def valueOfMarked (place : MapPlace) (assembly : Assembly) (token : Token) : Assembly :=
  match place.item.joint with
  | none =>
      if Token.has place.item.lead .newline then
        place.withItem assembly (place.item.withKey none [token])
      else
        let parts := splitLead place.item.lead
        (place.withItem assembly (place.item.withLead parts.1)).openFrame
          (.map token.offset token.indent [.keyed parts.2 none [token]])
  | some joint =>
      if place.item.value.isSome then place.withNext assembly (.keyed [] none [token])
      else if Token.has joint .mapValue then place.nested assembly token place.next
      else if place.item.key.any Form.isFlow && !Token.has joint .newline then
        let parts := splitLead place.item.lead
        (place.withItem assembly (place.item.withLead parts.1).withoutKey).openFrame
          (.map token.offset token.indent
            [.keyed parts.2 place.item.key (joint ++ [token])])
      else
        place.withItem assembly (place.item.withJoint (joint ++ place.next ++ [token]))

/-- A colon behind a key that was not marked. -/
def valueOfUnmarked (place : MapPlace) (assembly : Assembly) (token : Token) : Assembly :=
  match place.item.joint with
  | none => place.withItem assembly (place.item.withKey none [token])
  | some joint =>
      if place.item.value.isSome || place.isAtNext then
        place.withNext assembly (.keyed place.next none [token])
      else if Token.has joint .mapValue then place.nested assembly token []
      else place.withItem assembly (place.item.addJoint token)

def valueMark (place : MapPlace) (assembly : Assembly) (token : Token) : Assembly :=
  let assembly := { assembly with isOnKeyLine := true }
  if place.item.isExplicit then place.valueOfMarked assembly token
  else place.valueOfUnmarked assembly token

/-- A scalar or a reference: the key of this or of the next item, or a value. -/
def scalar (place : MapPlace) (assembly : Assembly) (token : Token) : Assembly :=
  let form := Form.scalar token none
  if place.isAtNext || place.item.value.isSome then
    { place.withNext assembly (.keyed place.next (some form) []) with isOnKeyLine := true }
  else if place.item.joint.isSome then (place.kept assembly).openFrame form
  else
    { place.withItem assembly (place.item.withKey (some form) []) with isOnKeyLine := true }

/-- Anything else that opens a value. A list may not begin on the line of its key. -/
def other (place : MapPlace) (assembly : Assembly) (token : Token) : Option Turn :=
  match (place.kept assembly).opening? token with
  | none => (place.kept assembly).closeFor
  | some (assembly, form) =>
      match form with
      | .list _ _ _ =>
          if !place.item.isExplicit && place.item.joint.any (fun joint => !Token.has joint .newline)
          then (assembly.attachWrong token).map .taken
          else some (.taken (assembly.openFrame form))
      | _ =>
          if place.isAtMap then
            some (.taken ((place.withNext assembly (.opened place.next)).openFrame form))
          else some (.taken (assembly.openFrame form))

end MapPlace

def turnMap (assembly : Assembly) (token : Token) (offset indent : Nat) (item : Item)
    (others : List Item) : Option Turn :=
  let withItems (items : List Item) : Assembly :=
    assembly.replace (.value (.map offset indent items))
  match token.kind with
  | .newline =>
      some (.taken { withItems (itemsAtBreak token item others) with isOnKeyLine := false })
  | .space | .comment => some (.taken (withItems (itemsAtBlank token indent item others)))
  | kind =>
      if token.indent < indent then assembly.closeFor
      else
        let isAtMap := !assembly.isOnKeyLine && token.indent = indent
        let isAtNext := isAtMap && (item.joint.isSome || item.isExplicit) && kind ≠ .item
        let parts :=
          if isAtNext && item.joint.isSome && item.value.isNone then splitNext indent item
          else (item, [])
        let place : MapPlace :=
          { offset, indent, item := parts.1, others, isAtMap, isAtNext, next := parts.2 }
        match kind with
        | .anchor | .tag => some (.taken (place.property assembly token))
        | .explicitKey => some (.taken (place.keyMark assembly token))
        | .mapValue => some (.taken (place.valueMark assembly token))
        | .reference | .plain | .singleQuoted | .doubleQuoted =>
            some (.taken (place.scalar assembly token))
        | _ => place.other assembly token

def turnList (assembly : Assembly) (token : Token) (offset indent : Nat) (item : Item)
    (others : List Item) : Option Turn :=
  let withItems (items : List Item) : Assembly :=
    assembly.replace (.value (.list offset indent items))
  let otherwise : Option Turn :=
    if indent < token.indent then
      match assembly.openValue? token with
      | some assembly => some (.taken assembly)
      | none => assembly.closeFor
    else assembly.closeFor
  match token.kind with
  | .newline => some (.taken (withItems (itemsAtBreak token item others)))
  | .space | .comment => some (.taken (withItems (itemsAtBlank token indent item others)))
  | .anchor | .tag =>
      if item.value.isSome || token.indent ≤ indent then otherwise
      else some (.taken (withItems (item.addLead token :: others)))
  | .item =>
      if token.indent = indent then
        if item.value.isSome || Token.has item.lead .item then
          some (.taken (withItems (.opened [token] :: item :: others)))
        else some (.taken (withItems (item.addLead token :: others)))
      else otherwise
  | _ => otherwise

def turnFlow (assembly : Assembly) (token : Token) (indent : Nat) (opening : Token)
    (items : List Item) : Option Turn :=
  let withItems (items : List Item) : Option Turn :=
    some (.taken (assembly.replace (.value (.flow indent opening items []))))
  let form := Form.scalar token none
  match token.kind with
  | .flowBreak => (closeFlows assembly.stack.length assembly).map .taken
  | .comma | .explicitKey =>
      match items with
      | item :: others =>
          if item.joint.isSome then withItems (.opened [token] :: items)
          else withItems (item.addLead token :: others)
      | [] => withItems [.opened [token]]
  | .mapValue =>
      match items with
      | item :: others =>
          if item.value.isSome then withItems (.keyed [] none [token] :: items)
          else if item.joint.isSome then withItems (item.addJoint token :: others)
          else withItems (item.withKey none [token] :: others)
      | [] => withItems [.keyed [] none [token]]
  | .space | .comment | .newline | .anchor | .tag =>
      match items with
      | item :: others =>
          if item.value.isSome then withItems (.opened [token] :: items)
          else if item.joint.isSome then withItems (item.addJoint token :: others)
          else withItems (item.addLead token :: others)
      | [] => withItems [.opened [token]]
  | .reference | .plain | .singleQuoted | .doubleQuoted =>
      match items with
      | item :: others =>
          if item.value.isSome then withItems (.keyed [] (some form) [] :: items)
          else if item.joint.isSome then some (.taken (assembly.openFrame form))
          else withItems (item.withKey (some form) [] :: others)
      | [] => withItems [.keyed [] (some form) []]
  | .mapClose | .listClose =>
      some (.taken (assembly.replace (.value (.flow indent opening items [token]))))
  | _ =>
      match assembly.openValue? token with
      | some assembly => some (.taken assembly)
      | none => assembly.closeFor

def turnClosed (assembly : Assembly) (token : Token) (indent : Nat) (opening : Token)
    (items : List Item) (closing : List Token) : Option Turn :=
  let form := Form.flow indent opening items closing
  let isKeyOfMap : Bool :=
    match assembly.stack with
    | _ :: .value (.map _ mapIndent (item :: _)) :: _ =>
        (token.kind = .mapValue && mapIndent = indent)
          || (token.kind = .newline && item.joint.isNone)
    | _ => false
  let isInFlow : Bool :=
    match assembly.stack with
    | _ :: .value (.flow _ _ _ _) :: _ => true
    | _ => false
  if token.kind = .flowBreak then (closeFlows assembly.stack.length assembly).map .taken
  else if isKeyOfMap then assembly.closeFor
  else if token.kind = .mapValue && !isInFlow then
    match form.settled with
    | .flow indent opening items _ =>
        assembly.turnKey token (.flow indent opening items (closing.take 1)) (closing.drop 1)
    | _ => none
  else assembly.behindValue token (.value (form.addBehind token))

/-- What a token comes to. The end of a document closes everything. -/
def turn (assembly : Assembly) (token : Token) : Option Turn :=
  match assembly.stack with
  | .documentEnd behind :: _ =>
      if token.kind = .documentBegin then some (.taken assembly)
      else
        let added := assembly.replace (.documentEnd (behind ++ [token]))
        if token.kind = .newline then added.close.map .taken else some (.taken added)
  | stack =>
      if token.kind = .documentEnd then
        (closeAll stack.length assembly).map fun closed =>
          .taken { closed with stack := [.documentEnd []] }
      else
        match stack with
        | [] => assembly.turnStream token
        | .document form :: _ => assembly.turnDocument token form
        | .value (.scalar written behind) :: _ => assembly.turnScalar token written behind
        | .value (.block offset indent header _) :: _ =>
            assembly.turnBlock token offset indent header
        | .value (.map offset indent (item :: others)) :: _ =>
            assembly.turnMap token offset indent item others
        | .value (.list offset indent (item :: others)) :: _ =>
            assembly.turnList token offset indent item others
        | .value (.flow indent opening items []) :: _ =>
            assembly.turnFlow token indent opening items
        | .value (.flow indent opening items closing) :: _ =>
            assembly.turnClosed token indent opening items closing
        | _ => none

/-- Use up a token. Each step of `fuel` that does not closes a frame. -/
def feed (token : Token) : Nat → Assembly → Option Assembly
  | 0, _ => none
  | fuel + 1, assembly =>
      match assembly.turn token with
      | none => none
      | some (.taken assembly) => some assembly
      | some (.again assembly) => feed token fuel assembly

def next (assembly : Assembly) (kind : TokenKind) (text : List Char) : Option Assembly :=
  feed ⟨kind, text, assembly.offset, assembly.indent⟩ (assembly.stack.length + 2) assembly

/-- The assembly with the place behind a token that was used up. Spaces at the start of a
line, and indicators there, are part of its indentation. -/
def advance (assembly : Assembly) (kind : TokenKind) (text : List Char) : Assembly :=
  let length := Text.unitCount text
  let assembly := { assembly with offset := assembly.offset + length }
  match kind with
  | .newline => { assembly with isAtLineStart := true, indent := 0 }
  | .space =>
      if assembly.isAtLineStart && text.head? = some ' ' then
        { assembly with indent := assembly.indent + length }
      else assembly
  | .explicitKey | .mapValue | .item =>
      if assembly.isAtLineStart then { assembly with indent := assembly.indent + length }
      else assembly
  | _ => { assembly with isAtLineStart := false }

def take (assembly : Assembly) (piece : Piece) : Option Assembly :=
  match piece with
  | .documentBegin => assembly.next .documentBegin []
  | .flowBreak => assembly.next .flowBreak []
  | .content text =>
      let begun := { assembly with isAtLineStart := false }
      (begun.next .plain text).map fun assembly =>
        { assembly with offset := assembly.offset + Text.unitCount text }
  | .mark text =>
      match TokenKind.ofMark text with
      | .unknown =>
          (assembly.attachWrong ⟨.unknown, text, assembly.offset, assembly.indent⟩).map
            fun assembly => { assembly with offset := assembly.offset + Text.unitCount text }
      | kind => (assembly.next kind text).map (·.advance kind text)

end Assembly

/-- The parts of a stream, in order, if its pieces fit together. -/
def partsOf? (pieces : List Piece) : Option (List Part) :=
  match pieces.foldlM Assembly.take ({} : Assembly) with
  | none => none
  | some assembly =>
      (Assembly.closeAll assembly.stack.length assembly).map fun closed => closed.parts.reverse

end PartitionBench.Document.Yaml
