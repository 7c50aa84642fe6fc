import PartitionBench.Document.Yaml.ScalarText

/-!
Contract: collections as they are written in one piece, when one of them is a key.

Owns:
- brackets, commas and colons, with everything on one line if that is not too long and
  nothing in it demands a line of its own;
- where anchors, tags and comments are written.

Does not own: the texts of scalars (`Yaml.ScalarText`).
-/

namespace PartitionBench.Document.Yaml

structure FlowPlace where
  directives : Directives
  indent : Nat := 0
  /-- The node is a key without a mark. -/
  isKey : Bool := false
  /-- The entries of the maps that follow are written without values. -/
  isKeysOnly : Bool := false
  /-- The column at which the next scalar begins, if that is known. -/
  column : Option Nat := none

def indentStep : Nat := 2

/-- A character that the name of an anchor may not have. -/
def isBadInName (c : Char) : Bool :=
  c.toNat ≤ 0x19 || Text.isBlank c || isFlowIndicator c

/-- The name of an anchor, if it may be written. -/
def nameText? (name : List Char) : Option (List Char) :=
  if name.any isBadInName then none else some name

def commentLines (comment : List Char) : List (List Char) :=
  (Text.pieces '\n' comment).map fun line =>
    if line.isEmpty then [] else if line = [' '] then ['#'] else '#' :: line

/-- The lines of a comment with indentation, except empty ones. Of a comment of empty lines
only, one is left out. -/
def indentedComment (indent : Nat) (lines : List (List Char)) : List Char :=
  if 1 < lines.length ∧ lines.all List.isEmpty then List.replicate (lines.length - 2) '\n'
  else
    List.intercalate ['\n'] (lines.map fun line =>
      if line.all (· = ' ') then line else List.replicate indent ' ' ++ line)

/-- A comment behind a text. One of several lines begins a new line. -/
def commentBehind (text : List Char) (indent : Nat) (comment : List Char) : List Char :=
  let lines := commentLines comment
  if text.getLast? = some '\n' then indentedComment indent lines
  else if 1 < lines.length then '\n' :: indentedComment indent lines
  else (if text.getLast? = some ' ' then [] else [' ']) ++ List.intercalate ['\n'] lines

def commentLead (indent : Nat) (comment : List Char) : List (List Char) :=
  if comment.isEmpty then []
  else
    [(indentedComment indent (commentLines comment)).dropWhile Text.isBlank]

/-- The anchor and the tag of a node, if they may be written. -/
def propertiesText? (directives : Directives) (marks : Marks) : Option (List Char) :=
  let tag := (marks.tag.map directives.tagText).toList
  match marks.anchor with
  | none => some (List.intercalate [' '] tag)
  | some anchor =>
      (nameText? anchor.name).map fun name => List.intercalate [' '] (('&' :: name) :: tag)

/-- The parts of a flow collection so far. -/
structure FlowParts where
  lines : List (List Char) := []
  /-- Something in it demands a line of its own. -/
  isSplit : Bool := false
  column : Option Nat

/-- The parts with one more item, which has lines in front of it, and a comment. -/
def FlowParts.add (parts : FlowParts) (indent : Nat) (isLast isSplit : Bool)
    (before : List (List Char)) (text comment : List Char) : FlowParts :=
  let ended := if isLast then text else text ++ [',']
  { parts with
    lines := parts.lines ++ before
      ++ [if comment.isEmpty then ended else ended ++ commentBehind ended indent comment]
    isSplit := parts.isSplit || isSplit || !comment.isEmpty || !before.isEmpty
      || text.contains '\n' }

def FlowParts.text (parts : FlowParts) (indent : Nat) (opening closing : Char) : List Char :=
  let width := Text.unitCount parts.lines.flatten + 2 * parts.lines.length + 2
  if parts.lines.isEmpty then [opening, closing]
  else if parts.isSplit || lineWidth < width then
    let lines := parts.lines.flatMap fun line =>
      '\n' :: (if line.isEmpty then [] else List.replicate (indentStep + indent) ' ' ++ line)
    opening :: (lines ++ '\n' :: (List.replicate indent ' ' ++ [closing]))
  else opening :: ' ' :: (List.intercalate [' '] parts.lines ++ [' ', closing])

/-- The lines in front of a node: an empty one if there was one, and its comment. -/
def linesBefore (indent : Nat) (marks : Marks) : List (List Char) :=
  (if marks.isSpaced then [[]] else []) ++ commentLead indent marks.commentBefore

/-- A node is written behind a mark when it is a key: collections, references and blocks
are. -/
def Node.needsMark : Node → Bool
  | .scalar _ written => (match written.writing with | .block _ => true | _ => false)
  | _ => true

/-- The text of a value stands on a line of its own: it has several lines, and the first
holds more than the properties of the value. -/
def startsLine (text : List Char) : Bool :=
  let first := text.takeWhile (· ≠ '\n')
  let words := Text.pieces ' ' first
  let hasTag := first.head? = some '&' && words.length > 1 && (words.getD 1 []).head? = some '!'
  let isProperties :=
    (first.head? = some '&' || first.head? = some '!')
      && words.length ≤ (if hasTag then 2 else 1)
  text.contains '\n' && !isProperties

def gapBefore (indent : Nat) (isMarked hasKeyComment : Bool) (value : Node) (text : List Char) :
    List Char :=
  let marks := value.marks
  if hasKeyComment || marks.isSpaced || !marks.commentBefore.isEmpty then
    (if marks.isSpaced then ['\n'] else [])
      ++ (if marks.commentBefore.isEmpty then []
        else '\n' :: indentedComment indent (commentLines marks.commentBefore))
      ++ '\n' :: List.replicate indent ' '
  else if !isMarked && value.isCollection then
    if startsLine text then '\n' :: List.replicate indent ' ' else [' ']
  else if text.isEmpty || text.head? = some '\n' then []
  else [' ']

/-- The text of a collection: that of its parts, unless its tag asks for a scalar. -/
def collectionText? (directives : Directives) (tag : Option String) (inside : Option (List Char)) :
    Option (List Char) :=
  match misplacedForm? directives.isOld tag with
  | some text => some text.toList
  | none => inside

/-- The text of a node with its properties, and the column behind them. References have
none. -/
def withProperties? (place : FlowPlace) (node : Node)
    (body : FlowPlace → Option (List Char)) : Option (List Char × Option Nat) :=
  let isReference := !node.isCollection && node.content?.isNone
  match propertiesText? place.directives node.marks with
  | none => none
  | some properties =>
      if isReference || properties.isEmpty then (body place).map (·, place.column)
      else
        let column := place.column.getD 0 + Text.unitCount properties + 1
        (body { place with column := some column }).map fun text =>
          let isOnLine := !node.isCollection || text.head? = some '\x7b' || text.head? = some '['
          (properties
            ++ (if isOnLine then [' '] else '\n' :: List.replicate place.indent ' ')
            ++ text, some column)

mutual

/-- The text of a node without its properties. -/
def bodyText? (place : FlowPlace) : Node → Option (List Char)
  | .scalar marks written =>
      scalarForm? ⟨place.directives.isOld, place.isKey, place.indent, place.column⟩ marks.tag
        written
  | .reference _ target =>
      (nameText? target.name).map ('*' :: ·)
  | .map marks isSet entries =>
      let isKeysOnly := place.isKeysOnly || isSet || entries.all fun entry => entry.value.isNone
      let inner :=
        { place with indent := place.indent + indentStep, isKeysOnly }
      collectionText? place.directives marks.tag
        ((entriesText? inner place.indent { column := place.column } entries).map
          (·.text place.indent '\x7b' '\x7d'))
  | .list marks items =>
      let inner := { place with indent := place.indent + 2 * indentStep }
      collectionText? place.directives marks.tag
        ((itemsText? inner place.indent { column := place.column } items).map
          (·.text place.indent '[' ']'))
  | .pairs _ _ entries =>
      let inner := { place with indent := place.indent + 2 * indentStep }
      (entriesText? inner place.indent { column := place.column } entries).map
        (·.text place.indent '[' ']')

def itemsText? (place : FlowPlace) (outer : Nat) (parts : FlowParts) :
    List Node → Option FlowParts
  | [] => some parts
  | item :: rest =>
      match withProperties? { place with column := parts.column } item (bodyText? · item) with
      | none => none
      | some (text, column) =>
          let added :=
            parts.add place.indent rest.isEmpty false (linesBefore outer item.marks) text
              item.marks.comment
          itemsText? place outer { added with column } rest

def entriesText? (place : FlowPlace) (outer : Nat) (parts : FlowParts) :
    List Entry → Option FlowParts
  | [] => some parts
  | .mk key value :: rest =>
      let isMarked := key.needsMark
      let inner : FlowPlace :=
        { place with
          indent := place.indent + indentStep
          isKey := !isMarked && !place.isKeysOnly
          isKeysOnly := false
          column := parts.column }
      match withProperties? inner key (bodyText? · key) with
      | none => none
      | some (keyText, keyColumn) =>
          let keyComment := key.marks.comment
          let before := linesBefore outer key.marks
          match value with
          | none =>
              let text :=
                if keyText.isEmpty then ['?']
                else if isMarked then '?' :: ' ' :: keyText else keyText
              entriesText? place outer
                (parts.add place.indent rest.isEmpty false before text keyComment) rest
          | some value =>
              let isSplit := !keyComment.isEmpty || !value.marks.commentBefore.isEmpty
              let comment := value.marks.comment
              if place.isKeysOnly then
                let text :=
                  if keyText.isEmpty then ['?']
                  else if isMarked then '?' :: ' ' :: keyText else keyText
                entriesText? place outer
                  (parts.add place.indent rest.isEmpty isSplit before text comment) rest
              else
                let opened :=
                  if isMarked then
                    let commented :=
                      if keyComment.isEmpty then keyText
                      else keyText ++ commentBehind keyText inner.indent keyComment
                    '?' :: ' ' :: (commented ++ '\n' :: (List.replicate place.indent ' ' ++ [':']))
                  else
                    let ended := keyText ++ [':']
                    if keyComment.isEmpty then ended
                    else ended ++ commentBehind ended inner.indent keyComment
                let isScalar := value.content?.isSome
                let column :=
                  if !isMarked && keyComment.isEmpty && isScalar then
                    some (Text.unitCount opened + 1)
                  else keyColumn
                match withProperties? { inner with isKey := false, column } value
                  (bodyText? · value) with
                | none => none
                | some (valueText, _) =>
                    let gap :=
                      gapBefore inner.indent isMarked (!keyComment.isEmpty) value valueText
                    entriesText? place outer
                      (parts.add place.indent rest.isEmpty isSplit before
                        (opened ++ gap ++ valueText) comment)
                      rest

end

/-- The text of a key that is a collection or a reference. -/
def keyText? (directives : Directives) (key : Node) : Option (List Char) :=
  bodyText? { directives } (key.withMarks { key.marks with tag := none })

end PartitionBench.Document.Yaml
