import PartitionBench.Document.Value
import PartitionBench.Document.Yaml.FlowText

/-!
Contract: the values of YAML nodes.

Owns:
- the names of fields: the plain texts of scalars, and the written form of other keys;
- merged fields, of which the own ones of a map come first;
- references to anchored nodes, and how often they may be followed.

Does not own: how nodes are arranged (`Yaml.Composition`).
-/

namespace PartitionBench.Document.Yaml

open PartitionBench.Numeric

/-- What is known of an anchored node: how often it was used, how heavy it is, and its
value, unless the node is still being evaluated. -/
structure Known where
  offset : Nat
  count : Nat := 1
  weight : Nat := 0
  value : Option Value := none

/-- The anchored nodes that were met so far, the latest first. -/
abbrev Ledger := List Known

namespace Ledger

def known? (ledger : Ledger) (offset : Nat) : Option Known :=
  ledger.find? (·.offset = offset)

/-- The ledger with something else known of a node. -/
def put (ledger : Ledger) (known : Known) : Ledger :=
  known :: ledger.filter (·.offset ≠ known.offset)

def setValue (ledger : Ledger) (offset : Nat) (value : Value) : Ledger :=
  ledger.map fun known =>
    if known.offset = offset then { known with value := some value } else known

end Ledger

/-- A computation that follows references, and may fail. -/
abbrev Following := StateT Ledger Option

/-- A reference that is followed so often is an attack on the reader. -/
def usageLimit : Nat := 100

mutual

/-- How heavy a node is: a reference weighs as much as its target was used, and a collection
as much as the heaviest thing in it. -/
def weightOf (anchored : List (Anchor × Node)) (ledger : Ledger) : Node → Nat
  | .scalar _ _ => 1
  | .reference _ target =>
      match (target? anchored target).bind fun entry => ledger.known? entry.1.offset with
      | some known => known.count * known.weight
      | none => 0
  | .map _ _ entries => entriesWeight anchored ledger entries
  | .list _ items => itemsWeight anchored ledger items
  | .pairs _ _ entries => entriesWeight anchored ledger entries

def itemsWeight (anchored : List (Anchor × Node)) (ledger : Ledger) : List Node → Nat
  | [] => 0
  | item :: rest => max (weightOf anchored ledger item) (itemsWeight anchored ledger rest)

def entriesWeight (anchored : List (Anchor × Node)) (ledger : Ledger) : List Entry → Nat
  | [] => 0
  | .mk key none :: rest =>
      max (max (weightOf anchored ledger key) 1) (entriesWeight anchored ledger rest)
  | .mk key (some value) :: rest =>
      max (max (weightOf anchored ledger key) (weightOf anchored ledger value))
        (entriesWeight anchored ledger rest)

end

/-- The names under which every sequence of bytes answers, behind its bytes. -/
def byteFields : List (String × Value) :=
  let reading := ["readBigUInt64LE", "readBigUInt64BE", "readBigUint64LE", "readBigUint64BE",
    "readBigInt64LE", "readBigInt64BE"]
  let writing := ["writeBigUInt64LE", "writeBigUInt64BE", "writeBigUint64LE", "writeBigUint64BE",
    "writeBigInt64LE", "writeBigInt64BE"]
  let integers := ["UIntLE", "UInt32LE", "UInt16LE", "UInt8", "UIntBE", "UInt32BE", "UInt16BE",
    "UintLE", "Uint32LE", "Uint16LE", "Uint8", "UintBE", "Uint32BE", "Uint16BE", "IntLE",
    "Int32LE", "Int16LE", "Int8", "IntBE", "Int32BE", "Int16BE"]
  let fractions := ["FloatLE", "FloatBE", "DoubleLE", "DoubleBE"]
  let views := ["asciiSlice", "base64Slice", "base64urlSlice", "latin1Slice", "hexSlice",
    "ucs2Slice", "utf8Slice", "asciiWrite", "base64Write", "base64urlWrite", "latin1Write",
    "hexWrite", "ucs2Write", "utf8Write"]
  let others := ["copy", "toString", "equals", "inspect", "compare", "indexOf", "lastIndexOf",
    "includes", "fill", "write", "toJSON", "subarray", "slice", "swap16", "swap32", "swap64",
    "toLocaleString"]
  let function (name : String) : String × Value := (name, .foreign "function" (some name))
  (reading ++ writing ++ integers.map ("read" ++ ·) ++ integers.map ("write" ++ ·)
      ++ fractions.map ("read" ++ ·) ++ fractions.map ("write" ++ ·) ++ views).map function
    ++ [("parent", .record []), ("offset", .ofInt 0)] ++ others.map function

/-- The value of bytes: a record of their numbers. -/
def bytesValue (bytes : List UInt8) : Value :=
  .record ((bytes.mapIdx fun index byte => (toString index, Value.ofInt byte.toNat)) ++ byteFields)

def Content.value : Content → Value
  | .null => .null
  | .truth value => .truth value
  | .number value _ => .number value
  | .text value => .text (String.ofList value)
  | .instant value => .foreign "date" (some (String.ofList value.longText))
  | .bytes value => bytesValue value
  | .merge => .foreign "symbol" none

/-- The text of a content in the place of the name of a field. -/
def Content.keyText : Content → String
  | .null => ""
  | .bytes value => Text.decodeUtf8 value
  | .merge => "Symbol(<<)"
  | content => content.value.plainText

/-- The name of the field that a key with a value stands for. A reference to a value that
has parts is written as a reference. -/
def fieldName? (directives : Directives) (key : Node) (value : Value) : Option String :=
  match key.content? with
  | some content => some content.keyText
  | none =>
      match key, value with
      | .reference _ _, .null => some ""
      | .reference _ _, .truth _ => some value.plainText
      | .reference _ _, .number _ => some value.plainText
      | .reference _ _, .text text => some text
      | .reference _ _, .foreign "symbol" _ => some "Symbol(<<)"
      | _, _ => (keyText? directives key).map String.ofList

/-- A key that stands for merged fields: one with the tag for it, or in the older version
a plain one of its text. -/
def isMergeKey (isOld : Bool) (key : Node) : Bool :=
  match key with
  | .scalar _ written =>
      written.reading.content = .merge
        || (isOld && written.writing = .plain && written.reading.content = .text ['<', '<'])
  | _ => false

/-- A key of a map as it is, before it becomes the name of a field: its value, and its
plain text, if it has one. -/
structure RawKey where
  value : Value
  text : Option String

/-- Two keys are the same. Values with parts are the same as nothing else. -/
def RawKey.isSame (first second : RawKey) : Bool :=
  match first.value, second.value with
  | .null, .null => true
  | .truth first, .truth second => first = second
  | .number first, .number second => first = second
  | .text first, .text second => first = second
  | _, _ => false

/-- Put a value under a key. A key that is already there keeps its place. -/
def putRaw (key : RawKey) (value : Value) : List (RawKey × Value) → List (RawKey × Value)
  | [] => [(key, value)]
  | entry :: rest =>
      if entry.1.isSame key then (entry.1, value) :: rest else entry :: putRaw key value rest

def mergeRaw (entries merged : List (RawKey × Value)) : List (RawKey × Value) :=
  merged.foldl
    (fun entries entry =>
      if entries.any (·.1.isSame entry.1) then entries else entries ++ [entry])
    entries

/-- Merge entries behind the fields that are there, if their keys can be names of fields. A
key that is a mark of merged fields is left out. -/
def mergeFields? (fields : List (String × Value)) (merged : List (RawKey × Value)) :
    Option (List (String × Value)) :=
  merged.foldlM
    (fun fields entry =>
      match entry.1.value, entry.1.text with
      | .foreign "symbol" _, _ => some fields
      | _, none => none
      | _, some name =>
          if (Table.find? fields name).isSome then some fields
          else some (fields ++ [(name, entry.2)]))
    fields

/-- An element of a set as an entry: its first two parts. -/
def entryOfElement? (element : RawKey) : Option (RawKey × Value) :=
  let part (value : Value) : RawKey :=
    ⟨value, if value.hasPlainText then some value.plainText else none⟩
  match element.value with
  | .text text =>
      match text.toList with
      | first :: second :: _ => some (part (.text first.toString), .text second.toString)
      | _ => none
  | .list (first :: second :: _) => some (part first, second)
  | _ => none

/-- A part of a value of which no more is shown than its kind. -/
def shellOf : Node → Value
  | .list _ _ => .list []
  | .pairs _ false _ => .list []
  | .pairs _ true _ => .foreign "map" (some "[object Map]")
  | .map _ true _ => .foreign "set" (some "[object Set]")
  | _ => .record []

/-- How deep a node is shown inside itself. -/
def ownDepth : Nat := 2

/-- A document: its directives, and its anchored nodes. -/
structure Surround where
  directives : Directives
  anchored : List (Anchor × Node)

mutual

/-- The value of a node. An anchored node is entered into the ledger. Each step of `fuel`
goes one node further; a document whose nodes refer to each other in a circle may use it
up. -/
def evaluate (surround : Surround) (depth : Nat) : Nat → Node → Following Value
  | 0, _ => failure
  | fuel + 1, node =>
      match node with
      | .reference _ target => follow surround depth fuel target
      | node =>
          match node.marks.anchor with
          | none => evaluateBody surround depth fuel node
          | some anchor => do
              modify (·.put { offset := anchor.offset })
              let value ← evaluateBody surround depth fuel node
              modify (·.setValue anchor.offset value)
              pure value

def evaluateBody (surround : Surround) (depth : Nat) : Nat → Node → Following Value
  | 0, _ => failure
  | fuel + 1, node =>
      match node with
      | .scalar _ written => pure written.reading.content.value
      | .reference _ target => follow surround depth fuel target
      | .list _ items => do
          let values ← items.mapM (evaluate surround depth fuel)
          pure (.list values)
      | .map _ false entries => do
          let fields ← entries.foldlM (addField surround depth fuel) []
          pure (.record (Table.listed fields))
      | .map marks true entries => do
          let _ ← elements surround depth fuel entries
          pure (shellOf (.map marks true entries))
      | .pairs _ false entries => do
          let records ← entries.mapM fun entry => do
            let fields ← addField surround depth fuel [] entry
            pure (Value.record (Table.listed fields))
          pure (.list records)
      | .pairs marks true entries => do
          let _ ← entries.foldlM
            (fun seen entry => do
              let key ← rawKey surround depth fuel entry.key
              match entry.value with
              | some value => let _ ← evaluate surround depth fuel value
              | none => pure ()
              if seen.any (RawKey.isSame key) then failure else pure (key :: seen))
            []
          pure (shellOf (.pairs marks true entries))

/-- The value of the target of a reference. Inside the target itself only a few levels of
it are shown. -/
def follow (surround : Surround) (depth : Nat) : Nat → Anchor → Following Value
  | 0, _ => failure
  | fuel + 1, reference =>
      match target? surround.anchored reference with
      | none => failure
      | some (anchor, node) => do
          if ((← get).known? anchor.offset).isNone then
            let _ ← evaluate surround depth fuel node
          match (← get).known? anchor.offset with
          | none => failure
          | some known =>
              let counted := { known with count := known.count + 1 }
              modify (·.put counted)
              let ledger ← get
              let weight :=
                if known.weight = 0 then weightOf surround.anchored ledger node else known.weight
              let used := { counted with weight }
              modify (·.put used)
              if usageLimit < used.count * weight && depth = ownDepth then failure
              else
                match known.value with
                | some value => pure value
                | none =>
                    if depth = 0 then pure (shellOf node)
                    else do
                      let ledger ← get
                      let value ← evaluateBody surround (depth - 1) fuel node
                      set ledger
                      pure value

def addField (surround : Surround) (depth : Nat) :
    Nat → List (String × Value) → Entry → Following (List (String × Value))
  | 0, _, _ => failure
  | fuel + 1, fields, entry =>
      if isMergeKey surround.directives.isOld entry.key then do
        let sources ← mergeSources surround depth fuel entry.value
        sources.foldlM (fun fields source => (mergeFields? fields source : Option _)) fields
      else do
        let keyValue ← evaluate surround depth fuel entry.key
        match fieldName? surround.directives entry.key keyValue with
        | none => failure
        | some name =>
            let value ←
              match entry.value with
              | some value => evaluate surround depth fuel value
              | none => pure .null
            pure (Table.put fields name value)

/-- The entries of the maps whose fields are merged: those of a map, or of each map in a
list. -/
def mergeSources (surround : Surround) (depth : Nat) :
    Nat → Option Node → Following (List (List (RawKey × Value)))
  | 0, _ => failure
  | fuel + 1, node =>
      let resolved (node : Node) : Option Node :=
        match node with
        | .reference _ target => (target? surround.anchored target).map (·.2)
        | node => some node
      match node.bind resolved with
      | some (.list _ items) =>
          items.mapM fun item =>
            match resolved item with
            | some source => rawEntries surround depth fuel source
            | none => failure
      | some (.pairs _ _ []) => pure []
      | some source => do
          let entries ← rawEntries surround depth fuel source
          pure [entries]
      | none => failure

/-- The entries of a map or a set, with their keys as they are. -/
def rawEntries (surround : Surround) (depth : Nat) :
    Nat → Node → Following (List (RawKey × Value))
  | 0, _ => failure
  | fuel + 1, node =>
      match node with
      | .map _ false entries =>
          entries.foldlM
            (fun found entry => do
              if isMergeKey surround.directives.isOld entry.key then
                let sources ← mergeSources surround depth fuel entry.value
                pure (sources.foldl mergeRaw found)
              else
                let key ← rawKey surround depth fuel entry.key
                let value ←
                  match entry.value with
                  | some value => evaluate surround depth fuel value
                  | none => pure .null
                pure (putRaw key value found))
            []
      | .map _ true entries => do
          let found ← elements surround depth fuel entries
          (found.mapM entryOfElement? : Option _)
      | _ => failure

def elements (surround : Surround) (depth : Nat) :
    Nat → List Entry → Following (List RawKey)
  | 0, _ => failure
  | fuel + 1, entries =>
      entries.foldlM
        (fun found entry => do
          let added ←
            if isMergeKey surround.directives.isOld entry.key then do
              let sources ← mergeSources surround depth fuel entry.value
              pure (sources.flatten.map (·.1))
            else do
              let key ← rawKey surround depth fuel entry.key
              pure [key]
          pure (added.foldl
            (fun found key => if found.any (RawKey.isSame key) then found else found ++ [key])
            found))
        []

def rawKey (surround : Surround) (depth : Nat) : Nat → Node → Following RawKey
  | 0, _ => failure
  | fuel + 1, key => do
      let value ← evaluate surround depth fuel key
      let target :=
        match key with
        | .reference _ target => (target? surround.anchored target).map Prod.snd
        | key => some key
      let text :=
        match target.bind Node.content? with
        | some (.bytes bytes) => some (Text.decodeUtf8 bytes)
        | _ => if value.hasPlainText then some value.plainText else none
      pure ⟨value, text⟩

end

/-- The value of the node of a document. `size` bounds the number of its nodes. -/
def valueOf? (directives : Directives) (size : Nat) (node : Node) : Option Value :=
  (evaluate ⟨directives, node.anchored⟩ ownDepth (8 * size + 64) node []).map (·.1)

end PartitionBench.Document.Yaml
