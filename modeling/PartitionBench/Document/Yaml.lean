import PartitionBench.Document.Yaml.Assembly
import PartitionBench.Document.Yaml.Composition
import PartitionBench.Document.Yaml.Evaluation
import PartitionBench.Document.Yaml.Pieces

/-!
Contract: reading document values from YAML text.

Owns: the document of a text: the directives in front of it, the markers around it, and
that there is only one.

Does not own: how a text is taken apart (`Yaml.Pieces`, `Yaml.Assembly`), and the node of
the document and its value (`Yaml.Composition`, `Yaml.Evaluation`).
-/

namespace PartitionBench.Document.Yaml

/-- How the reading of a stream stands. -/
structure Stream where
  directives : Directives := .standard
  /-- Directives were read to which no document belongs so far. -/
  isOpen : Bool := false
  /-- The node of the document, with the directives that hold for it. -/
  document : Option (Directives × Node) := none

/-- The stream behind a part, if the part may stand there. A document with directives has
a marker at its start, there is only one document, and an end belongs to a document. -/
def Stream.add (stream : Stream) (part : Part) : Option Stream :=
  match part with
  | .directive text =>
      (stream.directives.add? text).map fun directives => { stream with directives, isOpen := true }
  | .document form =>
      if stream.document.isSome || (stream.isOpen && !Token.has form.lead .documentStart) then none
      else
        (form.compose? stream.directives).map fun node =>
          { directives := .standard, isOpen := false, document := some (stream.directives, node) }
  | .documentEnd behind =>
      if stream.document.isNone || (Tail.of? true 0 behind).isNone then none else some stream

/-- The value of the document of a stream. Without a document it is null, if no directives
are there either. -/
def Stream.value? (size : Nat) (stream : Stream) : Option Value :=
  match stream.document with
  | some (directives, node) => valueOf? directives size node
  | none => if stream.isOpen then none else some .null

/-- The value of a YAML text, if it holds at most one document and no error. -/
def read? (text : String) : Option Value :=
  let chars := text.toList
  ((partsOf? (piecesOf chars)).bind fun parts => parts.foldlM Stream.add {}).bind
    (Stream.value? chars.length)

end PartitionBench.Document.Yaml
