import PartitionBench.Document.Yaml.Token

/-!
Contract: what the tokens of a document make up together.

Owns:
- forms: scalars, block and flow collections, and their items with all tokens that
  belong to them;
- the parts of a stream: directives, documents and their ends;
- the tokens in front of an item that belong to the first key of a nested map.

Does not own: how forms come about (`Yaml.Assembly`), and what they mean
(`Yaml.Composition`).
-/

namespace PartitionBench.Document.Yaml

mutual

/-- What stands in the place of a value. -/
inductive Form where
  /-- A scalar of one token, or a reference, with the tokens behind it; there are none as
  long as the scalar may still be a key. -/
  | scalar (token : Token) (behind : Option (List Token))
  /-- A block scalar: its indentation, the tokens of its header, and its text. -/
  | block (offset indent : Nat) (header : List Token) (text : List Char)
  | map (offset indent : Nat) (items : List Item)
  | list (offset indent : Nat) (items : List Item)
  /-- A flow collection: the token that opens it, its items, the latest first, and the
  tokens from the closing one on. -/
  | flow (indent : Nat) (opening : Token) (items : List Item) (closing : List Token)
  | wrong (offset : Nat)

/-- An item of a collection: the tokens in front of it, its key, the tokens between
key and value, and its value. -/
inductive Item where
  | mk (lead : List Token) (isExplicit : Bool) (key : Option Form) (joint : Option (List Token))
      (value : Option Form)

end

instance : Inhabited Item := ⟨.mk [] false none none none⟩

namespace Item

def lead : Item → List Token
  | .mk lead _ _ _ _ => lead

def isExplicit : Item → Bool
  | .mk _ isExplicit _ _ _ => isExplicit

def key : Item → Option Form
  | .mk _ _ key _ _ => key

def joint : Item → Option (List Token)
  | .mk _ _ _ joint _ => joint

def value : Item → Option Form
  | .mk _ _ _ _ value => value

/-- An item of which only the tokens in front of it are there. -/
def opened (lead : List Token) : Item :=
  .mk lead false none none none

def keyed (lead : List Token) (key : Option Form) (joint : List Token) : Item :=
  .mk lead false key (some joint) none

def addLead (token : Token) : Item → Item
  | .mk lead isExplicit key joint value => .mk (lead ++ [token]) isExplicit key joint value

def withLead (lead : List Token) : Item → Item
  | .mk _ isExplicit key joint value => .mk lead isExplicit key joint value

def addJoint (token : Token) : Item → Item
  | .mk lead isExplicit key joint value =>
      .mk lead isExplicit key (some (joint.getD [] ++ [token])) value

def withJoint (joint : List Token) : Item → Item
  | .mk lead isExplicit key _ value => .mk lead isExplicit key (some joint) value

def withKey (key : Option Form) (joint : List Token) : Item → Item
  | .mk lead isExplicit _ _ value => .mk lead isExplicit key (some joint) value

def withoutKey : Item → Item
  | .mk lead isExplicit _ _ value => .mk lead isExplicit none none value

def withValue (value : Form) : Item → Item
  | .mk lead isExplicit key joint _ => .mk lead isExplicit key joint (some value)

def marked : Item → Item
  | .mk lead _ key joint value => .mk lead true key joint value

end Item

namespace Form

def offset : Form → Nat
  | .scalar token _ => token.offset
  | .block offset _ _ _ => offset
  | .map offset _ _ => offset
  | .list offset _ _ => offset
  | .flow _ opening _ _ => opening.offset
  | .wrong offset => offset

def indent : Form → Nat
  | .scalar token _ => token.indent
  | .block _ indent _ _ => indent
  | .map _ indent _ => indent
  | .list _ indent _ => indent
  | .flow indent _ _ _ => indent
  | .wrong _ => 0

/-- The tokens behind a form, if they are kept with it. -/
def behind? : Form → Option (List Token)
  | .scalar _ behind => behind
  | .flow _ _ _ closing => some closing
  | _ => none

def addBehind (token : Token) : Form → Form
  | .scalar written behind => .scalar written (some (behind.getD [] ++ [token]))
  | .flow indent opening items closing => .flow indent opening items (closing ++ [token])
  | form => form

def isBlockCollection : Form → Bool
  | .map _ _ _ => true
  | .list _ _ _ => true
  | _ => false

/-- The form is a scalar of one token, a reference or a flow collection. -/
def isFlow : Form → Bool
  | .scalar _ _ => true
  | .flow _ _ _ _ => true
  | _ => false

end Form

/-- A document: the tokens in front of its value, the value, and the tokens behind
it. -/
structure DocumentForm where
  offset : Nat
  lead : List Token := []
  value : Option Form := none
  behind : Option (List Token) := none

inductive Part where
  | directive (text : List Char)
  | document (form : DocumentForm)
  | documentEnd (behind : List Token)

/-- The number of tokens at the end of a lead that belong to what follows: those behind
the last line break or indicator, without the spaces that come first. -/
def ownCount (lead : List Token) : Nat :=
  let ends (kind : TokenKind) : Bool :=
    kind = .documentStart || kind = .explicitKey || kind = .mapValue || kind = .item
      || kind = .newline
  let own := (lead.reverse.takeWhile (fun token => !ends token.kind)).reverse
  (own.dropWhile (fun token => token.kind = .space)).length

/-- A lead without the tokens that belong to what follows, and those tokens. -/
def splitLead (lead : List Token) : List Token × List Token :=
  let kept := lead.length - ownCount lead
  (lead.take kept, lead.drop kept)

/-- An item of a flow list that was read as a key without a value is a value. The
tokens behind it stay behind it, or else in front of it. -/
def Item.settled (item : Item) : Item :=
  match item with
  | .mk lead isExplicit key (some joint) none =>
      if Token.has lead .explicitKey || Token.has joint .mapValue then item
      else
        match key with
        | some (.scalar token behind) =>
            .mk lead isExplicit none none (some (.scalar token (some (behind.getD [] ++ joint))))
        | some (.flow indent opening items closing) =>
            .mk lead isExplicit none none (some (.flow indent opening items (closing ++ joint)))
        | other => .mk (lead ++ joint) isExplicit none none other
  | _ => item

/-- A flow list with its items settled. Other forms stay as they are. -/
def Form.settled : Form → Form
  | .flow indent opening items closing =>
      if opening.kind = .listOpen then .flow indent opening (items.map Item.settled) closing
      else .flow indent opening items closing
  | form => form

end PartitionBench.Document.Yaml
