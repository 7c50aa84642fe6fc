import PartitionBench.Document.Yaml.Form

/-!
Contract: what stands in front of and behind a node.

Owns:
- the lead of a node: its indicator, its anchor and tag, comments, line breaks and
  blanks, in an order that makes sense;
- the comments behind a node;
- which of these make a text unacceptable: missing blanks, tabs as indentation,
  properties that are repeated or stand in front of their indicator.

Does not own: the nodes themselves (`Yaml.Composition`).
-/

namespace PartitionBench.Document.Yaml

inductive Follower where
  | nothing
  | mark (token : Token)
  | value (form : Form)

namespace Follower

/-- The follower is a form, or else the first of some tokens. -/
def of (form : Option Form) (tokens : Option (List Token)) : Follower :=
  match form, tokens with
  | some form, _ => .value form
  | none, some (token :: _) => .mark token
  | none, _ => .nothing

/-- A property may stand directly in front of the follower. -/
def needsNoBlank : Follower → Bool
  | .nothing => true
  | .mark token =>
      token.kind = .space || token.kind = .newline || token.kind = .comma
        || (token.kind = .plain && token.text.isEmpty)
  | .value (.scalar token _) => token.kind = .plain && token.text.isEmpty
  | .value _ => false

def isBlockCollection : Follower → Bool
  | .value form => form.isBlockCollection
  | _ => false

def isFlowCollection : Follower → Bool
  | .value (.flow _ _ _ _) => true
  | _ => false

end Follower

/-- Where a lead stands, and what it leads to. -/
structure LeadPlace where
  indicator : TokenKind
  next : Follower
  /-- The offset where the lead begins, if it is empty. -/
  offset : Nat
  parentIndent : Nat
  isAtLineStart : Bool
  inFlow : Bool := false

structure Lead where
  comma : Option Token := none
  found : Option Token := none
  /-- An empty line stands in front of the node. -/
  isSpaced : Bool := false
  comment : List Char := []
  hasBreak : Bool := false
  anchor : Option Token := none
  tag : Option Token := none
  breakBehind : Option Token := none
  finish : Nat := 0
  /-- The offset of the first property, or behind the lead. -/
  start : Nat := 0

/-- How the reading of a lead stands. -/
structure LeadState where
  lead : Lead
  firstProperty : Option Nat := none
  isAtLineStart : Bool
  isBehindBlank : Bool
  pending : List Char := []
  isBehindProperty : Bool := false
  tab : Option Token := none

/-- The text of a comment. One without any text counts as a space. -/
def commentText (token : Token) : List Char :=
  if token.text.length ≤ 1 then [' '] else token.text.drop 1

namespace LeadState

/-- A comment. It has a blank in front of it. -/
def addComment (state : LeadState) (token : Token) : Option LeadState :=
  if state.isBehindBlank then
    let text := commentText token
    let comment :=
      if state.lead.comment.isEmpty then text else state.lead.comment ++ state.pending ++ text
    some { state with lead := { state.lead with comment }, pending := [], isAtLineStart := false }
  else none

/-- A line break. One at the start of a line is an empty line, or part of a comment. -/
def addBreak (state : LeadState) (indicator : TokenKind) (token : Token) : LeadState :=
  let lead := state.lead
  let spaced :=
    if state.isAtLineStart then
      if !lead.comment.isEmpty then
        { state with lead := { lead with comment := lead.comment ++ token.text } }
      else if lead.found.isNone || indicator ≠ .item then
        { state with lead := { lead with isSpaced := true } }
      else state
    else { state with pending := state.pending ++ token.text }
  { spaced with
    lead :=
      { spaced.lead with
        hasBreak := true
        breakBehind :=
          if lead.anchor.isSome || lead.tag.isSome then some token else lead.breakBehind }
    isAtLineStart := true
    isBehindBlank := true }

def addProperty (state : LeadState) (lead : Lead) (token : Token) : LeadState :=
  { state with
    lead
    firstProperty := state.firstProperty.or (some token.offset)
    isAtLineStart := false
    isBehindBlank := false
    isBehindProperty := true }

/-- What a token leads to. There has to be a blank behind a property, and a tab is no
indentation. -/
def add (place : LeadPlace) (state : LeadState) (token : Token) : Option LeadState :=
  let isApart := token.kind = .space || token.kind = .newline || token.kind = .comma
  let isFree := token.kind = .comment || token.kind = .newline
  if (state.isBehindProperty && !isApart) || (state.tab.isSome && state.isAtLineStart && !isFree)
  then none
  else
    let state := { state with isBehindProperty := false, tab := none }
    let lead := state.lead
    if token.kind = place.indicator then
      if lead.anchor.isSome || lead.tag.isSome || lead.found.isSome then none
      else
        some { state with
          lead := { lead with found := some token }
          isAtLineStart := place.indicator = .item || place.indicator = .explicitKey
          isBehindBlank := false }
    else
      match token.kind with
      | .space =>
          let minds := !place.inFlow
            && (place.indicator ≠ .documentStart || !place.next.isFlowCollection)
          some { state with
            tab := if minds && token.text.contains '\t' then some token else none
            isBehindBlank := true }
      | .comment => state.addComment token
      | .newline => some (state.addBreak place.indicator token)
      | .anchor =>
          if lead.anchor.isSome then none
          else some (state.addProperty { lead with anchor := some token } token)
      | .tag =>
          if lead.tag.isSome then none
          else some (state.addProperty { lead with tag := some token } token)
      | .comma =>
          if !place.inFlow || lead.comma.isSome then none
          else
            some { state with
              lead := { lead with comma := some token }
              isAtLineStart := false
              isBehindBlank := false }
      | _ => none

end LeadState

/-- The lead that tokens make up at a place, if it is acceptable. -/
def Lead.of? (place : LeadPlace) (tokens : List Token) : Option Lead :=
  let start : LeadState :=
    { lead := {}, isAtLineStart := place.isAtLineStart, isBehindBlank := place.isAtLineStart }
  match tokens.foldlM (LeadState.add place) start with
  | none => none
  | some state =>
      let finish := (tokens.getLast?.map Token.finish).getD place.offset
      let isTabWrong := state.tab.any fun tab =>
        (state.isAtLineStart && tab.indent ≤ place.parentIndent) || place.next.isBlockCollection
      if (state.isBehindProperty && !place.next.needsNoBlank) || isTabWrong then none
      else some { state.lead with finish, start := state.firstProperty.getD finish }

/-- What stands behind a node: the text of its comments, and the offset behind them. -/
structure Tail where
  comment : List Char
  finish : Nat

/-- How the reading of a tail stands. -/
structure TailState where
  comment : List Char := []
  pending : List Char := []
  isBehindBlank : Bool := false
  finish : Nat

/-- What a token behind a node leads to. Where `needsBlank` is set a comment has a blank in
front of it. -/
def TailState.add (needsBlank : Bool) (state : TailState) (token : Token) : Option TailState :=
  let state := { state with finish := state.finish + Text.unitCount token.text }
  match token.kind with
  | .space => some { state with isBehindBlank := true }
  | .comment =>
      if needsBlank && !state.isBehindBlank then none
      else
        let text := commentText token
        some { state with
          comment := if state.comment.isEmpty then text else state.comment ++ state.pending ++ text
          pending := [] }
  | .newline =>
      some { state with
        pending := if state.comment.isEmpty then state.pending else state.pending ++ token.text
        isBehindBlank := true }
  | _ => none

/-- What tokens behind a node make up, from an offset on, if they are acceptable: blanks,
line breaks and comments. -/
def Tail.of? (needsBlank : Bool) (offset : Nat) (tokens : List Token) : Option Tail :=
  (tokens.foldlM (TailState.add needsBlank) { finish := offset }).map fun state =>
    ⟨state.comment, state.finish⟩

end PartitionBench.Document.Yaml
