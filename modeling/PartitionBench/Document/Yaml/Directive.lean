import PartitionBench.Table
import PartitionBench.Text.Blank
import PartitionBench.Text.Digits
import PartitionBench.Text.Split
import PartitionBench.Text.Utf8

/-!
Contract: the directives in front of a YAML document, and the full names of tags.

Owns:
- the version of the language that a document is written in;
- the handles that stand for the beginnings of tags;
- the full name of a tag as it is written, and a way to write a full name.

Does not own: what tags ask for (`Yaml.Rule`).
-/

namespace PartitionBench.Document.Yaml

structure Directives where
  /-- The document is written in version 1.1 of the language, and not in 1.2. -/
  isOld : Bool
  handles : List (String × String)

def coreNamespace : String := "tag:yaml.org,2002:"

/-- The directives of a document without any. -/
def Directives.standard : Directives := ⟨false, [("!!", coreNamespace)]⟩

def directiveWords (line : List Char) : List (List Char) :=
  (Text.pieces ' ' ((Text.trimChars line).map fun c => if c = '\t' then ' ' else c)).filter
    (· ≠ [])

def isVersion (text : List Char) : Bool :=
  match Text.pieces '.' text with
  | [major, minor] =>
      major ≠ [] && minor ≠ [] && major.all Text.isDigit && minor.all Text.isDigit
  | _ => false

namespace Directives

/-- The directives with one more, if it is acceptable: the version directive names one
version, of which only 1.1 and 1.2 count, a handle directive has two parts, and others
are ignored. -/
def add? (directives : Directives) (line : List Char) : Option Directives :=
  match (directiveWords line).map String.ofList with
  | ["%YAML", "1.1"] => some { directives with isOld := true }
  | ["%YAML", "1.2"] => some { directives with isOld := false }
  | ["%YAML", version] => if isVersion version.toList then some directives else none
  | "%YAML" :: _ => none
  | ["%TAG", handle, opening] =>
      some { directives with handles := Table.put directives.handles handle opening }
  | "%TAG" :: _ => none
  | _ => some directives

end Directives

/-- The bytes that are written by their codes at the start of a text, and what
follows. -/
def codedBytes : List Char → List UInt8 × List Char
  | '%' :: first :: second :: rest =>
      match Text.hexValue? first, Text.hexValue? second with
      | some high, some low =>
          let others := codedBytes rest
          (UInt8.ofNat (16 * high + low) :: others.1, others.2)
      | _, _ => ([], '%' :: first :: second :: rest)
  | rest => ([], rest)

/-- A text with the characters that are written by the codes of their bytes, if these are
the bytes of characters. Each step of `fuel` reads at least one character. -/
def uncoded? : Nat → List Char → Option (List Char)
  | 0, _ => none
  | _ + 1, [] => some []
  | fuel + 1, c :: rest =>
      if c = '%' then
        let parts := codedBytes (c :: rest)
        let text := Text.decodeUtf8 parts.1
        if parts.1 = [] ∨ text.toUTF8.toList ≠ parts.1 then none
        else (uncoded? fuel parts.2).map (text.toList ++ ·)
      else (uncoded? fuel rest).map (c :: ·)

/-- The full name of a tag that stands in angle brackets. -/
def verbatimName? (inside : List Char) : Option String :=
  let name := inside.dropLast
  if name = ['!'] ∨ name = ['!', '!'] ∨ inside.getLast? ≠ some '>' then none
  else some (String.ofList name)

/-- The full name of a tag, if it has one. A single mark is the name of the tag that asks
for nothing; a tag with the handle of one mark stands for itself unless the handle
stands for something else, and any other handle has to. -/
def Directives.tagName? (directives : Directives) (written : List Char) : Option String :=
  match written with
  | ['!'] => some "!"
  | '!' :: '<' :: inside => verbatimName? inside
  | _ =>
      let name := Text.afterLast '!' written
      let handle := String.ofList (written.take (written.length - name.length))
      if name = [] then none
      else
        match Table.find? directives.handles handle with
        | some opening =>
            (uncoded? (name.length + 1) name).map fun name => opening ++ String.ofList name
        | none => if handle = "!" then some (String.ofList written) else none

/-- A character of the name of a tag, by its code if it means something in flow
collections or in tags. -/
def tagCharacter (c : Char) : List Char :=
  match c with
  | '!' => "%21".toList
  | ',' => "%2C".toList
  | '[' => "%5B".toList
  | ']' => "%5D".toList
  | '\x7b' => "%7B".toList
  | '\x7d' => "%7D".toList
  | c => [c]

/-- A tag by its full name, with the first handle that stands for its beginning. -/
def Directives.tagText (directives : Directives) (name : String) : List Char :=
  let shortened := (Table.listed directives.handles).findSome? fun entry =>
    (Text.dropOpening? entry.2.toList name.toList).map fun rest =>
      entry.1.toList ++ rest.flatMap tagCharacter
  match shortened with
  | some text => text
  | none =>
      if name.toList.head? = some '!' then name.toList
      else '!' :: '<' :: (name.toList ++ ['>'])

end PartitionBench.Document.Yaml
