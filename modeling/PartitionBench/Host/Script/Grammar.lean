/-!
Contract: what a script for a shell consists of.

Owns:
- words with their quotes and the parts that are replaced when they are expanded;
- redirections and commands, simple and compound.

Does not own: how a script is written (`Script.Word`, `Script.Phrase`) and what it does
(`Script.Execution`).

Texts are lists of bytes, each written as the character with its value.
-/

namespace PartitionBench.Host.Script

/-- The language of a script: that of the standard shell, or the extended one that has
conditions, calculations and lists of its own. -/
inductive Dialect where
  | standard
  | extended
  deriving DecidableEq, Repr

/-- The part of a value that is replaced. -/
inductive Place where
  | first
  | everywhere
  | start
  | finish
  deriving DecidableEq, Repr

/-- How a file is opened for a redirection. -/
inductive Access where
  | read
  | write
  /-- Write over a file even if that is forbidden. -/
  | overwrite
  | append
  | readWrite
  deriving DecidableEq, Repr

mutual

inductive Part where
  | plain (text : List Char)
  /-- Text that is quoted, each character on its own or all of it. -/
  | quoted (text : List Char)
  /-- Double quotes, in which parameters are replaced. -/
  | quotes (parts : List Part)
  | parameter (name : List Char) (change : Change)
  /-- A parameter that is one of a list, or all of it. -/
  | element (name : List Char) (place : List Part) (change : Change)
  /-- The output of commands. The line is the first of their text. -/
  | substitution (line : Nat) (commands : List Command)
  | calculation (expression : List Part)
  /-- The path of a channel that the output of commands is read from. -/
  | channel (line : Nat) (commands : List Command)

/-- What becomes of the value of a parameter. -/
inductive Change where
  | none
  | length
  | standIn (orEmpty : Bool) (other : List Part)
  | assign (orEmpty : Bool) (other : List Part)
  | complain (orEmpty : Bool) (message : List Part)
  | alternative (orEmpty : Bool) (other : List Part)
  | withoutStart (longest : Bool) (pattern : List Part)
  | withoutEnd (longest : Bool) (pattern : List Part)
  | slice (start : List Part) (length : Option (List Part))
  | replace (place : Place) (pattern : List Part) (replacement : List Part)
  | letters (toUpper : Bool) (everywhere : Bool)
  /-- The value is the name of the parameter that is meant. -/
  | indirect
  | places
  /-- The value in quotes, as it can be read again. -/
  | requoted
  /-- No change that is known; `written` is the text in the braces. -/
  | unknown (written : List Char)

/-- A value that is given to a name. -/
inductive Assignment where
  | value (name : List Char) (adds : Bool) (value : List Part)
  | element (name : List Char) (place : List Part) (adds : Bool) (value : List Part)
  | items (name : List Char) (adds : Bool) (values : List (List Part))

/-- A change to the descriptors of a command. -/
inductive Redirection where
  | file (descriptor : Nat) (access : Access) (name : List Part)
  /-- The descriptor becomes a copy of another one, or is closed. -/
  | copy (descriptor : Nat) (isOutput : Bool) (source : List Part)
  | document (descriptor : Nat) (number : Nat)
  | text (descriptor : Nat) (value : List Part)
  | outputs (appends : Bool) (name : List Part)

inductive Condition where
  | holds (value : List Part)
  | unary (test : List Char) (operand : List Part)
  | binary (test : List Char) (left right : List Part)
  | negation (inner : Condition)
  | both (left right : Condition)
  | either (left right : Condition)

/-- A command. The line is the one that messages name. -/
inductive Command where
  | simple (line : Nat) (assignments : List Assignment) (words : List (List Part))
      (redirections : List Redirection)
  | redirected (line : Nat) (body : Command) (redirections : List Redirection)
  | pipeline (commands : List Command)
  | background (command : Command)
  | negated (command : Command)
  /-- The time that a command takes is told in one of two forms. -/
  | timed (isTerse : Bool) (command : Command)
  | onSuccess (first second : Command)
  | onFailure (first second : Command)
  | sequence (commands : List Command)
  | subshell (line : Nat) (body : List Command) (redirections : List Redirection)
  | group (body : List Command)
  | choice (test body : List Command) (otherwise : Option Command)
  | loop (isUntil : Bool) (test body : List Command)
  | iteration (line : Nat) (name written : List Char) (words : Option (List (List Part)))
      (body : List Command)
  | counting (line : Nat) (start test step : List Part) (body : List Command)
  | selection (line : Nat) (written : List Char) (word : List Part) (cases : List Branch)
  | definition (line : Nat) (name : List Char) (body : Command)
  | condition (line : Nat) (condition : Condition)
  | calculation (line : Nat) (expression : List Part)

/-- A branch of a selection, and whether the next branch is run after it. -/
inductive Branch where
  | mk (patterns : List (List Part)) (body : List Command) (fallsThrough : Bool)

end

instance : Inhabited Part := ⟨.plain []⟩

instance : Inhabited Command := ⟨.sequence []⟩

abbrev Word := List Part

namespace Word

/-- The text of a word that consists of text outside quotes. -/
def plain? : Word → Option (List Char)
  | [.plain text] => some text
  | _ => none

/-- The text of a word whose parts are not replaced, and whether any of it is quoted. -/
def fixed? : Word → Option (List Char × Bool)
  | [] => some ([], false)
  | .plain text :: rest => (fixed? rest).map fun read => (text ++ read.1, read.2)
  | .quoted text :: rest => (fixed? rest).map fun read => (text ++ read.1, true)
  | _ :: _ => none

end Word

/-- A letter or an underscore. -/
def startsName (c : Char) : Bool :=
  ('a' ≤ c && c ≤ 'z') || ('A' ≤ c && c ≤ 'Z') || c = '_'

/-- A letter, a digit or an underscore. -/
def continuesName (c : Char) : Bool :=
  startsName c || ('0' ≤ c && c ≤ '9')

def isName : List Char → Bool
  | [] => false
  | c :: rest => startsName c && rest.all continuesName

/-- The parameters that are named by one character that is no letter. -/
def isSpecialParameter (c : Char) : Bool :=
  c = '@' || c = '*' || c = '#' || c = '?' || c = '-' || c = '$' || c = '!' || c = '0'

end PartitionBench.Host.Script
