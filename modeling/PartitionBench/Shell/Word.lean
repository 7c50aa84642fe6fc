/-!
Contract: words of a shell command.

Owns:
- the written form of a word, from which a shell reads exactly that word;
- the written form of a command;
- the reader of a line of words, which knows blanks, single quotes and the
  backslash and refuses every other character that a shell may treat specially.

Does not own: what a shell does with the words.
-/

namespace PartitionBench.Shell

/-- A character that stands for itself everywhere in a word. -/
def isPlain (c : Char) : Bool :=
  ('A' ≤ c && c ≤ 'Z') || ('a' ≤ c && c ≤ 'z') || ('0' ≤ c && c ≤ '9')
    || c = '_' || c = '@' || c = '%' || c = '+' || c = '=' || c = ':' || c = ','
    || c = '.' || c = '/' || c = '-'

/-- The inside of a quoted word. A quote mark closes the quotes, stands for itself
behind a backslash, and opens them again. -/
def quotedChars : List Char → List Char
  | [] => []
  | c :: rest =>
      if c = '\'' then '\'' :: '\\' :: '\'' :: '\'' :: quotedChars rest
      else c :: quotedChars rest

/-- The written form of a word: the word itself when it is not empty and all its
characters are plain, and in single quotes otherwise. -/
def quoteChars (word : List Char) : List Char :=
  if word ≠ [] ∧ word.all isPlain then word
  else '\'' :: (quotedChars word ++ ['\''])

def quote (word : String) : String :=
  String.ofList (quoteChars word.toList)

/-- The written form of a command: its words with a space between each two. -/
def commandLine (words : List String) : String :=
  String.intercalate " " (words.map quote)

/-- Where a reader of words stands: between words, in a word, or in quotes. What
has been read of the word is kept in reverse. -/
inductive Reading where
  | between
  | inWord (read : List Char)
  | inQuotes (read : List Char)
  | behindBackslash (read : List Char)

/-- The words of a line from a given standing on. Reading fails at a character
that is special outside quotes, and when the line ends in quotes or behind a
backslash. -/
def readFrom : Reading → List Char → Option (List (List Char))
  | .between, [] => some []
  | .inWord read, [] => some [read.reverse]
  | .inQuotes _, [] => none
  | .behindBackslash _, [] => none
  | .between, c :: rest =>
      if c = ' ' then readFrom .between rest
      else if c = '\'' then readFrom (.inQuotes []) rest
      else if c = '\\' then readFrom (.behindBackslash []) rest
      else if isPlain c then readFrom (.inWord [c]) rest
      else none
  | .inWord read, c :: rest =>
      if c = ' ' then (readFrom .between rest).map (read.reverse :: ·)
      else if c = '\'' then readFrom (.inQuotes read) rest
      else if c = '\\' then readFrom (.behindBackslash read) rest
      else if isPlain c then readFrom (.inWord (c :: read)) rest
      else none
  | .inQuotes read, c :: rest =>
      if c = '\'' then readFrom (.inWord read) rest
      else readFrom (.inQuotes (c :: read)) rest
  | .behindBackslash read, c :: rest => readFrom (.inWord (c :: read)) rest

/-- The words that a shell reads in a line, if the line holds nothing but words. -/
def readWords? (line : String) : Option (List String) :=
  (readFrom .between line.toList).map (·.map String.ofList)

end PartitionBench.Shell
