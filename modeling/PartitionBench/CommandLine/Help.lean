import PartitionBench.CommandLine.Option
import PartitionBench.Text.Split

/-!
Contract: help texts.

Owns: the layout of a help text in two columns, the breaking of descriptions into
lines, and the texts for the program and for its submit command.

Does not own: when a help text is shown (`CommandLine.Run`).
-/

namespace PartitionBench.CommandLine

def helpWidth : Nat := 80

/-- Words in lines that are shorter than `width`. Each line takes as many words as
fit; `line` is the line so far. -/
def fillLines (width : Nat) (line : String) : List String → List String
  | [] => [line]
  | word :: rest =>
      if line = "" then fillLines width word rest
      else if line.length + 1 + word.length < width then
        fillLines width (line ++ " " ++ word) rest
      else line :: fillLines width word rest

/-- A text in lines that are shorter than `width`. -/
def wrapped (width : Nat) (text : String) : List String :=
  fillLines width "" ((Text.pieces ' ' text.toList).map String.ofList)

/-- A text with spaces behind it, up to `width` columns. -/
def padded (width : Nat) (text : String) : String :=
  text ++ String.ofList (List.replicate (width - text.length) ' ')

/-- A term and its description side by side. The lines of the description begin in
one column. -/
def helpItem (termWidth : Nat) (term description : String) : String :=
  let column := termWidth + 4
  let lines := wrapped (helpWidth - column) description
  padded column ("  " ++ term)
    ++ String.intercalate ("\n" ++ padded column "") lines

/-- Terms and their descriptions, under a heading. -/
def helpSection (termWidth : Nat) (heading : String) (items : List (String × String)) :
    List String :=
  heading :: items.map (fun item => helpItem termWidth item.1 item.2) ++ [""]

def longestTerm (items : List (String × String)) : Nat :=
  items.foldl (fun width item => max width item.1.length) 0

/-- A help text: how the command is called, what it does, and its sections. -/
def helpText (usage description : String) (sections : List (String × List (String × String))) :
    String :=
  let termWidth := longestTerm (sections.flatMap (·.2))
  String.intercalate "\n"
    (["Usage: " ++ usage, "", String.intercalate "\n" (wrapped helpWidth description), ""]
      ++ sections.flatMap fun part => helpSection termWidth part.1 part.2)

def optionItems (options : List OptionSpec) : List (String × String) :=
  options.map fun option => (option.flags, option.fullDescription)

def programDescription : String :=
  "Submit graph-partitioning benchmark jobs to a batch scheduler for one file, several block "
    ++ "counts and several tools."

def submitDescription : String :=
  "Submit batch jobs for the selected tools for a single file and one or more values of k"

def programName : String := "partsubmit"

def programHelp : String :=
  helpText (programName ++ " [options] [command]") programDescription
    [("Options:", optionItems [versionOption, helpOption]),
      ("Commands:", [(submitName ++ " [options]", submitDescription),
        (helpName ++ " [command]", helpOption.description)])]

def submitHelp : String :=
  helpText (programName ++ " " ++ submitName ++ " [options]") submitDescription
    [("Options:", optionItems (submitOptions ++ [helpOption]))]

end PartitionBench.CommandLine
