import PartitionBench.Host.Script.Message

/-!
Contract: the options of the shell's own commands.

Owns: which letters a command knows in a dialect, reading the options that arguments begin
with, and what is said of those that are wrong.

Does not own: what options mean to the commands, and options that are no letters.
-/

namespace PartitionBench.Host.Script

open Execution

/-- A command of the shell: it gets its name and its arguments, and ends with a status. -/
abbrev Builtin := (name : List Char) → (arguments : List (List Char)) → Execution Nat

namespace Builtin

/-- The options that a command knows: letters that stand alone, letters with a value, and how
the command is used. -/
structure OptionRule where
  flags : String
  valued : String := ""
  usage : String := ""

def standardRules : List (String × OptionRule) :=
  [(".", ⟨"", "", ""⟩), ("cd", ⟨"LP", "", ""⟩), ("chdir", ⟨"LP", "", ""⟩),
    ("command", ⟨"pvV", "", ""⟩), ("export", ⟨"p", "", ""⟩), ("hash", ⟨"r", "", ""⟩),
    ("jobs", ⟨"lp", "", ""⟩), ("pwd", ⟨"LP", "", ""⟩), ("read", ⟨"r", "p", ""⟩),
    ("readonly", ⟨"p", "", ""⟩), ("trap", ⟨"", "", ""⟩),
    ("ulimit", ⟨"HSatfdscmlpnvwr", "", ""⟩), ("umask", ⟨"S", "", ""⟩), ("unalias", ⟨"a", "", ""⟩),
    ("unset", ⟨"vf", "", ""⟩), ("wait", ⟨"", "", ""⟩)]

def extendedRules : List (String × OptionRule) :=
  [(".", ⟨"", "", "filename [arguments]"⟩),
    ("alias", ⟨"p", "", "[-p] [name[=value] ... ]"⟩),
    ("builtin", ⟨"", "", "[shell-builtin [arg ...]]"⟩),
    ("cd", ⟨"eLP@", "", "[-L|[-P [-e]] [-@]] [dir]"⟩),
    ("command", ⟨"pvV", "", "[-pVv] command [arg ...]"⟩),
    ("declare", ⟨"aAfFgiIlnprtux", "",
      "[-aAfFgiIlnrtux] [name[=value] ...] or declare -p [-aAfFilnrtux] [name ...]"⟩),
    ("disown", ⟨"har", "", "[-h] [-ar] [jobspec ... | pid ...]"⟩),
    ("eval", ⟨"", "", "[arg ...]"⟩),
    ("exec", ⟨"cl", "a", "[-cl] [-a name] [command [argument ...]] [redirection ...]"⟩),
    ("export", ⟨"aAfnp", "", "[-fn] [name[=value] ...] or export -p"⟩),
    ("hash", ⟨"dlrt", "p", "[-lr] [-p pathname] [-dt] [name ...]"⟩),
    ("jobs", ⟨"lpnxrs", "", "[-lnprs] [jobspec ...] or jobs -x command [args]"⟩),
    ("local", ⟨"aAfFgiIlnprtux", "", "[option] name[=value] ..."⟩),
    ("mapfile", ⟨"t", "dunOCcs",
      "[-d delim] [-n count] [-O origin] [-s count] [-t] [-u fd] [-C callback] [-c quantum] "
        ++ "[array]"⟩),
    ("pwd", ⟨"LP", "", "[-LP]"⟩),
    ("read", ⟨"ers", "adinptuN",
      "[-ers] [-a array] [-d delim] [-i text] [-n nchars] [-N nchars] [-p prompt] [-t timeout] "
        ++ "[-u fd] [name ...]"⟩),
    ("readarray", ⟨"t", "dunOCcs",
      "[-d delim] [-n count] [-O origin] [-s count] [-t] [-u fd] [-C callback] [-c quantum] "
        ++ "[array]"⟩),
    ("readonly", ⟨"aAfnp", "", "[-aAf] [name[=value] ...] or readonly -p"⟩),
    ("shopt", ⟨"psuoq", "", "[-pqsu] [-o] [optname ...]"⟩),
    ("source", ⟨"", "", "filename [arguments]"⟩),
    ("times", ⟨"", "", ""⟩),
    ("trap", ⟨"lp", "", "[-lp] [[arg] signal_spec ...]"⟩),
    ("type", ⟨"afptP", "", "[-afptP] name [name ...]"⟩),
    ("typeset", ⟨"aAfFgiIlnprtux", "",
      "[-aAfFgiIlnrtux] name[=value] ... or typeset -p [-aAfFilnrtux] [name ...]"⟩),
    ("ulimit", ⟨"SHabcdefiklmnpqrstuvxPRT", "", "[-SHabcdefiklmnpqrstuvxPRT] [limit]"⟩),
    ("umask", ⟨"pS", "", "[-p] [-S] [mode]"⟩),
    ("unalias", ⟨"a", "", "[-a] name [name ...]"⟩),
    ("unset", ⟨"fnv", "", "[-f] [-v] [-n] [name ...]"⟩),
    ("wait", ⟨"fn", "p", "[-fn] [-p var] [id ...]"⟩)]

/-- The options of a command in a dialect, if it refuses others. -/
def optionRule? (dialect : Dialect) (name : List Char) : Option OptionRule :=
  let rules :=
    match dialect with
    | .standard => standardRules
    | .extended => extendedRules
  (rules.find? fun entry => entry.1 = String.ofList name).map (·.2)

inductive OptionFault where
  | unknown (letter : Char)
  | missing (letter : Char)
  deriving DecidableEq, Repr

/-- The options that were given, each with its value if it takes one. -/
abbrev Choices := List (Char × List Char)

def Choices.has (choices : Choices) (letter : Char) : Bool :=
  choices.any fun choice => choice.1 = letter

def Choices.value? (choices : Choices) (letter : Char) : Option (List Char) :=
  (choices.reverse.find? fun choice => choice.1 = letter).map (·.2)

/-- The options that letters stand for, and the letter whose value is the next argument if
there is one. -/
def OptionRule.readLetters (rule : OptionRule) :
    List Char → Except OptionFault (Choices × Option Char)
  | [] => .ok ([], none)
  | letter :: rest =>
      if rule.valued.toList.contains letter then
        .ok (if rest.isEmpty then ([], some letter) else ([(letter, rest)], none))
      else if rule.flags.toList.contains letter then do
        let (choices, valued) ← rule.readLetters rest
        return ((letter, []) :: choices, valued)
      else .error (.unknown letter)

/-- The options that arguments begin with, and the operands behind them. -/
def OptionRule.read (rule : OptionRule) :
    List (List Char) → Except OptionFault (Choices × List (List Char))
  | ['-', '-'] :: rest => .ok ([], rest)
  | ('-' :: letter :: letters) :: rest =>
      match rule.readLetters (letter :: letters) with
      | .error fault => .error fault
      | .ok (choices, none) =>
          match rule.read rest with
          | .error fault => .error fault
          | .ok (later, operands) => .ok (choices ++ later, operands)
      | .ok (choices, some valued) =>
          match rest with
          | [] => .error (.missing valued)
          | value :: others =>
              match rule.read others with
              | .error fault => .error fault
              | .ok (later, operands) => .ok (choices ++ (valued, value) :: later, operands)
  | operands => .ok ([], operands)

def refuseChoice (rule : OptionRule) (fault : OptionFault) (name : List Char) :
    Execution Nat := do
  match (← process).dialect with
  | .standard => do
      report (match fault with
        | .unknown letter => utf8 "Illegal option -" ++ [letter]
        | .missing letter => utf8 "No arg for -" ++ letter :: utf8 " option")
      throw (.fails 2)
  | .extended => do
      report (match fault with
        | .unknown letter => '-' :: letter :: utf8 ": invalid option"
        | .missing letter => '-' :: letter :: utf8 ": option requires an argument")
      let usage := if rule.usage = "" then [] else ' ' :: utf8 rule.usage
      warn (name ++ utf8 ": usage: " ++ name ++ usage ++ ['\n'])
      return 2

/-- The options and operands of a command, or its refusal. -/
def chosen (dialect : Dialect) (name : List Char) (arguments : List (List Char)) :
    Except (Execution Nat) (Choices × List (List Char)) :=
  match optionRule? dialect name with
  | none => .ok ([], arguments)
  | some rule =>
      match rule.read arguments with
      | .error fault => .error (refuseChoice rule fault name)
      | .ok found => .ok found

/-- A command that reads the options of its name in the dialect, and gets its operands behind
them. -/
def optioned (work : Choices → Builtin) : Builtin := fun name arguments => do
  match chosen (← process).dialect name arguments with
  | .error refusal => refusal
  | .ok (choices, operands) => work choices name operands

end Builtin

end PartitionBench.Host.Script
