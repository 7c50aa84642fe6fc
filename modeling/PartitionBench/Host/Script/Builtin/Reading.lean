import PartitionBench.Host.Script.Builtin.Arguments

/-!
Contract: commands of the shell that read their input.

Owns: lines with protected characters, the fields of a line, and reading lines into
variables and lists.

Does not own: separating what words stand for (`Script.Field`).
-/

namespace PartitionBench.Host.Script.Builtin

open Execution

/-- A line of the input: its characters with those that are protected by a backslash,
whether it is ended, and how many bytes it takes. -/
structure InputLine where
  characters : List (Char × Bool)
  isEnded : Bool
  taken : Nat

/-- The first line of some bytes. A backslash protects the next character, and joins lines,
unless the line is read as it is. -/
def inputLine (isRaw : Bool) (delimiter : Char) : List Char → InputLine
  | [] => ⟨[], false, 0⟩
  | c :: rest =>
      if c = delimiter then ⟨[], true, 1⟩
      else if c = '\\' ∧ ¬ isRaw then
        match rest with
        | [] => ⟨[], false, 1⟩
        | '\n' :: behind =>
            let line := inputLine isRaw delimiter behind
            { line with taken := line.taken + 2 }
        | d :: behind =>
            let line := inputLine isRaw delimiter behind
            ⟨(d, true) :: line.characters, line.isEnded, line.taken + 2⟩
      else
        let line := inputLine isRaw delimiter rest
        ⟨(c, false) :: line.characters, line.isEnded, line.taken + 1⟩

def separates (separators : List Char) (entry : Char × Bool) : Bool :=
  !entry.2 && separators.contains entry.1

def separatesAsBlank (separators : List Char) (entry : Char × Bool) : Bool :=
  separates separators entry && usualSeparators.contains entry.1

/-- Characters without the blanks at their end that separate fields. -/
def withoutEndSeparators (separators : List Char) (chars : List (Char × Bool)) :
    List (Char × Bool) :=
  (chars.reverse.dropWhile (separatesAsBlank separators)).reverse

def behindSeparator (separators : List Char) (chars : List (Char × Bool)) :
    List (Char × Bool) :=
  let trimmed := chars.dropWhile (separatesAsBlank separators)
  match trimmed with
  | entry :: rest =>
      if separates separators entry then rest.dropWhile (separatesAsBlank separators)
      else trimmed
  | [] => []

/-- The fields of a line for a number of variables. The last one takes what is left; a
single separator behind a single field is dropped. -/
def lineFields (separators : List Char) : Nat → List (Char × Bool) → List (List Char)
  | 0, _ => []
  | 1, chars =>
      let kept := withoutEndSeparators separators chars
      let first := kept.takeWhile fun entry => !separates separators entry
      if (behindSeparator separators (kept.drop first.length)).isEmpty then
        [first.map (·.1)]
      else [kept.map (·.1)]
  | count + 2, chars =>
      let first := chars.takeWhile fun entry => !separates separators entry
      first.map (·.1)
        :: lineFields separators (count + 1) (behindSeparator separators (chars.drop first.length))

def allFields (separators : List Char) : Nat → List (Char × Bool) → List (List Char)
  | 0, _ => []
  | fuel + 1, chars =>
      if chars.isEmpty then []
      else
        let first := chars.takeWhile fun entry => !separates separators entry
        first.map (·.1)
          :: allFields separators fuel (behindSeparator separators (chars.drop first.length))

/-- A character that is no byte, so that no line ends at it. -/
def noByte : Char := Char.ofNat 0x100

def read : Builtin := optioned fun choices _ names => do
  let list := choices.value? 'a'
  let exact := (choices.value? 'N').bind natural?
  let most := if exact.isSome then exact else (choices.value? 'n').bind natural?
  let descriptor := ((choices.value? 'u').bind natural?).getD 0
  let delimiter :=
    if exact.isSome then noByte
    else
      match choices.value? 'd' with
      | some value => value.headD (Char.ofNat 0)
      | none => '\n'
  let dialect := (← process).dialect
  match dialect, names, list with
  | .standard, [], _ => refuse (utf8 "arg count") 2
  | _, _, _ => do
      match names.find? fun name => !isName name with
      | some name => refuseName name name
      | none => do
          if (← streamOf? descriptor).isNone ∧ dialect = .extended ∧ descriptor ≠ 0 then
            return ← refuse (digitsOfNat descriptor
              ++ utf8 ": invalid file descriptor: Bad file descriptor") 1
          let waiting ← waiting descriptor
          let line := inputLine (choices.has 'r') delimiter
            (match most with
              | some count => waiting.take count
              | none => waiting)
          skip descriptor line.taken
          let separators ← separators
          let trimmed := line.characters.dropWhile (separatesAsBlank separators)
          match list with
          | some name => do
              let fields := allFields separators (trimmed.length + 1)
                (withoutEndSeparators separators trimmed)
              mark name fun held =>
                { held with
                  value := none
                  items := some (fields.zipIdx.map fun entry => (digitsOfNat entry.2, entry.1)) }
          | none =>
              if names.isEmpty then assign "REPLY".toList (line.characters.map (·.1))
              else
                let fields := lineFields separators names.length trimmed
                for entry in names.zip fields do
                  assign entry.1 entry.2
          return if line.isEnded ∨ most.isSome ∧ line.taken ≠ 0 then 0 else 1

def readLines : Builtin := optioned fun choices _ operands => do
  let strips := choices.has 't'
  let name := operands.headD "MAPFILE".toList
  let (lines, isEnded) := linesOf (← readAll 0)
  let kept := lines.zipIdx.map fun entry =>
    let isLast := entry.2 + 1 = lines.length
    (digitsOfNat entry.2,
      if strips ∨ (isLast ∧ ¬ isEnded) then entry.1 else entry.1 ++ ['\n'])
  mark name fun held => { held with value := none, items := some kept }
  return 0

end PartitionBench.Host.Script.Builtin
