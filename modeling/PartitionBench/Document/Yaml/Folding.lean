import PartitionBench.Text.Encoding
import PartitionBench.Text.Units

/-!
Contract: breaking a line of a scalar that is too long.

Owns:
- the width of a line, and the least width of what an indented line holds;
- where a line may be broken: at a single space between two words, and inside double
  quotes also between two characters.

Does not own: which texts need quotes (`Yaml.ScalarText`). Widths are counted in
sixteen-bit units.
-/

namespace PartitionBench.Document.Yaml

def lineWidth : Nat := 80

def contentWidth : Nat := 20

def spaceUnit : Nat := 0x20

def feedUnit : Nat := 0x0A

/-- The unit is a space, a tab or a line feed. -/
def isGapUnit (unit : Nat) : Bool :=
  unit = spaceUnit || unit = 0x09 || unit = feedUnit

/-- A place where a line is broken: at a space, or behind a unit inside double quotes. -/
structure LineBreak where
  position : Nat
  isEscaped : Bool

structure BreakSearch where
  /-- The position from which on the line is too long. -/
  limit : Int
  /-- The last space at which the line may be broken. -/
  split : Option Nat := none
  previous : Option Nat := none
  escapeStart : Int := -1
  escapeEnd : Int := -1
  /-- The breaks, the latest first. -/
  breaks : List LineBreak := []

/-- The length of the escape that begins with a unit behind its backslash, less one. -/
def escapeSpan (unit : Option Nat) : Nat :=
  if unit = some 0x78 then 3 else if unit = some 0x75 then 5 else if unit = some 0x55 then 9 else 1

/-- The position of the first unit behind blanks, and the unit in front of it. -/
def skipBlanks (units : Array Nat) : Nat → Nat → Option Nat → Nat × Option Nat
  | 0, position, previous => (position, previous)
  | fuel + 1, position, previous =>
      if previous = some spaceUnit ∨ previous = some 0x09 then
        skipBlanks units fuel (position + 1) units[position]?
      else (position, previous)

/-- The breaks of a text from a position on. `step` is the width of a line behind a break.
There are none where an escape does not fit on a line. -/
def findBreaks (units : Array Nat) (isQuoted : Bool) (indent step : Nat) :
    Nat → Nat → BreakSearch → Option (List LineBreak)
  | 0, _, search => some search.breaks
  | fuel + 1, position, search =>
      match units[position]? with
      | none => some search.breaks
      | some unit =>
          let isEscape := isQuoted && unit = 0x5C
          let next := if isEscape then position + escapeSpan units[position + 1]? else position
          let search :=
            if isEscape then { search with escapeStart := position, escapeEnd := next } else search
          if unit = feedUnit then
            findBreaks units isQuoted indent step fuel (next + 1)
              { search with limit := next + indent + step, split := none, previous := some unit }
          else
            let isBetween := unit = spaceUnit && search.previous.any (!isGapUnit ·)
              && units[next + 1]?.any (!isGapUnit ·)
            let search := if isBetween then { search with split := some next } else search
            if (next : Int) < search.limit then
              findBreaks units isQuoted indent step fuel (next + 1)
                { search with previous := some unit }
            else
              match search.split with
              | some split =>
                  if split = 0 then
                    findBreaks units isQuoted indent step fuel (next + 1)
                      { search with previous := some unit }
                  else
                    findBreaks units isQuoted indent step fuel (next + 1)
                      { search with
                        limit := split + step, split := none, previous := some unit
                        breaks := ⟨split, false⟩ :: search.breaks }
              | none =>
                  if isQuoted then
                    let isBlank := search.previous = some spaceUnit || search.previous = some 0x09
                    let skipped :=
                      if isBlank then skipBlanks units fuel (next + 1) (some unit)
                      else (next, search.previous)
                    let current := if isBlank then skipped.1 else next
                    let place : Int :=
                      if search.escapeEnd + 1 < current then current - 2
                      else search.escapeStart - 1
                    if search.breaks.any fun found =>
                        found.isEscaped && (found.position : Int) = place then none
                    else
                      findBreaks units isQuoted indent step fuel (current + 1)
                        { search with
                          limit := place + step, split := none
                          previous := if isBlank then units[current]? else some unit
                          breaks := ⟨place.toNat, true⟩ :: search.breaks }
                  else
                    findBreaks units isQuoted indent step fuel (next + 1)
                      { search with previous := some unit }

def slice (units : Array Nat) (start finish : Nat) : List Nat :=
  (units.extract start finish).toList

/-- A text broken at some places, in ascending order; each line but the first is
indented. -/
def breakAt (units : Array Nat) (indent : Nat) : List LineBreak → List Nat
  | [] => []
  | found :: rest =>
      let finish := ((rest.head?.map (·.position)).getD units.size)
      let opening := feedUnit :: List.replicate indent spaceUnit
      let text :=
        if found.position = 0 && !found.isEscaped then opening ++ slice units 0 finish
        else
          (if found.isEscaped then (slice units found.position (found.position + 1)) ++ [0x5C]
            else [])
            ++ opening ++ slice units (found.position + 1) finish
      text ++ breakAt units indent rest

/-- A text with its long lines broken. The first line begins at a column, if one is given,
and at the indentation otherwise. A first line that begins too far to the right begins
on a line of its own. -/
def foldLines (isQuoted : Bool) (indent : Nat) (column : Option Nat) (text : List Char) :
    List Char :=
  let units := (Text.unitsOfAll text).toArray
  let step := max (1 + contentWidth) (1 + lineWidth - indent)
  if units.size ≤ step then text
  else
    let usual : Int := (lineWidth : Int) - indent
    let isFar := column.any fun column => lineWidth - contentWidth < column
    let limit : Int :=
      match column with
      | some column => if isFar then usual else (lineWidth : Int) - column
      | none => usual
    let breaks := if isFar then [⟨0, false⟩] else []
    match findBreaks units isQuoted indent step (units.size + 1) 0 { limit, breaks } with
    | none => text
    | some [] => text
    | some found =>
        let breaks := found.reverse
        let first := (breaks.head?.map (·.position)).getD 0
        let head := if first = 0 then [] else slice units 0 first
        Text.ofUnits (head ++ breakAt units indent breaks)

end PartitionBench.Document.Yaml
