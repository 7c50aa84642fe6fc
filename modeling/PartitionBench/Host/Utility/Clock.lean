import PartitionBench.Host.Utility.Basic
import PartitionBench.Instant
import PartitionBench.Text.Digits
import PartitionBench.Text.Split

/-!
Contract: the program that prints the time.

Owns:
- the point in time at which the clock of the host stands;
- points in time as arguments name them, and formats filled with the parts of one.

Does not own: the calendar (`Instant`).
-/

namespace PartitionBench.Host.Utility

open Execution

/-- The point in time at which the clock of the host stands. -/
def clockInstant : Instant := ⟨1704067200000⟩

namespace Clock

/-! ## Parts of a point in time -/

/-- What parts of a point in time are made of. -/
structure Parts where
  year : Int
  month : Nat
  day : Nat
  /-- The day of the year, counted from zero. -/
  yearDay : Nat
  /-- The day of the week, counted from Sunday as zero. -/
  weekday : Nat
  hour : Nat
  minute : Nat
  second : Nat
  nanosecond : Nat
  /-- The seconds since the start of 1970. -/
  seconds : Int

def partsOf (instant : Instant) : Parts :=
  let (year, month, day) := instant.date
  let days := instant.milliseconds / Instant.dayLength
  let rest := (instant.milliseconds % Instant.dayLength).toNat
  { year, month := month.toNat, day := day.toNat
    yearDay := (days - Instant.daysToMonth year 1).toNat
    weekday := ((days + 4) % 7).toNat
    hour := rest / 3600000, minute := rest / 60000 % 60, second := rest / 1000 % 60
    nanosecond := rest % 1000 * 1000000
    seconds := instant.milliseconds / 1000 }

/-- The names of the days of the week, from Sunday on. -/
def weekdayNames : List String :=
  ["Sunday", "Monday", "Tuesday", "Wednesday", "Thursday", "Friday", "Saturday"]

def monthNames : List String :=
  ["January", "February", "March", "April", "May", "June", "July", "August", "September",
    "October", "November", "December"]

/-- The weeks of a year have a year and a number: the week that holds the first Thursday is
the first one. -/
def weekOf (parts : Parts) : Int × Nat :=
  let monday := (parts.weekday + 6) % 7
  let week := (parts.yearDay + 10 - (monday + 1)) / 7
  let weeksIn (year : Int) : Nat :=
    let first := (Instant.daysToMonth year 1 + 3) % 7
    let isLeap : Bool := Instant.daysToMonth (year + 1) 1 - Instant.daysToMonth year 1 = 366
    if first = 3 ∨ (isLeap ∧ first = 2) then 53 else 52
  if week = 0 then (parts.year - 1, weeksIn (parts.year - 1))
  else if weeksIn parts.year < week then (parts.year + 1, 1)
  else (parts.year, week)

/-- How a part is filled up to its width, and changed. -/
structure Filling where
  /-- The character that fills; none if nothing does. -/
  pad : Option (Option Char) := none
  isUpper : Bool := false
  width : Option Nat := none

def filled (filling : Filling) (pad : Char) (width : Nat) (value : Int) : List Char :=
  let digits := (toString value.natAbs).toList
  let sign : List Char := if value < 0 then ['-'] else []
  let most := filling.width.getD width
  match filling.pad.getD (some pad) with
  | none => sign ++ digits
  | some c => sign ++ List.replicate (most - digits.length) c ++ digits

/-- A text as it is, or in great letters. -/
def lettered (filling : Filling) (text : String) : List Char :=
  if filling.isUpper then text.toList.map Char.toUpper else text.toList

/-- The part of a point in time that a letter asks for, if it is a single one. -/
def part? (parts : Parts) (filling : Filling) (letter : Char) : Option (List Char) :=
  let number (width : Nat) (value : Int) : Option (List Char) :=
    some (filled filling '0' width value)
  let spaced (width : Nat) (value : Int) : Option (List Char) :=
    some (filled filling ' ' width value)
  let text (value : String) : Option (List Char) := some (lettered filling value)
  let weekday := weekdayNames.getD parts.weekday ""
  let month := monthNames.getD (parts.month - 1) ""
  let half : Nat := if parts.hour % 12 = 0 then 12 else parts.hour % 12
  let monday := (parts.weekday + 6) % 7
  match letter with
  | 'Y' => number 4 parts.year
  | 'C' => number 2 (parts.year / 100)
  | 'y' => number 2 (parts.year % 100)
  | 'm' => number 2 parts.month
  | 'd' => number 2 parts.day
  | 'e' => spaced 2 parts.day
  | 'H' => number 2 parts.hour
  | 'k' => spaced 2 parts.hour
  | 'I' => number 2 half
  | 'l' => spaced 2 half
  | 'M' => number 2 parts.minute
  | 'S' => number 2 parts.second
  | 'j' => number 3 (parts.yearDay + 1 : Nat)
  | 's' => number 1 parts.seconds
  | 'N' =>
      let digits := filled {} '0' 9 parts.nanosecond
      some (digits.take (filling.width.getD 9))
  | 'q' => number 1 ((parts.month + 2) / 3 : Nat)
  | 'u' => number 1 (monday + 1 : Nat)
  | 'w' => number 1 parts.weekday
  | 'U' => number 2 ((parts.yearDay + 7 - parts.weekday) / 7 : Nat)
  | 'W' => number 2 ((parts.yearDay + 7 - monday) / 7 : Nat)
  | 'V' => number 2 (weekOf parts).2
  | 'G' => number 4 (weekOf parts).1
  | 'g' => number 2 ((weekOf parts).1 % 100)
  | 'a' => text (String.ofList (weekday.toList.take 3))
  | 'A' => text weekday
  | 'b' | 'h' => text (String.ofList (month.toList.take 3))
  | 'B' => text month
  | 'p' => text (if parts.hour < 12 then "AM" else "PM")
  | 'P' => text (if parts.hour < 12 then "am" else "pm")
  | 'Z' => text "UTC"
  | 'z' => text "+0000"
  | 'n' => text "\n"
  | 't' => text "\t"
  | '%' => text "%"
  | _ => none

/-- The parts that a letter stands for, if it stands for several. -/
def compound? (letter : Char) : Option String :=
  match letter with
  | 'F' => some "%Y-%m-%d"
  | 'T' | 'X' => some "%H:%M:%S"
  | 'R' => some "%H:%M"
  | 'D' | 'x' => some "%m/%d/%y"
  | 'c' => some "%a %b %e %H:%M:%S %Y"
  | 'r' => some "%I:%M:%S %p"
  | _ => none

/-- Signs in front of a letter of a format, and what follows them. -/
def fillingOf : Filling → List Char → Filling × List Char
  | filling, c :: rest =>
      match c with
      | '-' => fillingOf { filling with pad := some none } rest
      | '_' => fillingOf { filling with pad := some (some ' ') } rest
      | '0' => fillingOf { filling with pad := some (some '0') } rest
      | '^' => fillingOf { filling with isUpper := true } rest
      | '#' => fillingOf filling rest
      | _ =>
          let digits := (c :: rest).takeWhile Char.isDigit
          if digits = [] then (filling, c :: rest)
          else
            ({ filling with width := some (Text.decimalValue digits) },
              (c :: rest).drop digits.length)
  | filling, [] => (filling, [])

/-- A format filled with the parts of a point in time. -/
def formatted (parts : Parts) : Nat → List Char → List Char
  | 0, format => format
  | _ + 1, [] => []
  | fuel + 1, '%' :: rest =>
      let (filling, behind) := fillingOf {} rest
      let written := '%' :: rest.take (rest.length - behind.length)
      match behind with
      | [] => written
      | ':' :: 'z' :: others => "+00:00".toList ++ formatted parts fuel others
      | letter :: others =>
          let filledIn : List Char :=
            match part? parts filling letter, compound? letter with
            | some text, _ => text
            | none, some format =>
                let text := formatted parts fuel format.toList
                if filling.isUpper then text.map Char.toUpper else text
            | none, none => written ++ [letter]
          filledIn ++ formatted parts fuel others
  | fuel + 1, c :: rest => c :: formatted parts fuel rest

/-! ## Points in time that are named -/

def timeOf? (text : List Char) : Option Int :=
  match (Text.pieces ':' text).mapM natural? with
  | some [hour, minute] =>
      if hour < 24 ∧ minute < 60 then some ((hour * 60 + minute : Nat) * 60000 : Int) else none
  | some [hour, minute, second] =>
      if hour < 24 ∧ minute < 60 ∧ second ≤ 60 then
        some (((hour * 60 + minute) * 60 + second : Nat) * 1000 : Int)
      else none
  | _ => none

/-- The start of the day that a text writes with dashes, or with slashes. -/
def dayOf? (text : List Char) : Option Instant :=
  let day? (year month day : Nat) : Option Instant :=
    let instant := Instant.ofParts year month day 0
    if 1 ≤ month ∧ month ≤ 12 ∧ instant.date = ((year : Int), (month : Int), (day : Int)) then
      some instant
    else none
  match (Text.pieces '-' text).mapM natural?, (Text.pieces '/' text).mapM natural? with
  | some [year, month, day], _ => day? year month day
  | _, some [year, month, day] => if 31 < year then day? year month day else day? day year month
  | _, _ => none

def unitOf? (word : List Char) : Option Int :=
  let name := if word.getLast? = some 's' then word.dropLast else word
  match String.ofList name with
  | "sec" | "second" => some 1000
  | "min" | "minute" => some 60000
  | "hour" => some 3600000
  | "day" => some Instant.dayLength
  | "week" => some (7 * Instant.dayLength)
  | "fortnight" => some (14 * Instant.dayLength)
  | _ => none

/-- What words for a span of time, in front of others, come to in milliseconds. -/
def spanOf? (words : List (List Char)) : Option (Int × List (List Char)) :=
  match words with
  | count :: unit :: rest =>
      match integer? count, unitOf? unit with
      | some number, some size =>
          if rest.head? = some "ago".toList then some (-number * size, rest.drop 1)
          else some (number * size, rest)
      | _, _ => none
  | _ => none

/-- The point in time that a word names, starting from another one. -/
def wordInstant? (word : List Char) (instant : Instant) : Option Instant :=
  let startOfDay : Int := instant.milliseconds - instant.milliseconds % Instant.dayLength
  match String.ofList word with
  | "now" | "today" | "UTC" | "Z" | "utc" | "GMT" => some instant
  | "midnight" => some ⟨startOfDay⟩
  | "noon" => some ⟨startOfDay + Instant.dayLength / 2⟩
  | "yesterday" => some ⟨instant.milliseconds - Instant.dayLength⟩
  | "tomorrow" => some ⟨instant.milliseconds + Instant.dayLength⟩
  | _ =>
      match dayOf? word, timeOf? word with
      | some day, _ => some day
      | none, some time => some ⟨startOfDay + time⟩
      | none, none => none

/-- The point in time that words name, starting from another one. -/
def named? : Nat → List (List Char) → Instant → Option Instant
  | 0, _, _ => none
  | _ + 1, [], instant => some instant
  | fuel + 1, word :: rest, instant =>
      match spanOf? (word :: rest) with
      | some (span, behind) => named? fuel behind ⟨instant.milliseconds + span⟩
      | none => (wordInstant? word instant).bind (named? fuel rest)

def instantOf? (text : List Char) : Option Instant :=
  match text with
  | '@' :: seconds => (integer? seconds).map fun value => ⟨value * 1000⟩
  | [] => some clockInstant
  | _ =>
      let isSeparator (c : Char) : Bool := c = ' ' || c = '\t'
      let separated := text.map fun c => if isSeparator c then ' ' else c
      let spaced : List Char :=
        match dayOf? (separated.takeWhile (· ≠ 'T')), separated.contains 'T' with
        | some _, true =>
            (separated.map fun c => if c = 'T' then ' ' else c).filter (· ≠ 'Z')
        | _, _ => separated
      named? (spaced.length + 1) ((Text.pieces ' ' spaced).filter (· ≠ [])) clockInstant

end Clock

def standardFormat? (precision : List Char) : Option String :=
  match String.ofList precision with
  | "" | "date" => some "%F"
  | "hours" => some "%FT%H%:z"
  | "minutes" => some "%FT%H:%M%:z"
  | "seconds" => some "%FT%T%:z"
  | "ns" => some "%FT%T,%N%:z"
  | _ => none

def withPrecision (argument : List Char) : List (List Char) :=
  match argument with
  | '-' :: 'I' :: precision => [['-', 'I'], precision]
  | _ =>
      if argument.take 10 = "--iso-8601".toList then [['-', 'I'], argument.drop 11]
      else [argument]

def printTime : Utility := fun name arguments =>
  withArguments
    { flags := "uR", valued := "drfIs"
      long := [("date", 'd'), ("utc", 'u'), ("universal", 'u'), ("rfc-email", 'R'),
        ("reference", 'r')] }
    name (arguments.flatMap withPrecision) 1 fun options operands => do
      let instant? : Option Instant :=
        match valueOf? options 'd' with
        | some text => Clock.instantOf? text
        | none => some clockInstant
      let format? : Option (List Char) :=
        match operands with
        | ('+' :: format) :: _ => some format
        | _ :: _ => none
        | [] =>
            match valueOf? options 'I' with
            | some precision => (standardFormat? precision).map String.toList
            | none =>
                if has options 'R' then some "%a, %d %b %Y %H:%M:%S %z".toList
                else some "%a %b %e %H:%M:%S %Z %Y".toList
      match operands, format?, instant? with
      | _ :: extra :: _, _, _ => do
          complain name ("extra operand ".toList ++ shown extra)
          hint name
          return 1
      | _, none, _ => do
          complain name ("invalid date ".toList ++ shown (operands.headD []))
          return 1
      | _, _, none => do
          complain name ("invalid date ".toList ++ shown ((valueOf? options 'd').getD []))
          return 1
      | _, some format, some instant =>
          let text := Clock.formatted (Clock.partsOf instant) (2 * format.length + 8) format
          print (text ++ ['\n']) 0

end PartitionBench.Host.Utility
