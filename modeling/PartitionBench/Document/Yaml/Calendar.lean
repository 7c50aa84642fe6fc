import PartitionBench.Instant
import PartitionBench.Text.Digits

/-!
Contract: points in time as YAML dates write them.

Owns:
- reading a date, perhaps with a time and a time zone;
- the long text of a point in time, and the short one that is a date again.

Does not own: points in time (`Instant`), and which scalars are dates (`Yaml.Scalar`).
-/

namespace PartitionBench.Instant

def longText (instant : Instant) : List Char :=
  let (year, month, day) := instant.date
  let weekday := dayNames.getD (instant.milliseconds / dayLength % 7).toNat ""
  let sign := if year < 0 then ['-'] else []
  let width := if year < 0 then 6 else 4
  weekday.toList ++ ' ' :: (monthNames.getD (month - 1).toNat "").toList
    ++ ' ' :: padded 2 day.toNat ++ ' ' :: sign ++ padded width year.natAbs
    ++ ' ' :: instant.timeOfDay ++ " GMT+0000 (Coordinated Universal Time)".toList

/-- The short text of a point in time: a date, and the time unless it is the start of the
day. Milliseconds are left out when there are none. -/
def shortText (instant : Instant) : List Char :=
  let (year, month, day) := instant.date
  let yearText :=
    if year < 0 then '-' :: padded 6 year.natAbs
    else if 9999 < year then '+' :: padded 6 year.natAbs
    else padded 4 year.natAbs
  let dateText := yearText ++ '-' :: padded 2 month.toNat ++ '-' :: padded 2 day.toNat
  let part := (instant.milliseconds % 1000).toNat
  if instant.milliseconds % dayLength = 0 then dateText
  else if part = 0 then dateText ++ 'T' :: instant.timeOfDay
  else dateText ++ 'T' :: instant.timeOfDay ++ '.' :: padded 3 part ++ ['Z']

/-- One or two digits at the start of a text, and what follows them. -/
def shortNumber? (chars : List Char) : Option (Nat × List Char) :=
  let digits := chars.takeWhile Text.isDigit
  if digits = [] ∨ 2 < digits.length then none
  else some (Text.decimalValue digits, chars.drop digits.length)

/-- What follows a character at the start of a text. -/
def behind? (c : Char) : List Char → Option (List Char)
  | head :: rest => if head = c then some rest else none
  | [] => none

/-- The minutes by which a time zone is ahead: hours, or hours and minutes. A number of at
least thirty without a colon counts as minutes. -/
def zoneMinutes? (chars : List Char) : Option Int :=
  match chars with
  | ['Z'] => some 0
  | mark :: rest =>
      let hours := rest.takeWhile Text.isDigit
      let behind := rest.dropWhile Text.isDigit
      let hasHours (digits : List Char) : Bool :=
        digits.length = 1 || (digits.length = 2 && digits.all Text.isDigit
          && digits.head?.any (fun c => c = '0' || c = '1' || c = '2'))
      let signed (value : Nat) : Int := if mark = '-' then -(value : Int) else value
      if mark ≠ '-' ∧ mark ≠ '+' then none
      else
        match behind with
        | [] =>
            if hasHours hours || (hours.length = 3)
                || (hours.length = 4 && hasHours (hours.take 2)) then
              let value := Text.decimalValue hours
              some (signed (if value < 30 then value * 60 else value))
            else none
        | ':' :: minutes =>
            if hasHours hours && minutes.length = 2 && minutes.all Text.isDigit then
              let value := Text.decimalValue hours * 60 + Text.decimalValue minutes
              some (signed (if value < 30 then value * 60 else value))
            else none
        | _ => none
  | [] => none

/-- The time behind a date: its milliseconds, with the time zone taken off. -/
def time? (chars : List Char) : Option Int :=
  match shortNumber? chars with
  | none => none
  | some (hour, rest) =>
      match (behind? ':' rest).bind shortNumber? with
      | none => none
      | some (minute, rest) =>
          match (behind? ':' rest).bind shortNumber? with
          | none => none
          | some (second, rest) =>
              let places :=
                match rest with
                | '.' :: behind => behind.takeWhile Text.isDigit
                | _ => []
              let rest := if places = [] then rest else rest.drop (places.length + 1)
              let zone := rest.dropWhile (fun c => c = ' ' || c = '\t')
              let part := Text.decimalValue ((places ++ ['0', '0']).take 3)
              let part := if places = [] then 0 else part
              let value : Int := ((hour * 60 + minute) * 60 + second) * 1000 + part
              if rest = [] then some value
              else (zoneMinutes? zone).map fun minutes => value - minutes * 60000

/-- The point in time that a text writes, if it does. The years before 100 belong to the
twentieth century. -/
def read? (chars : List Char) : Option Instant :=
  let year := chars.takeWhile Text.isDigit
  if year.length ≠ 4 then none
  else
    match (behind? '-' (chars.drop 4)).bind shortNumber? with
    | none => none
    | some (month, rest) =>
        match (behind? '-' rest).bind shortNumber? with
        | none => none
        | some (day, rest) =>
            let number := Text.decimalValue year
            let year : Int := if number < 100 then 1900 + number else number
            let isSeparator (c : Char) : Bool := c = ' ' || c = '\t'
            match rest with
            | [] => some (ofParts year month day 0)
            | c :: behind =>
                let time :=
                  if c = 't' ∨ c = 'T' then time? behind
                  else if isSeparator c then time? (behind.dropWhile isSeparator)
                  else none
                time.map fun time => ofParts year month day time

end PartitionBench.Instant
