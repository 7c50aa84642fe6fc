/-!
Contract: points in time and the days of the calendar.

Owns: a point in time as a number of milliseconds, the day, month and year it lies in, and
the time of the day.

Does not own: how dates are written (`Document.Yaml.Calendar`, `Host.Utility.Clock`).
-/

namespace PartitionBench

/-- A point in time, in milliseconds from the start of the year 1970. -/
structure Instant where
  milliseconds : Int
  deriving DecidableEq, Repr

namespace Instant

/-- The milliseconds of a day. -/
def dayLength : Int := 86400000

/-- The number of days from the start of 1970 to the start of a month, which may lie
outside the year. Years are counted from March, so that the leap day comes last. -/
def daysToMonth (year month : Int) : Int :=
  let shifted := year * 12 + (month - 1) - 2
  let year := shifted / 12
  let month := shifted % 12
  let days := (153 * month + 2) / 5
  365 * year + year / 4 - year / 100 + year / 400 + days - 719468

/-- The point in time at which a day, counted from the start of a month, and a number of
milliseconds have gone by. -/
def ofParts (year month day milliseconds : Int) : Instant :=
  ⟨(daysToMonth year month + (day - 1)) * dayLength + milliseconds⟩

/-- The year, the month and the day in which a point in time lies. -/
def date (instant : Instant) : Int × Int × Int :=
  let days := instant.milliseconds / dayLength + 719468
  let era := days / 146097
  let dayOfEra := days % 146097
  let yearOfEra := (dayOfEra - dayOfEra / 1460 + dayOfEra / 36524 - dayOfEra / 146096) / 365
  let dayOfYear := dayOfEra - (365 * yearOfEra + yearOfEra / 4 - yearOfEra / 100)
  let shifted := (5 * dayOfYear + 2) / 153
  let day := dayOfYear - (153 * shifted + 2) / 5 + 1
  let month := if shifted < 10 then shifted + 3 else shifted - 9
  let year := yearOfEra + era * 400 + (if month ≤ 2 then 1 else 0)
  (year, month, day)

/-- A number with zeros in front of it up to a width. -/
def padded (width : Nat) (value : Nat) : List Char :=
  let digits := Nat.toDigits 10 value
  List.replicate (width - digits.length) '0' ++ digits

/-- The time of the day, with a colon between its parts. -/
def timeOfDay (instant : Instant) : List Char :=
  let seconds := (instant.milliseconds % dayLength / 1000).toNat
  padded 2 (seconds / 3600) ++ ':' :: padded 2 (seconds / 60 % 60)
    ++ ':' :: padded 2 (seconds % 60)

/-- The names of the days of the week, from the day on which 1970 began. -/
def dayNames : List String :=
  ["Thu", "Fri", "Sat", "Sun", "Mon", "Tue", "Wed"]

def monthNames : List String :=
  ["Jan", "Feb", "Mar", "Apr", "May", "Jun", "Jul", "Aug", "Sep", "Oct", "Nov", "Dec"]

end Instant

end PartitionBench
