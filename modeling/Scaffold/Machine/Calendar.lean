import Scaffold.Text.Basic

/-!
# Days of the calendar

Days are counted from the first of January 1970. `Calendar.dayNumber` counts up to a day of a year
and a month, and `Calendar.ofDayNumber` leads back.
-/

namespace Scaffold

/-- A day of the calendar. -/
structure Calendar where
  year : Int
  month : Int
  day : Int
deriving DecidableEq, Repr, Inhabited

namespace Calendar

/-- The days from the first of January 1970 to a day. Months and days may be out of range: the
thirteenth month is the first one of the next year. -/
def dayNumber (d : Calendar) : Int :=
  let months := d.month - 1
  let year := d.year + Int.fdiv months 12
  let month := Int.fmod months 12 + 1
  let y := if month ≤ 2 then year - 1 else year
  let era := Int.fdiv y 400
  let yearOfEra := y - era * 400
  let shifted := if month > 2 then month - 3 else month + 9
  let dayOfYear := Int.fdiv (153 * shifted + 2) 5
  let dayOfEra := yearOfEra * 365 + Int.fdiv yearOfEra 4 - Int.fdiv yearOfEra 100 + dayOfYear
  era * 146097 + dayOfEra - 719468 + d.day - 1

/-- The day that is so many days behind the first of January 1970. -/
def ofDayNumber (n : Int) : Calendar :=
  let z := n + 719468
  let era := Int.fdiv z 146097
  let dayOfEra := z - era * 146097
  let yearOfEra := Int.fdiv
    (dayOfEra - Int.fdiv dayOfEra 1460 + Int.fdiv dayOfEra 36524 - Int.fdiv dayOfEra 146096) 365
  let dayOfYear :=
    dayOfEra - (365 * yearOfEra + Int.fdiv yearOfEra 4 - Int.fdiv yearOfEra 100)
  let shifted := Int.fdiv (5 * dayOfYear + 2) 153
  let month := if shifted < 10 then shifted + 3 else shifted - 9
  { year := yearOfEra + era * 400 + (if month ≤ 2 then 1 else 0)
    month
    day := dayOfYear - Int.fdiv (153 * shifted + 2) 5 + 1 }

/-- Whether there is such a day. -/
def isReal (d : Calendar) : Bool := ofDayNumber d.dayNumber == d

/-- The day of the week, from zero for Sunday. -/
def weekday (n : Int) : Int := Int.fmod (n + 4) 7

end Calendar

/-- The seconds of a day and a time of day, in any ranges. -/
def secondsOf (d : Calendar) (hour minute second : Int) : Int :=
  d.dayNumber * 86400 + hour * 3600 + minute * 60 + second

end Scaffold
