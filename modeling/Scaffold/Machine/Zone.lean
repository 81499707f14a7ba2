import Scaffold.Machine.Calendar
import Scaffold.Machine.Number

/-!
# Local time

A `Zone` says how far local time is ahead of universal time, in the standard time of the zone and,
where it has one, in its summer time. `Zone.aheadAt` tells this for a moment, and `Zone.instant?`
finds the moment of a local time. `Zone.ofText` reads a zone as the environment names it: a name and
how far the zone is behind, and the same for summer time with the days on which it starts and ends.
All times are in seconds.
-/

namespace Scaffold

/-- A day of every year. -/
inductive YearDay where
  /-- The day of that number, from one on; the leap day has none. -/
  | counted (n : Int)
  /-- The day that is so many days behind the first one. -/
  | behind (n : Int)
  /-- The day of the week in a week of a month; the fifth week is the last one. -/
  | weekly (month week day : Int)
deriving DecidableEq, Repr, Inhabited

namespace YearDay

/-- The day in a year, counted as `Calendar.dayNumber` does. -/
def inYear (year : Int) : YearDay → Int
  | .counted n =>
    let march := (Calendar.mk year 3 1).dayNumber
    if n < 60 then (Calendar.mk year 1 n).dayNumber else march + n - 60
  | .behind n => (Calendar.mk year 1 1).dayNumber + n
  | .weekly month week day =>
    let first := (Calendar.mk year month 1).dayNumber
    let next := (Calendar.mk year (month + 1) 1).dayNumber
    let found := first + Int.fmod (day - Calendar.weekday first) 7 + 7 * (week - 1)
    if found < next then found else found - 7

end YearDay

/-- A day on which local time changes, and the time of that day. -/
structure Turn where
  day : YearDay
  second : Int := 7200
deriving DecidableEq, Repr, Inhabited

/-- The summer time of a zone. -/
structure Summer where
  name : String
  ahead : Int
  start : Turn
  stop : Turn
deriving DecidableEq, Repr, Inhabited

/-- A zone of the earth. -/
structure Zone where
  name : String := "UTC"
  ahead : Int := 0
  summer : Option Summer := none
deriving DecidableEq, Repr, Inhabited

namespace Zone

/-- How far local time is ahead at a moment. Summer time starts at a time of standard time and ends
at a time of its own; south of the equator it ends first. Before 1970 time does not change. -/
def aheadAt (z : Zone) (moment : Int) : Int :=
  match z.summer with
  | none => z.ahead
  | some s =>
    let year := max 1970 (Calendar.ofDayNumber (Int.fdiv moment 86400)).year
    let start := s.start.day.inYear year * 86400 + s.start.second - z.ahead
    let stop := s.stop.day.inYear year * 86400 + s.stop.second - s.ahead
    let isSummer :=
      if start > stop then moment < stop || start ≤ moment else start ≤ moment && moment < stop
    if isSummer then s.ahead else z.ahead

/-- The moment of a local time, if there is one. Of two, which come where summer time ends, the one
that is reached from universal time. -/
def instant? (z : Zone) (time : Int) : Option Int :=
  let first := time - z.aheadAt time
  let second := time - z.aheadAt first
  [first, second].find? fun moment => moment + z.aheadAt moment == time

/-- The names of local time, and how far it is ahead under each. -/
def names (z : Zone) : List (String × Int) :=
  (z.name, z.ahead) :: (z.summer.map fun s => (s.name, s.ahead)).toList

/-! ### Reading -/

/-- A name: letters, or anything that can stand in a number between angles. It has at least three
characters. -/
def name? (cs : List Char) : Option (String × List Char) :=
  let word (p : Char → Bool) (cs : List Char) : Option (String × List Char) :=
    let w := cs.takeWhile p
    if w.length < 3 then none else some (String.ofList w, cs.drop w.length)
  match cs with
  | '<' :: rest => do
    let (w, rest) ← word (fun c => c.isAlphanum || c == '+' || c == '-') rest
    match rest with
    | '>' :: rest => return (w, rest)
    | _ => none
  | _ => word Char.isAlpha cs

/-- Numbers with colons between them, at most three, each with its limit and how many seconds it
counts. -/
def clock : List (Nat × Nat) → List Char → Nat × List Char
  | [], cs => (0, cs)
  | (limit, unit) :: more, cs =>
    let ds := cs.takeWhile Char.isDigit
    let here := min (Integer.digits 10 0 ds).1 limit * unit
    match cs.drop ds.length, more with
    | ':' :: d :: rest, _ :: _ =>
      if d.isDigit then
        let (later, rest) := clock more (d :: rest)
        (here + later, rest)
      else (here, ':' :: d :: rest)
    | rest, _ => (here, rest)

/-- A time as a clock shows it, with a sign or none. -/
def signedClock? (hours : Nat) (cs : List Char) : Option (Int × List Char) :=
  let (sign, cs) : Int × List Char := match cs with
    | '-' :: rest => (-1, rest)
    | '+' :: rest => (1, rest)
    | _ => (1, cs)
  if cs.head?.any Char.isDigit then
    let (n, rest) := clock [(hours, 3600), (59, 60), (59, 1)] cs
    some (sign * n, rest)
  else none

/-- A number and what follows it. -/
def count? (cs : List Char) : Option (Int × List Char) :=
  let ds := cs.takeWhile Char.isDigit
  if ds.isEmpty then none else some (((Integer.digits 10 0 ds).1 : Nat), cs.drop ds.length)

/-- A day of every year. -/
def day? (cs : List Char) : Option (YearDay × List Char) :=
  match cs with
  | 'J' :: rest => do
    let (n, rest) ← count? rest
    if n < 1 || n > 365 then none
    return (.counted n, rest)
  | 'M' :: rest => do
    let (month, rest) ← count? rest
    let (week, rest) ← count? (← Chars.stripPrefix? ['.'] rest)
    let (day, rest) ← count? (← Chars.stripPrefix? ['.'] rest)
    if month < 1 || month > 12 || week < 1 || week > 5 || day > 6 then none
    return (.weekly month week day, rest)
  | _ => do
    let (n, rest) ← count? cs
    if n > 365 then none
    return (.behind n, rest)

/-- A day behind a comma, and the time of that day behind a slash; it is two o'clock where none is
given. -/
def turn? (cs : List Char) : Option (Turn × List Char) := do
  let (day, rest) ← day? (← Chars.stripPrefix? [','] cs)
  match rest with
  | '/' :: rest => do
    let (second, rest) ← signedClock? 167 rest
    return ({ day, second }, rest)
  | _ => return ({ day }, rest)

/-- Summer time behind a zone that is so far ahead: its name, how far it is ahead, if that is not an
hour more, and its days, if they are not the usual ones. -/
def summer? (ahead : Int) (cs : List Char) : Option Summer := do
  let (name, rest) ← name? cs
  let (ahead, rest) := match signedClock? 24 rest with
    | some (behind, rest) => (-behind, rest)
    | none => (ahead + 3600, rest)
  let usual : Summer :=
    { name, ahead, start := { day := .weekly 3 2 0 }, stop := { day := .weekly 11 1 0 } }
  if rest.isEmpty || rest == [','] then return usual
  let (start, rest) ← turn? rest
  let (stop, _) ← turn? rest
  return { name, ahead, start, stop }

/-- A zone that is written out. -/
def spelled? (text : String) : Option Zone := do
  let (name, rest) ← name? text.toList
  let (behind, rest) ← signedClock? 24 rest
  return { name, ahead := -behind, summer := summer? (-behind) rest }

/-- Zones that have a name alone, as they are kept now. -/
def known : List (String × String) :=
  [("EST", "EST5"), ("MST", "MST7"), ("HST", "HST10"),
   ("WET", "WET0WEST,M3.5.0/1,M10.5.0"), ("CET", "CET-1CEST,M3.5.0,M10.5.0/3"),
   ("MET", "MET-1MEST,M3.5.0,M10.5.0/3"), ("EET", "EET-2EEST,M3.5.0/3,M10.5.0/4"),
   ("Europe/London", "GMT0BST,M3.5.0/1,M10.5.0"), ("Europe/Dublin", "GMT0IST,M3.5.0/1,M10.5.0"),
   ("Europe/Lisbon", "WET0WEST,M3.5.0/1,M10.5.0"),
   ("Europe/Amsterdam", "CET-1CEST,M3.5.0,M10.5.0/3"),
   ("Europe/Berlin", "CET-1CEST,M3.5.0,M10.5.0/3"),
   ("Europe/Brussels", "CET-1CEST,M3.5.0,M10.5.0/3"),
   ("Europe/Madrid", "CET-1CEST,M3.5.0,M10.5.0/3"),
   ("Europe/Paris", "CET-1CEST,M3.5.0,M10.5.0/3"),
   ("Europe/Prague", "CET-1CEST,M3.5.0,M10.5.0/3"),
   ("Europe/Rome", "CET-1CEST,M3.5.0,M10.5.0/3"),
   ("Europe/Stockholm", "CET-1CEST,M3.5.0,M10.5.0/3"),
   ("Europe/Vienna", "CET-1CEST,M3.5.0,M10.5.0/3"),
   ("Europe/Warsaw", "CET-1CEST,M3.5.0,M10.5.0/3"),
   ("Europe/Zurich", "CET-1CEST,M3.5.0,M10.5.0/3"),
   ("Europe/Athens", "EET-2EEST,M3.5.0/3,M10.5.0/4"),
   ("Europe/Helsinki", "EET-2EEST,M3.5.0/3,M10.5.0/4"),
   ("Europe/Kiev", "EET-2EEST,M3.5.0/3,M10.5.0/4"),
   ("Europe/Istanbul", "<+03>-3"), ("Europe/Moscow", "MSK-3"),
   ("America/New_York", "EST5EDT"), ("US/Eastern", "EST5EDT"), ("America/Toronto", "EST5EDT"),
   ("America/Chicago", "CST6CDT"), ("US/Central", "CST6CDT"),
   ("America/Denver", "MST7MDT"), ("US/Mountain", "MST7MDT"), ("America/Phoenix", "MST7"),
   ("America/Los_Angeles", "PST8PDT"), ("US/Pacific", "PST8PDT"),
   ("America/Anchorage", "AKST9AKDT"), ("Pacific/Honolulu", "HST10"),
   ("America/Sao_Paulo", "<-03>3"), ("America/Argentina/Buenos_Aires", "<-03>3"),
   ("America/St_Johns", "NST3:30NDT"), ("America/Halifax", "AST4ADT"),
   ("Asia/Tokyo", "JST-9"), ("Asia/Seoul", "KST-9"), ("Asia/Shanghai", "CST-8"),
   ("Asia/Hong_Kong", "HKT-8"), ("Asia/Singapore", "<+08>-8"), ("Asia/Kolkata", "IST-5:30"),
   ("Asia/Calcutta", "IST-5:30"), ("Asia/Kathmandu", "<+0545>-5:45"), ("Asia/Dubai", "<+04>-4"),
   ("Australia/Sydney", "AEST-10AEDT,M10.1.0,M4.1.0/3"),
   ("Australia/Melbourne", "AEST-10AEDT,M10.1.0,M4.1.0/3"), ("Australia/Brisbane", "AEST-10"),
   ("Australia/Perth", "AWST-8"), ("Pacific/Auckland", "NZST-12NZDT,M9.5.0,M4.1.0/3"),
   ("Africa/Johannesburg", "SAST-2"), ("Africa/Lagos", "WAT-1")]

/-- The zone that a text names. A colon in front of it does not count, and a name that means nothing
is universal time. -/
def ofText (text : String) : Zone :=
  let text := (Text.stripPrefix? ":" text).getD text
  (spelled? ((known.lookup text).getD text)).getD {}

end Zone

end Scaffold
