import Scaffold.Machine.Zone

/-!
# Moments as people write them

`Moment.read?` reads a date and a time of day in any of the usual notations, with names of months,
days and zones, and with shifts such as `3 days ago` from a moment that is handed in. The text is
split into tokens first; then items are taken from their front, each as long as the tokens allow.
Moments are in billionths of a second.
-/

namespace Scaffold

namespace Moment

/-- Parts of a second. -/
def tick : Int := 1000000000

/-! ### Tokens -/

/-- A unit of time. -/
inductive TimeUnit where
  | year
  | month
  | day
  | hour
  | minute
  | second
deriving DecidableEq, Repr, Inhabited

/-- A token. A number has its count of digits, and a sign or none. -/
inductive Token where
  | number (value : Int) (digits : Nat) (signed : Bool)
  /-- A number with a fraction, in billionths. -/
  | fraction (value : Int) (signed : Bool)
  | meridian (isAfternoon : Bool)
  | month (n : Int)
  | day (n : Int)
  /-- A zone, by how far it is ahead. -/
  | zone (seconds : Int)
  | summerZone (seconds : Int)
  /-- The zone of the place. -/
  | here
  | summer
  | unit (u : TimeUnit) (count : Int)
  | shift (days : Int)
  | ordinal (n : Int)
  | ago (factor : Int)
  /-- The letter between a date and a time of day, which is also a zone. -/
  | letter
  | symbol (c : Char)
  | unknown
deriving DecidableEq, Repr, Inhabited

/-- Names of months and days. -/
def names : List (String × Token) :=
  [("JANUARY", .month 1), ("FEBRUARY", .month 2), ("MARCH", .month 3), ("APRIL", .month 4),
   ("MAY", .month 5), ("JUNE", .month 6), ("JULY", .month 7), ("AUGUST", .month 8),
   ("SEPTEMBER", .month 9), ("SEPT", .month 9), ("OCTOBER", .month 10), ("NOVEMBER", .month 11),
   ("DECEMBER", .month 12), ("SUNDAY", .day 0), ("MONDAY", .day 1), ("TUESDAY", .day 2),
   ("TUES", .day 2), ("WEDNESDAY", .day 3), ("WEDNES", .day 3), ("THURSDAY", .day 4),
   ("THUR", .day 4), ("THURS", .day 4), ("FRIDAY", .day 5), ("SATURDAY", .day 6)]

/-- Zones with the minutes that they are ahead, and whether they are kept in summer. -/
def zones : List (String × Int × Bool) :=
  [("GMT", 0, false), ("UT", 0, false), ("UTC", 0, false), ("WET", 0, false), ("WEST", 0, true),
   ("BST", 0, true), ("ART", -180, false), ("BRT", -180, false), ("BRST", -180, true),
   ("NST", -210, false), ("NDT", -210, true), ("AST", -240, false), ("ADT", -240, true),
   ("CLT", -240, false), ("CLST", -240, true), ("EST", -300, false), ("EDT", -300, true),
   ("CST", -360, false), ("CDT", -360, true), ("MST", -420, false), ("MDT", -420, true),
   ("PST", -480, false), ("PDT", -480, true), ("AKST", -540, false), ("AKDT", -540, true),
   ("HST", -600, false), ("HAST", -600, false), ("HADT", -600, true), ("SST", -720, false),
   ("WAT", 60, false), ("CET", 60, false), ("CEST", 60, true), ("MET", 60, false),
   ("MEZ", 60, false), ("MEST", 60, true), ("MESZ", 60, true), ("EET", 120, false),
   ("EEST", 120, true), ("CAT", 120, false), ("SAST", 120, false), ("EAT", 180, false),
   ("MSK", 180, false), ("MSD", 180, true), ("IST", 330, false), ("SGT", 480, false),
   ("KST", 540, false), ("JST", 540, false), ("GST", 600, false), ("NZST", 720, false),
   ("NZDT", 720, true)]

/-- The token of a zone. The names of universal time come first, then those of local time. -/
def zone? (here : Zone) (word : String) : Option Token :=
  let common := (zones.lookup word).map fun (minutes, isSummer) =>
    if isSummer then Token.summerZone (minutes * 60) else Token.zone (minutes * 60)
  let isUniversal := ["GMT", "UT", "UTC"].contains word
  if isUniversal then common else (here.names.lookup word).map Token.zone <|> common

/-- The token of a unit. -/
def unit? (word : String) : Option Token :=
  List.lookup word
    [("YEAR", .unit .year 1), ("MONTH", .unit .month 1), ("FORTNIGHT", .unit .day 14),
     ("WEEK", .unit .day 7), ("DAY", .unit .day 1), ("HOUR", .unit .hour 1),
     ("MINUTE", .unit .minute 1), ("MIN", .unit .minute 1), ("SECOND", .unit .second 1),
     ("SEC", .unit .second 1)]

/-- The token of a word that counts or shifts. -/
def shift? (word : String) : Option Token :=
  List.lookup word
    [("TOMORROW", .shift 1), ("YESTERDAY", .shift (-1)), ("TODAY", .shift 0), ("NOW", .shift 0),
     ("LAST", .ordinal (-1)), ("THIS", .ordinal 0), ("NEXT", .ordinal 1), ("FIRST", .ordinal 1),
     ("THIRD", .ordinal 3), ("FOURTH", .ordinal 4), ("FIFTH", .ordinal 5), ("SIXTH", .ordinal 6),
     ("SEVENTH", .ordinal 7), ("EIGHTH", .ordinal 8), ("NINTH", .ordinal 9),
     ("TENTH", .ordinal 10), ("ELEVENTH", .ordinal 11), ("TWELFTH", .ordinal 12),
     ("AGO", .ago (-1)), ("HENCE", .ago 1)]

/-- The token of a single letter: a zone by its hours, from `A` on ahead and from `N` on behind. -/
def letter? (word : String) : Option Token :=
  match word.toList with
  | ['T'] => some .letter
  | ['J'] => some .here
  | ['Z'] => some (.zone 0)
  | [c] =>
    let n : Int := c.toNat
    if 'A' ≤ c && c ≤ 'I' then some (.zone ((n - 64) * 3600))
    else if 'K' ≤ c && c ≤ 'M' then some (.zone ((n - 65) * 3600))
    else if 'N' ≤ c && c ≤ 'Y' then some (.zone ((77 - n) * 3600))
    else none
  | _ => none

/-- The token of a word in capitals. -/
def wordToken (here : Zone) (word : String) : Token :=
  let isShort := word.length = 3 || (word.length = 4 && Text.endsWith "." word)
  let short (name : String) : String := String.ofList (name.toList.take 3)
  let name? : Option Token :=
    (names.find? fun e => if isShort then short word == short e.1 else word == e.1).map Prod.snd
  let half? : Option Token :=
    List.lookup word
      [("AM", .meridian false), ("A.M.", .meridian false), ("PM", .meridian true),
       ("P.M.", .meridian true)]
  let summer? : Option Token := if word = "DST" then some .summer else none
  let plural? : Option Token := (Text.stripSuffix? "S" word).bind unit?
  let dotless := String.ofList (word.toList.filter (· != '.'))
  let found := half? <|> name? <|> zone? here word <|> summer? <|> unit? word <|> plural? <|>
    shift? word <|> letter? word <|> (if dotless = word then none else zone? here dotless)
  found.getD .unknown

/-- How many letters of a word count. -/
def wordLimit : Nat := 19

/-- A number at the start of a text, with its sign if there is one. -/
def numberToken (sign : Option Bool) (cs : List Char) : Token × List Char :=
  let whole := cs.takeWhile Char.isDigit
  let rest := cs.drop whole.length
  let isNegative := sign == some true
  let value : Int := (Integer.digits 10 0 whole).1
  let signedValue := if isNegative then -value else value
  if signedValue < Integer.smallest || signedValue > Integer.largest then (.unknown, rest)
  else
    let plain := (Token.number signedValue whole.length sign.isSome, rest)
    match rest with
    | c :: d :: more =>
      if (c == '.' || c == ',') && d.isDigit then
        let part := (d :: more).takeWhile Char.isDigit
        let behind := (d :: more).drop part.length
        let padded := (part ++ List.replicate 9 '0').take 9
        let parts : Int := (Integer.digits 10 0 padded).1
        let isInexact := isNegative && (part.drop 9).any (· != '0')
        let parts := if isInexact then parts + 1 else parts
        let total := value * tick + parts
        (.fraction (if isNegative then -total else total) sign.isSome, behind)
      else plain
    | _ => plain

/-- What stands behind a remark in parentheses, which may have others in it; nothing if it does not
end. -/
def behindRemark : (depth : Nat) → List Char → List Char
  | _, [] => []
  | depth, '(' :: cs => behindRemark (depth + 1) cs
  | depth, ')' :: cs => if depth ≤ 1 then cs else behindRemark (depth - 1) cs
  | depth, _ :: cs => behindRemark depth cs

/-- The tokens of a text. -/
def tokens (here : Zone) : (fuel : Nat) → List Char → List Token
  | 0, _ => []
  | _ + 1, [] => []
  | fuel + 1, c :: cs =>
    if Integer.isSpace c then tokens here fuel cs
    else if c.isDigit then
      let (t, rest) := numberToken none (c :: cs)
      t :: tokens here fuel rest
    else if c == '-' || c == '+' then
      let inner := cs.dropWhile Integer.isSpace
      if inner.head?.any Char.isDigit then
        let (t, rest) := numberToken (some (c == '-')) inner
        t :: tokens here fuel rest
      else tokens here fuel inner
    else if c.isAlpha then
      let word := (c :: cs).takeWhile fun c => c.isAlpha || c == '.'
      let known := (word.take wordLimit).map Char.toUpper
      wordToken here (String.ofList known) :: tokens here fuel ((c :: cs).drop word.length)
    else if c == '(' then tokens here fuel (behindRemark 1 cs)
    else .symbol c :: tokens here fuel cs

/-! ### Items -/

/-- A shift by units. -/
structure Shift where
  years : Int := 0
  months : Int := 0
  days : Int := 0
  /-- Everything shorter than a day, in billionths of a second. -/
  parts : Int := 0
deriving DecidableEq, Repr, Inhabited

/-- The shift by so many units. -/
def Shift.ofUnit (u : TimeUnit) (n : Int) : Shift :=
  match u with
  | .year => { years := n }
  | .month => { months := n }
  | .day => { days := n }
  | .hour => { parts := n * 3600 * tick }
  | .minute => { parts := n * 60 * tick }
  | .second => { parts := n * tick }

/-- Two shifts together, the second one so many times. -/
def Shift.plus (a b : Shift) (factor : Int) : Shift :=
  { years := a.years + factor * b.years
    months := a.months + factor * b.months
    days := a.days + factor * b.days
    parts := a.parts + factor * b.parts }

/-- What was read so far. Counts say how often something was given. -/
structure Reading where
  year : Int
  /-- How many digits the year was given with; none if it was not. -/
  yearDigits : Nat := 0
  month : Int
  day : Int
  hour : Int
  minute : Int
  /-- The seconds, in billionths. -/
  second : Int
  /-- Whether the hour is one of the afternoon, on a clock of twelve hours. -/
  isAfternoon : Option Bool := none
  weekday : Int := 0
  ordinal : Int := 0
  zone : Int := 0
  shift : Shift := {}
  isShifted : Bool := false
  dates : Nat := 0
  times : Nat := 0
  days : Nat := 0
  zones : Nat := 0
  localZones : Nat := 0
deriving Inhabited

namespace Reading

/-- Add a shift. -/
def shifted (r : Reading) (s : Shift) (factor : Int) : Reading :=
  { r with shift := r.shift.plus s factor, isShifted := true }

/-- Set the date. -/
def dated (r : Reading) (month day : Int) : Reading :=
  { r with month, day, dates := r.dates + 1 }

/-- Set the year. -/
def inYear (r : Reading) (year : Int) (digits : Nat) : Reading :=
  { r with year, yearDigits := digits }

/-- Set the time of day. -/
def timed (r : Reading) (hour minute second : Int) (isAfternoon : Option Bool) : Reading :=
  { r with hour, minute, second, isAfternoon, times := r.times + 1 }

/-- Set the zone by a number of hours, or of hours and minutes; the minutes may be given apart. -/
def zoned? (r : Reading) (base value : Int) (digits : Nat) (minutes : Option Int) :
    Option Reading :=
  let total := match minutes with
    | some m => value * 60 + (if value < 0 then -m else m)
    | none =>
      let value := if digits ≤ 2 then value * 100 else value
      Int.tdiv value 100 * 60 + Int.tmod value 100
  if -1440 ≤ total && total ≤ 1440 then
    some { r with zone := base + total * 60, zones := r.zones + 1 }
  else none

/-- Digits alone: a year behind a date, or else a date or a time of day. -/
def digits (r : Reading) (value : Int) (count : Nat) : Reading :=
  if r.dates > 0 && r.yearDigits = 0 && !r.isShifted && (r.times > 0 || count > 2) then
    r.inYear value count
  else if count > 4 then
    (r.inYear (value / 10000) (count - 4)).dated (value / 100 % 100) (value % 100)
  else if count ≤ 2 then r.timed value 0 0 none
  else r.timed (value / 100) (value % 100) 0 none

end Reading

/-- What is read, and what is left. -/
abbrev Step := Option (Reading × List Token)

/-- Minutes behind a colon, where they are. -/
def colonMinutes? : List Token → Option (Option Int × List Token)
  | .symbol ':' :: .number m _ false :: rest => some (some m, rest)
  | .symbol ':' :: _ => none
  | rest => some (none, rest)

/-- A zone by its number behind a time of day, if there is one. -/
def offset (r : Reading) : List Token → Step
  | .number v d true :: rest => do
    let (minutes, rest) ← colonMinutes? rest
    return (← r.zoned? 0 v d minutes, rest)
  | rest => some (r, rest)

/-- A time of day behind its hour. `clock` says that it may be on a clock of twelve hours. -/
def clockTime (r : Reading) (hour : Int) (clock : Bool) : List Token → Step
  | .symbol ':' :: .number minute _ false :: rest => do
    let (second, rest) ← match rest with
      | .symbol ':' :: .number s _ false :: rest => some (s * tick, rest)
      | .symbol ':' :: .fraction s false :: rest => some (s, rest)
      | .symbol ':' :: _ => none
      | rest => some (0, rest)
    match rest with
    | .meridian pm :: rest =>
      if clock then return (r.timed hour minute second (some pm), rest) else none
    | rest => offset (r.timed hour minute second none) rest
  | .number v d true :: rest => offset (r.timed hour 0 0 none) (.number v d true :: rest)
  | _ => none

/-- A shift, which may be turned around by the next token. -/
def relative (r : Reading) (s : Shift) : List Token → Step
  | .ago factor :: rest => some (r.shifted s factor, rest)
  | rest => some (r.shifted s 1, rest)

/-- What starts with a number without a sign. -/
def numberItem (r : Reading) (n : Int) (digits : Nat) (rest : List Token) : Step :=
  match rest with
  | .number a _ true :: .number b _ true :: rest =>
    let r := (r.inYear n digits).dated (-a) (-b)
    match rest with
    | .letter :: .number hour _ false :: rest => clockTime r hour false rest
    | .letter :: _ => none
    | rest => some (r, rest)
  | .number a _ true :: .unit u count :: rest =>
    some ((r.digits n digits).shifted (.ofUnit u (a * count)) 1, rest)
  | .number _ _ true :: _ => clockTime r n true rest
  | .symbol ':' :: _ => clockTime r n true rest
  | .symbol '/' :: .number b _ false :: .symbol '/' :: .number c cd false :: rest =>
    if digits ≥ 4 then some ((r.inYear n digits).dated b c, rest)
    else some ((r.inYear c cd).dated n b, rest)
  | .symbol '/' :: .number _ _ false :: .symbol '/' :: _ => none
  | .symbol '/' :: .number b _ false :: rest => some (r.dated n b, rest)
  | .month m :: .number y yd true :: rest => some ((r.inYear (-y) yd).dated m n, rest)
  | .month m :: .number y yd false :: rest => some ((r.inYear y yd).dated m n, rest)
  | .month m :: rest => some (r.dated m n, rest)
  | .day d :: rest => some ({ r with ordinal := n, weekday := d, days := r.days + 1 }, rest)
  | .meridian pm :: rest => some (r.timed n 0 0 (some pm), rest)
  | .unit u count :: rest => relative r (.ofUnit u (n * count)) rest
  | rest => some (r.digits n digits, rest)

/-- Take one item from the front. -/
def item (r : Reading) : List Token → Step
  | .number n digits false :: rest => numberItem r n digits rest
  | .number n _ true :: .unit u count :: rest => relative r (.ofUnit u (n * count)) rest
  | .fraction n _ :: .unit .second _ :: rest => relative r { parts := n } rest
  | .month m :: .number d _ true :: .number y yd true :: rest =>
    some ((r.inYear (-y) yd).dated m (-d), rest)
  | .month m :: .number d _ false :: .symbol ',' :: .number y yd false :: rest =>
    some ((r.inYear y yd).dated m d, rest)
  | .month _ :: .number _ _ false :: .symbol ',' :: _ => none
  | .month m :: .number d _ false :: rest => some (r.dated m d, rest)
  | .day d :: .symbol ',' :: rest =>
    some ({ r with ordinal := 0, weekday := d, days := r.days + 1 }, rest)
  | .day d :: rest => some ({ r with ordinal := 0, weekday := d, days := r.days + 1 }, rest)
  | .ordinal n :: .day d :: rest =>
    some ({ r with ordinal := n, weekday := d, days := r.days + 1 }, rest)
  | .ordinal n :: .unit u count :: rest => relative r (.ofUnit u (n * count)) rest
  | .unit u count :: rest => relative r (.ofUnit u count) rest
  | .shift days :: rest => some (r.shifted { days } 1, rest)
  | .zone z :: .number n _ true :: .unit u count :: rest =>
    some (({ r with zone := z, zones := r.zones + 1 }).shifted (.ofUnit u (n * count)) 1, rest)
  | .zone z :: .number v d true :: rest => do
    let (minutes, rest) ← colonMinutes? rest
    return (← r.zoned? z v d minutes, rest)
  | .zone z :: .summer :: rest => some ({ r with zone := z + 3600, zones := r.zones + 1 }, rest)
  | .zone z :: rest => some ({ r with zone := z, zones := r.zones + 1 }, rest)
  | .summerZone z :: rest => some ({ r with zone := z + 3600, zones := r.zones + 1 }, rest)
  | .here :: rest => some ({ r with localZones := r.localZones + 1 }, rest)
  | .letter :: .number n _ true :: .unit u count :: rest =>
    some (({ r with zone := -25200, zones := r.zones + 1 }).shifted (.ofUnit u (n * count)) 1, rest)
  | .letter :: .number _ _ true :: _ => none
  | .letter :: rest => some ({ r with zone := -25200, zones := r.zones + 1 }, rest)
  | _ => none

/-- Take all items. -/
def items : (fuel : Nat) → Reading → List Token → Option Reading
  | _, r, [] => some r
  | 0, _, _ => none
  | fuel + 1, r, ts => (item r ts).bind fun (r, rest) => items fuel r rest

/-! ### Moments -/

/-- The hour of the day. -/
def Reading.hour? (r : Reading) : Option Int :=
  match r.isAfternoon with
  | none => if 0 ≤ r.hour && r.hour < 24 then some r.hour else none
  | some pm =>
    if 1 ≤ r.hour && r.hour ≤ 12 then some (r.hour % 12 + if pm then 12 else 0) else none

/-- The year: two digits are one of the years from 1969 to 2068. -/
def Reading.fullYear (r : Reading) : Int :=
  if r.yearDigits = 2 && 0 ≤ r.year then
    if r.year < 69 then r.year + 2000 else r.year + 1900
  else if r.year < 0 then -r.year
  else r.year

/-- The moment that was read, in local time if no zone was given. A time that local time leaves out
is none. -/
def Reading.moment? (r : Reading) (here : Zone) : Option Int := do
  if r.dates > 1 || r.times > 1 || r.days > 1 || r.zones + r.localZones > 1 then none
  let hasTime := r.times > 0 || (r.isShifted && r.dates = 0 && r.days = 0)
  let hour ← if hasTime then r.hour? else some 0
  let minute := if hasTime then r.minute else 0
  let second := if hasTime then r.second else 0
  let date : Calendar := { year := r.fullYear, month := r.month, day := r.day }
  if !date.isReal || minute < 0 || minute > 59 || second < 0 || second ≥ 60 * tick then none
  let today := date.dayNumber
  let isToday := Calendar.weekday today == r.weekday
  let ordinal := if r.ordinal > 0 && !isToday then r.ordinal - 1 else r.ordinal
  let ahead' := Int.fmod (r.weekday - Calendar.weekday today) 7 + ordinal * 7
  let day := if r.days > 0 && r.dates = 0 then today + ahead' else today
  let start := Calendar.ofDayNumber day
  let goal : Calendar :=
    { year := start.year + r.shift.years
      month := start.month + r.shift.months
      day := start.day + r.shift.days }
  let given := secondsOf date hour minute 0
  let meant := secondsOf goal hour minute 0
  let seconds ←
    if r.zones > 0 then some (meant - r.zone)
    else if (here.instant? given).isNone then none
    else some ((here.instant? meant).getD (meant - here.aheadAt meant))
  return seconds * tick + second + r.shift.parts

/-- A zone at the start of a text, as the environment names it, and the rest. -/
def zonePrefix? (cs : List Char) : Option (Zone × List Char) := do
  let body ← Chars.stripPrefix? "TZ=\"".toList cs
  let inside := body.takeWhile (· != '"')
  if inside.length = body.length then none
  return (.ofText (String.ofList inside), body.drop (inside.length + 1))

/-- The moment that a text names, seen from another one at some place. -/
def read? (here : Zone) (now : Int) (text : String) : Option Int := do
  let cs := text.toList.dropWhile Integer.isSpace
  let (here, cs) := (zonePrefix? cs).getD (here, cs)
  let cs := cs.dropWhile Integer.isSpace
  let ts := tokens here (cs.length + 1) (if cs.isEmpty then ['0'] else cs)
  match ts with
  | [.symbol '@', .number n _ _] => return n * tick
  | [.symbol '@', .fraction n _] => return n
  | ts =>
    let seconds := Int.fdiv now tick
    let time := seconds + here.aheadAt seconds
    let today := Calendar.ofDayNumber (Int.fdiv time 86400)
    let ofDay := Int.fmod time 86400
    let r ← items (ts.length + 1)
      { year := today.year
        month := today.month
        day := today.day
        hour := ofDay / 3600
        minute := ofDay / 60 % 60
        second := ofDay % 60 * tick + Int.fmod now tick } ts
    r.moment? here

end Moment

end Scaffold
