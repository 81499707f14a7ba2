import Scaffold.Machine.Moment
import Scaffold.Machine.Tool.Names

/-!
# Making directories and files

`mkdir` makes directories, possibly with all directories on the way; `touch` makes files that are
missing and sets the times of the others.
-/

namespace Scaffold

namespace Tool

/-! ### Directories -/

namespace MakeDir

/-- What is made, and what is told. -/
structure Settings where
  parents : Bool := false
  verbose : Bool := false
  mode : Option String := none
deriving Inhabited

/-- The options. -/
def grammar : Options.Grammar :=
  { short := Options.flags "pvZ" ++ Options.valued "m"
    long :=
      [("mode", .required, "m"), ("parents", .none, "p"), ("verbose", .none, "v"),
       ("context", .optional, "Z"), ("help", .none, "help"), ("version", .none, "version")] }

/-- Apply an option. -/
def apply (s : Settings) (code : String) (argument : Option String) : Tool Settings :=
  match code with
  | "p" => return { s with parents := true }
  | "v" => return { s with verbose := true }
  | "m" => return { s with mode := argument }
  | _ => return s

/-- Whether a clause of a mode is well formed: who, then how and what, at least once. -/
def isClause (clause : String) : Bool :=
  let isHow (c : Char) : Bool := c == '+' || c == '-' || c == '='
  let actions := clause.toList.dropWhile fun c => "ugoa".toList.contains c
  match actions with
  | [] => false
  | c :: rest => isHow c && rest.all fun c => isHow c || "rwxXstugo01234567".toList.contains c

/-- Whether a mode is well formed: octal digits, or clauses. -/
def isMode (mode : String) : Bool :=
  if !mode.isEmpty && mode.toList.all fun c => (Integer.digit? 8 c).isSome then
    (Integer.digits 8 0 mode.toList).1 ≤ 4095
  else (Text.split ',' mode).all isClause

/-- Fail to make a directory. -/
def failed (path reason : String) : Tool Bool := do
  complain ("cannot create directory " ++ Quote.always path ++ ": " ++ reason)
  return false

/-- Make a directory at a place, and tell so. -/
def make (s : Settings) (path key : String) : Tool Unit := do
  setFiles ((← files).put key .directory)
  if s.verbose then
    say ((← get).process.name ++ ": created directory " ++ Quote.always path ++ "\n")

/-- Make one directory. -/
def single (s : Settings) (path : String) : Tool Bool := do
  match ← find (if path.isEmpty then path else withoutSlashes path) false with
  | .error e => failed path e.reason
  | .ok { item := some _, .. } => failed path "File exists"
  | .ok place =>
    make s path place.key
    return true

/-- The ends of the parts of a path, without the last. -/
def fronts : (before : List Char) → List Char → List String
  | _, [] => []
  | before, '/' :: cs =>
    if before.isEmpty || before.head? == some '/' then fronts ('/' :: before) cs
    else if cs.all (· == '/') then []
    else String.ofList before.reverse :: fronts ('/' :: before) cs
  | before, c :: cs => fronts (c :: before) cs

/-- Make the directories on the way. -/
def onTheWay (s : Settings) : List String → Tool Bool
  | [] => return true
  | path :: rest => do
    match ← find path false with
    | .error e => failed path e.reason
    | .ok { item := none, key } =>
      make s path key
      onTheWay s rest
    | .ok _ =>
      match ← find path true with
      | .ok { item := some .directory, .. } => onTheWay s rest
      | .ok { item := some _, .. } => failed path "Not a directory"
      | .ok { item := none, .. } => failed path "File exists"
      | .error .noEntry => failed path "File exists"
      | .error e => failed path e.reason

/-- Make a directory and all on the way. -/
def withParents (s : Settings) (path : String) : Tool Bool := do
  if ← onTheWay s (fronts [] path.toList) then
    if ← isDir path then return true else single s path
  else return false

end MakeDir

/-- Make directories. -/
def mkdir (args : List String) : Tool Nat := do
  let line := Options.read MakeDir.grammar args
  let s ← eachOption 1 MakeDir.apply line.steps {}
  if line.operands.isEmpty then misuse 1 "missing operand"
  if let some mode := s.mode then
    if !MakeDir.isMode mode then die 1 ("invalid mode " ++ Quote.plain mode)
  let made ← line.operands.mapM fun path =>
    if s.parents then MakeDir.withParents s path else MakeDir.single s path
  return if made.all id then 0 else 1

/-! ### Times -/

namespace Touch

/-- The number that digits are. -/
def number (cs : List Char) : Nat := (Integer.digits 10 0 cs).1

/-- A local time written as digits: month, day, hour and minute, possibly with a year in front and
seconds behind a point. -/
def stamp? (here : Zone) (text : String) : Option Int :=
  let cs := text.toList
  let ds := cs.takeWhile Char.isDigit
  let second? : Option Nat := match cs.drop ds.length with
    | [] => some 0
    | ['.', a, b] => if a.isDigit && b.isDigit then some (number [a, b]) else none
    | _ => none
  let year? : Option Nat :=
    if ds.length = 8 then some 2026
    else if ds.length = 10 then
      let y := number (ds.take 2)
      some (if y ≥ 69 then 1900 + y else 2000 + y)
    else if ds.length = 12 then some (number (ds.take 4))
    else none
  match second?, year? with
  | some second, some year =>
    let rest := ds.drop (ds.length - 8)
    let part (i : Nat) : Nat := number ((rest.drop i).take 2)
    let date : Calendar := { year, month := part 0, day := part 2 }
    if date.isReal && part 4 ≤ 23 && part 6 ≤ 59 && second ≤ 60 then
      (here.instant? (secondsOf date (part 4) (part 6) 0)).map fun n => (n + second) * Files.tick
    else none
  | _, _ => none

/-- What is touched, and with which time. -/
structure Settings where
  create : Bool := true
  follow : Bool := true
  /-- Which of the two times are set; if neither is named, both are. -/
  access : Bool := false
  change : Bool := false
  date : Option String := none
  stamp : Option Int := none
  reference : Option String := none
deriving Inhabited

/-- The options. -/
def grammar : Options.Grammar :=
  { short := Options.flags "acfhm" ++ Options.valued "drt"
    long :=
      [("time", .required, "time"), ("no-create", .none, "c"), ("date", .required, "d"),
       ("reference", .required, "r"), ("no-dereference", .none, "h"), ("help", .none, "help"),
       ("version", .none, "version")] }

/-- The names of the two times. -/
def times : List (List String) := [["atime", "access", "use"], ["mtime", "modify"]]

/-- The zone that the environment names. -/
def zone : Tool Zone := do
  return (((← get).process.environment.get? "TZ").map Zone.ofText).getD {}

/-- Apply an option. -/
def apply (s : Settings) (code : String) (argument : Option String) : Tool Settings := do
  let text := argument.getD ""
  match code with
  | "a" => return { s with access := true }
  | "m" => return { s with change := true }
  | "c" => return { s with create := false }
  | "h" => return { s with follow := false }
  | "d" => return { s with date := argument }
  | "r" => return { s with reference := argument }
  | "t" =>
    match stamp? (← zone) text with
    | some time => return { s with stamp := some time }
    | none => die 1 ("invalid date format " ++ Quote.plain text)
  | "time" => do
    match ← choose "--time" times text with
    | ["mtime", "modify"] => return { s with change := true }
    | _ => return { s with access := true }
  | _ => return s

/-- The time that is set. -/
def timeOf (s : Settings) : Tool Int := do
  let base ← match s.reference with
    | none => pure none
    | some name =>
      match ← find name s.follow with
      | .ok { item := some _, key } => pure (some ((← files).stamp key))
      | .ok _ =>
        die 1
          ("failed to get attributes of " ++ Quote.always name ++ ": " ++ IoError.noEntry.reason)
      | .error e => die 1 ("failed to get attributes of " ++ Quote.always name ++ ": " ++ e.reason)
  match s.date with
  | some text =>
    match Moment.read? (← zone) (base.getD Files.changeTime) text with
    | some time => return time
    | none => die 1 ("invalid date format " ++ Quote.plain text)
  | none => return (base <|> s.stamp).getD Files.changeTime

/-- Touch one file. -/
def one (s : Settings) (time : Int) (path : String) : Tool Bool := do
  let failed (what reason : String) : Tool Bool := do
    complain (what ++ " " ++ Quote.always path ++ ": " ++ reason)
    return false
  let slashed := Text.endsWith "/" path
  let isSet := s.change || !s.access
  match ← find path s.follow with
  | .ok { item := some _, key } =>
    if isSet then setFiles ((← files).setStamp key time)
    return true
  | .ok { item := none, key } =>
    if !s.create then return true
    else if slashed || !s.follow then failed "setting times of" IoError.noEntry.reason
    else
      let made := (← files).store key []
      setFiles (if isSet then made.setStamp key time else made)
      return true
  | .error e =>
    let bare := String.ofList (path.toList.reverse.dropWhile (· == '/')).reverse
    let isPlaced ← match ← find bare false with
      | .ok _ => pure slashed
      | .error _ => pure false
    if !s.create && e = .noEntry then return true
    else if !s.create || !s.follow || isPlaced then failed "setting times of" e.reason
    else failed "cannot touch" e.reason

end Touch

/-- Make files that are missing, and set the times of the others. -/
def touch (args : List String) : Tool Nat := do
  let line := Options.read Touch.grammar args
  let s ← eachOption 1 Touch.apply line.steps {}
  if s.stamp.isSome && (s.date.isSome || s.reference.isSome) then
    misuse 1 "cannot specify times from more than one source"
  let time ← Touch.timeOf s
  if line.operands.isEmpty then misuse 1 "missing file operand"
  let touched ← line.operands.mapM fun path =>
    if path = "-" then return true else Touch.one s time path
  return if touched.all id then 0 else 1

end Tool

end Scaffold
