import Scaffold.Machine.Tool.Head

/-!
# Counting

`wc` counts lines, words and bytes of files, and the width of the longest line. The columns are as
wide as the sizes of the files ask for, and at least seven where a size cannot be known.
-/

namespace Scaffold

namespace Tool

namespace Count

/-- What is counted. -/
structure Settings where
  lines : Bool := false
  words : Bool := false
  chars : Bool := false
  bytes : Bool := false
  longest : Bool := false
  /-- The file that has the names of the files. -/
  namesFrom : Option String := none
deriving Inhabited

/-- The counts of a text. -/
structure Tally where
  lines : Nat := 0
  words : Nat := 0
  bytes : Nat := 0
  longest : Nat := 0
deriving Inhabited

/-- Both counts together. -/
def Tally.add (a b : Tally) : Tally :=
  { lines := a.lines + b.lines
    words := a.words + b.words
    bytes := a.bytes + b.bytes
    longest := max a.longest b.longest }

/-- A place in a text: the counts so far, the column, and whether a word is open. -/
structure Place where
  tally : Tally := {}
  column : Nat := 0
  inWord : Bool := false
deriving Inhabited

/-- Go on with a byte. A word has at least one byte that can be shown. -/
def Place.step (p : Place) (c : Char) : Place :=
  let t := { p.tally with bytes := p.tally.bytes + 1 }
  let closed : Tally := if p.inWord then { t with words := t.words + 1 } else t
  let measured : Tally := { closed with longest := max closed.longest p.column }
  if c == '\n' then { tally := { measured with lines := measured.lines + 1 } }
  else if c == '\r' || c == '\x0c' then { tally := measured }
  else if c == '\t' then { tally := closed, column := p.column + (8 - p.column % 8) }
  else if c == ' ' then { tally := closed, column := p.column + 1 }
  else if c == '\x0b' then { tally := closed, column := p.column }
  else if Quote.isPrintable c then { tally := t, column := p.column + 1, inWord := true }
  else { p with tally := t }

/-- Count a text. -/
def tally (cs : List Char) : Tally :=
  let p := cs.foldl Place.step {}
  let t := p.tally
  { t with
    words := if p.inWord then t.words + 1 else t.words
    longest := max t.longest p.column }

/-- The options. -/
def grammar : Options.Grammar :=
  { short := Options.flags "clLmw"
    long :=
      [("bytes", .none, "c"), ("chars", .none, "m"), ("lines", .none, "l"), ("words", .none, "w"),
       ("files0-from", .required, "from"), ("max-line-length", .none, "L"),
       ("help", .none, "help"), ("version", .none, "version")] }

/-- Apply an option. -/
def apply (s : Settings) (code : String) (argument : Option String) : Tool Settings :=
  match code with
  | "c" => return { s with bytes := true }
  | "m" => return { s with chars := true }
  | "l" => return { s with lines := true }
  | "w" => return { s with words := true }
  | "L" => return { s with longest := true }
  | "from" => return { s with namesFrom := argument }
  | _ => return s

/-- The counts that are written. -/
def Settings.columns (s : Settings) (t : Tally) : List Nat :=
  (if s.lines then [t.lines] else []) ++ (if s.words then [t.words] else []) ++
  (if s.chars then [t.bytes] else []) ++ (if s.bytes then [t.bytes] else []) ++
  (if s.longest then [t.longest] else [])

/-- A number to the right of a column. -/
def rightAligned (width n : Nat) : String :=
  let s := toString n
  Text.repeated (width - s.length) " " ++ s

/-- A line of counts. -/
def report (s : Settings) (width : Nat) (t : Tally) (name : Option String) : String :=
  let columns := Text.join " " ((s.columns t).map (rightAligned width))
  columns ++ (match name with
    | some name => " " ++ name
    | none => "") ++ "\n"

/-- The size of a file if it is a plain one, `none` inside if that is not known; nothing where the
file cannot be looked at. -/
def sizeOf (name : String) : Tool (Option (Option Nat)) := do
  let plain : Item → Option Nat
    | .file content _ => some content.length
    | .tool name => some (Files.sizeOf (.tool name))
    | _ => none
  if name = "-" then
    match ← standardInput with
    | .error _ => return none
    | .ok k =>
      match ← streamOf k with
      | .file key => return some (some ((← get).machine.contentAt key).length)
      | _ => return some none
  else
    match ← item? name with
    | some item => return some (plain item)
    | none => return none

/-- How many digits a number has. -/
def digitCount (n : Nat) : Nat := (toString n).length

/-- The width of the columns for files that are known. -/
def width (s : Settings) (names : List String) : Tool Nat := do
  if names.isEmpty || (names.length = 1 && (s.columns {}).length = 1) then return 1
  let sizes ← names.mapM sizeOf
  let total := (sizes.filterMap fun z => z.bind id).foldl (· + ·) 0
  let least := if sizes.any (· == some none) then 7 else 1
  return max least (digitCount total)

/-- A name behind its counts; only one that would break the line is quoted. -/
def shownName (name : String) : String :=
  if Text.contains '\n' name then Quote.needed name else name

/-- Why a name cannot be that of a file, if so; `number` is its place among all names. -/
def refusal? (s : Settings) (number : Nat) (name : String) : Option String :=
  if s.namesFrom == some "-" && name = "-" then
    some ("when reading file names from stdin, no file name of '-' allowed")
  else if name.isEmpty then
    let place := match s.namesFrom with
      | some source => Quote.needed source ++ ":" ++ toString number ++ ": "
      | none => ""
    some (place ++ "invalid zero-length file name")
  else none

/-- Count files; the result has the total and whether all could be read. -/
def each (s : Settings) (width : Nat) (named : Bool) (number : Nat) :
    (total : Tally) → (ok : Bool) → List String → Tool (Tally × Bool)
  | total, ok, [] => return (total, ok)
  | total, ok, name :: rest => do
    let shown := if name = "-" && !named then "standard input" else name
    let write (t : Tally) : Tool Unit :=
      say (report s width t (if named then some (shownName name) else none))
    match refusal? s (number - rest.length) name with
    | some message =>
      complain message
      each s width named number total false rest
    | none =>
      match ← content name with
      | .ok text =>
        let t := tally text.toList
        write t
        each s width named number (total.add t) ok rest
      | .error e =>
        complain (Quote.needed shown ++ ": " ++ e.reason)
        if let .unread _ := e then write {}
        each s width named number total false rest

/-- The names in a file, each ended by a zero, and whether the file is known to end. -/
def listed (source : String) : Tool (List String × Bool) := do
  let opened ← if source = "-" then standardInput else openFile source .read
  match opened with
  | .error e =>
    if source = "-" then die 1 (Quote.needed source ++ ": read error: " ++ e.reason)
    else die 1 ("cannot open " ++ Quote.always source ++ " for reading: " ++ e.reason)
  | .ok k =>
    let isKnown ← isSeekable k
    match ← readOpened k none with
    | .error e => die 1 (Quote.needed source ++ ": read error: " ++ e.reason)
    | .ok bytes =>
      let text := Octets.ofBytes bytes
      let names := Text.split '\x00' text
      let isEnded := text.isEmpty || Text.endsWith "\x00" text
      return (if isEnded then names.dropLast else names, isKnown)

end Count

/-- Count lines, words and bytes. -/
def wc (args : List String) : Tool Nat := do
  let line := Options.read Count.grammar args
  let s ← eachOption 1 Count.apply line.steps {}
  let s := if (s.columns {}).isEmpty then { s with lines := true, words := true, bytes := true }
    else s
  let (names, isKnown) ← match s.namesFrom, line.operands with
    | none, [] => pure (["-"], true)
    | none, names => pure (names, true)
    | some source, [] => Count.listed source
    | some _, extra :: _ => do
      complain ("extra operand " ++ Quote.always extra)
      mutter "file operands cannot be combined with --files0-from"
      pointToHelp 1
  let named := s.namesFrom.isSome || !line.operands.isEmpty
  let width ← Count.width s (if isKnown then names else [])
  let (total, ok) ← Count.each s width named names.length {} true names
  if names.length > 1 then say (Count.report s width total (some "total"))
  if names.contains "-" then
    if let .error e ← standardInput then
      die 1 ("-: " ++ e.reason)
  return if ok then 0 else 1

end Tool

end Scaffold
