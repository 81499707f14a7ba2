import Scaffold.Machine.Tool.Basic

/-!
# Fronts of files

`head` writes the first lines or bytes of files, or all but the last ones. Of input that cannot be
read again whole blocks are used up.
-/

namespace Scaffold

namespace Tool

/-! ### Counts with units -/

/-- What a unit letter multiplies by, in powers of its base. -/
def unitPower? : Char → Option Nat
  | 'k' => some 1
  | 'K' => some 1
  | 'M' => some 2
  | 'm' => some 2
  | 'G' => some 3
  | 'T' => some 4
  | 'P' => some 5
  | 'E' => some 6
  | 'Z' => some 7
  | 'Y' => some 8
  | 'R' => some 9
  | 'Q' => some 10
  | _ => none

/-- The factor that a unit stands for. -/
def unit? (cs : List Char) : Option Nat :=
  match cs with
  | [] => some 1
  | ['b'] => some 512
  | [c] => (unitPower? c).map (Nat.pow 1024)
  | [c, 'B'] => (unitPower? c).map (Nat.pow 1000)
  | [c, 'i', 'B'] => (unitPower? c).map (Nat.pow 1024)
  | _ => none

/-- A count: a decimal number with a unit. -/
def unitCount (s : String) : Except String Nat :=
  let inner := s.toList.dropWhile Integer.isSpace
  let inner := match inner with
    | '+' :: rest => rest
    | rest => rest
  let ds := inner.takeWhile Char.isDigit
  let n := (Integer.digits 10 0 ds).1
  let tooLarge := ": Value too large for defined data type"
  match unit? (inner.drop ds.length) with
  | none => .error ""
  | some factor =>
    if ds.isEmpty then .error ""
    else if n * factor ≥ 18446744073709551616 then .error tooLarge
    else .ok (n * factor)

namespace Head

/-- What is written of each file. -/
structure Settings where
  lines : Bool := true
  count : Nat := 10
  /-- All but the last ones are written. -/
  butLast : Bool := false
  quiet : Bool := false
  verbose : Bool := false
  ending : Char := '\n'
deriving Inhabited

/-- The options. -/
def grammar : Options.Grammar :=
  { short := Options.valued "cn" ++ Options.flags "qvz0123456789"
    long :=
      [("bytes", .required, "c"), ("lines", .required, "n"), ("quiet", .none, "q"),
       ("silent", .none, "q"), ("verbose", .none, "v"), ("zero-terminated", .none, "z"),
       ("help", .none, "help"), ("version", .none, "version")] }

/-- Set how much is written. -/
def measure (s : Settings) (lines : Bool) (text : String) : Tool Settings := do
  let (butLast, text) := match Text.stripPrefix? "-" text with
    | some rest => (true, rest)
    | none => (false, text)
  match unitCount text with
  | .ok count => return { s with lines, count, butLast }
  | .error more =>
    die 1 ("invalid number of " ++ (if lines then "lines" else "bytes") ++ ": " ++
      Quote.plain text ++ more)

/-- Apply an option. -/
def apply (s : Settings) (code : String) (argument : Option String) : Tool Settings :=
  match code with
  | "c" => measure s false (argument.getD "")
  | "n" => measure s true (argument.getD "")
  | "q" => return { s with quiet := true, verbose := false }
  | "v" => return { s with verbose := true, quiet := false }
  | "z" => return { s with ending := '\x00' }
  | digit => misuse 1 ("invalid trailing option -- " ++ digit)

/-- A count in front of all options, with letters behind it. -/
def old (s : Settings) (text : List Char) : Tool Settings := do
  let ds := text.takeWhile Char.isDigit
  let letters := text.drop ds.length
  let step (r : Settings × String × Bool) (c : Char) : Tool (Settings × String × Bool) :=
    let (s, unit, lines) := r
    match c with
    | 'c' => return (s, "", false)
    | 'b' => return (s, "b", false)
    | 'k' => return (s, "k", false)
    | 'm' => return (s, "m", false)
    | 'l' => return (s, unit, true)
    | 'q' => return ({ s with quiet := true, verbose := false }, unit, lines)
    | 'v' => return ({ s with verbose := true, quiet := false }, unit, lines)
    | 'z' => return ({ s with ending := '\x00' }, unit, lines)
    | c => misuse 1 ("invalid trailing option -- " ++ String.singleton c)
  let (s, unit, lines) ← letters.foldlM step (s, "", true)
  measure s lines (String.ofList ds ++ unit)

/-- How many bytes the first lines take. -/
def linesLength (ending : Char) : (count : Nat) → List Char → Nat
  | 0, _ => 0
  | _ + 1, [] => 0
  | count + 1, c :: cs =>
    if c == ending then linesLength ending count cs + 1
    else linesLength ending (count + 1) cs + 1

/-- How many bytes are written of a text. -/
def length (s : Settings) (cs : List Char) : Nat :=
  if s.lines then
    let complete := cs.count s.ending
    let all := if cs.isEmpty || cs.getLast? == some s.ending then complete else complete + 1
    linesLength s.ending (if s.butLast then all - s.count else s.count) cs
  else if s.butLast then cs.length - s.count
  else min s.count cs.length

/-- How much is read at once. -/
def blockSize : Nat := 8192

/-- Write the front of an open file. -/
def front (s : Settings) (k : Nat) : Tool (Except IoError Unit) := do
  if !s.lines && !s.butLast then
    match ← readOpened k (some s.count) with
    | .error e => return if s.count = 0 then .ok () else .error e
    | .ok bytes =>
      say (Octets.ofBytes bytes)
      return .ok ()
  else
    match ← peekOpened k with
    | .error e => return if s.count = 0 && !s.butLast then .ok () else .error e
    | .ok bytes =>
      let cs := Octets.chars bytes
      let used := length s cs
      let blocks := (used + blockSize - 1) / blockSize * blockSize
      let isEnough := !s.butLast && (cs.take used).count s.ending ≥ s.count
      let taken ←
        if ← isSeekable k then pure (some used)
        else pure (if isEnough then some (min blocks cs.length) else none)
      let _ ← readOpened k taken
      say (String.ofList (cs.take used))
      return .ok ()

/-- Write the fronts of files; the result says whether all could be read. -/
def each (s : Settings) (titled : Bool) : (isFirst ok : Bool) → List String → Tool Bool
  | _, ok, [] => return ok
  | isFirst, ok, name :: rest => do
    let shown := if name = "-" then "standard input" else name
    let title := (if isFirst then "" else "\n") ++ "==> " ++ shown ++ " <==\n"
    match ← if name = "-" then standardInput else openFile name .read with
    | .error e =>
      if name = "-" then
        if titled then say title
        complain ("error reading " ++ Quote.always shown ++ ": " ++ e.reason)
        each s titled (isFirst && !titled) false rest
      else
        complain ("cannot open " ++ Quote.always name ++ " for reading: " ++ e.reason)
        each s titled isFirst false rest
    | .ok k =>
      if titled then say title
      match ← front s k with
      | .ok () => each s titled false ok rest
      | .error e =>
        complain ("error reading " ++ Quote.always shown ++ ": " ++ e.reason)
        each s titled false false rest

end Head

/-- Write the first lines of files. -/
def head (args : List String) : Tool Nat := do
  let (settings, args) ← match args with
    | first :: rest =>
      match first.toList with
      | '-' :: c :: cs =>
        if c.isDigit then do pure (← Head.old {} (c :: cs), rest) else pure ({}, args)
      | _ => pure ({}, args)
    | [] => pure ({}, args)
  let line := Options.read Head.grammar args
  let settings ← eachOption 1 Head.apply line.steps settings
  let names := if line.operands.isEmpty then ["-"] else line.operands
  let titled := settings.verbose || (names.length > 1 && !settings.quiet)
  let ok ← Head.each settings titled true true names
  if names.contains "-" then
    if let .error e ← standardInput then
      die 1 ("-: " ++ e.reason)
  return if ok then 0 else 1

end Tool

end Scaffold
