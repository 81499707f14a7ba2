import Scaffold.Machine.Tool.Head
import Scaffold.Machine.Tool.Search.Palette

/-!
# How lines are searched

The options of a search: which patterns there are and how they are read, which files are searched,
and what is shown of the lines that are found.
-/

namespace Scaffold

namespace Tool

namespace Search

/-- What is done with directories. -/
inductive Directories where
  | read
  | skip
  | recurse
deriving DecidableEq, Repr, Inhabited

/-- How is searched, and what is shown. -/
structure Settings where
  /-- The kind of patterns: `E`, `F`, `G` or `P`. -/
  kind : Option String := none
  patterns : Option (List String) := none
  ignoreCase : Bool := false
  invert : Bool := false
  words : Bool := false
  whole : Bool := false
  counts : Bool := false
  /-- Only names are shown: of files with a match, or without. -/
  list : Option Bool := none
  quiet : Bool := false
  silent : Bool := false
  names : Option Bool := none
  numbers : Bool := false
  offsets : Bool := false
  only : Bool := false
  text : Bool := false
  skipBinary : Bool := false
  limit : Option Nat := none
  before : Option Nat := none
  after : Option Nat := none
  around : Option Nat := none
  directories : Directories := .read
  follow : Bool := false
  separator : Option String := some "--"
  label : String := "(standard input)"
  nulls : Bool := false
  zero : Bool := false
  tab : Bool := false
  /-- Patterns for the names of files, which are searched or left out. -/
  rules : List (Bool × String) := []
  excludedDirs : List String := []
  /-- Whether matches and what stands in front of lines are coloured. -/
  coloured : Bool := false
  showsHelp : Bool := false
  showsVersion : Bool := false
deriving Inhabited

/-- The options. -/
def grammar : Options.Grammar :=
  { short :=
      Options.flags "EFGPHILTUVZabchilLnoqRrsuvwxyz0123456789" ++ Options.valued "ABCDXdefm"
    long :=
      [("basic-regexp", .none, "G"), ("extended-regexp", .none, "E"), ("fixed-regexp", .none, "F"),
       ("fixed-strings", .none, "F"), ("perl-regexp", .none, "P"),
       ("after-context", .required, "A"),
       ("before-context", .required, "B"), ("binary-files", .required, "binary-files"),
       ("binary", .none, "U"), ("byte-offset", .none, "b"), ("context", .required, "C"),
       ("color", .optional, "color"), ("colour", .optional, "color"), ("count", .none, "c"),
       ("devices", .required, "D"), ("directories", .required, "d"),
       ("exclude", .required, "exclude"), ("exclude-from", .required, "exclude-from"),
       ("exclude-dir", .required, "exclude-dir"), ("file", .required, "f"),
       ("files-with-matches", .none, "l"), ("files-without-match", .none, "L"),
       ("group-separator", .required, "separator"), ("help", .none, "help"),
       ("include", .required, "include"), ("ignore-case", .none, "i"),
       ("no-ignore-case", .none, "no-ignore-case"), ("initial-tab", .none, "T"),
       ("label", .required, "label"), ("line-buffered", .none, "buffered"),
       ("line-number", .none, "n"), ("line-regexp", .none, "x"), ("max-count", .required, "m"),
       ("no-filename", .none, "h"), ("no-group-separator", .none, "no-separator"),
       ("no-messages", .none, "s"), ("null", .none, "Z"), ("null-data", .none, "z"),
       ("only-matching", .none, "o"), ("quiet", .none, "q"), ("recursive", .none, "r"),
       ("dereference-recursive", .none, "R"), ("regexp", .required, "e"),
       ("invert-match", .none, "v"), ("silent", .none, "q"), ("text", .none, "a"),
       ("unix-byte-offsets", .none, "u"), ("version", .none, "V"),
       ("with-filename", .none, "H"), ("word-regexp", .none, "w")] }

/-- Show how the tool is called, and exit. -/
def usage {α : Type} (status : Nat) : Tool α := do
  let name := lastPart (← get).process.name
  mutter ("Usage: " ++ name ++ " [OPTION]... PATTERNS [FILE]...")
  mutter ("Try '" ++ name ++ " --help' for more information.")
  exit status
where
  lastPart (path : String) : String := ((Text.split '/' path).getLast?).getD path

/-- A length of context. -/
def contextLength (text : String) : Tool Nat :=
  match unitCount text with
  | .ok n => return n
  | .error _ => die 2 (text ++ ": invalid context length argument")

/-- Choose the kind of patterns, which cannot be changed then. -/
def chooseKind (s : Settings) (kind : String) : Tool Settings := do
  if s.kind.any (· != kind) then die 2 "conflicting matchers specified"
  return { s with kind := some kind }

/-- A pattern for names in a list of such, without the blanks behind it. A blank behind a backslash
stays. -/
def listed? (line : String) : Option String :=
  let isBlank (c : Char) : Bool := c == ' ' || ('\t' ≤ c && c ≤ '\r')
  let cs := line.toList
  let kept := (cs.reverse.dropWhile isBlank).reverse
  if kept.isEmpty then none
  else if kept.getLast? == some '\\' then some (String.ofList (cs.take (kept.length + 1)))
  else some (String.ofList kept)

/-- Apply an option. -/
def apply (s : Settings) (code : String) (argument : Option String) : Tool Settings := do
  let text := argument.getD ""
  match code with
  | "E" => chooseKind s "E"
  | "F" => chooseKind s "F"
  | "G" => chooseKind s "G"
  | "P" => chooseKind s "P"
  | "e" =>
    return { s with patterns := some (s.patterns.getD [] ++ Text.split '\n' text) }
  | "f" =>
    match ← content text with
    | .ok found =>
      let (ls, _) := lines found
      return { s with patterns := some (s.patterns.getD [] ++ ls) }
    | .error e => die 2 (text ++ ": " ++ e.reason)
  | "i" => return { s with ignoreCase := true }
  | "y" => return { s with ignoreCase := true }
  | "no-ignore-case" => return { s with ignoreCase := false }
  | "v" => return { s with invert := true }
  | "w" => return { s with words := true }
  | "x" => return { s with whole := true }
  | "c" => return { s with counts := true }
  | "l" => return { s with list := some true }
  | "L" => return { s with list := some false }
  | "q" => return { s with quiet := true }
  | "s" => return { s with silent := true }
  | "H" => return { s with names := some true }
  | "h" => return { s with names := some false }
  | "n" => return { s with numbers := true }
  | "b" => return { s with offsets := true }
  | "o" => return { s with only := true }
  | "a" => return { s with text := true }
  | "I" => return { s with skipBinary := true }
  | "T" => return { s with tab := true }
  | "Z" => return { s with nulls := true }
  | "z" => return { s with zero := true }
  | "r" => return { s with directories := .recurse }
  | "R" => return { s with directories := .recurse, follow := true }
  | "u" => do
    complain "warning: --unix-byte-offsets (-u) is obsolete"
    return s
  | "m" =>
    match unitCount text, Text.stripPrefix? "-" text with
    | .ok n, _ => return { s with limit := some n }
    | _, some rest =>
      match unitCount rest with
      | .ok _ => return { s with limit := none }
      | .error _ => die 2 "invalid max count"
    | .error _, none => die 2 "invalid max count"
  | "A" => return { s with after := some (← contextLength text) }
  | "B" => return { s with before := some (← contextLength text) }
  | "C" => return { s with around := some (← contextLength text) }
  | "d" =>
    match text with
    | "read" => return { s with directories := .read }
    | "skip" => return { s with directories := .skip }
    | "recurse" => return { s with directories := .recurse }
    | _ =>
      complain ("invalid argument " ++ Quote.plain text ++ " for '--directories'")
      mutter "Valid arguments are:"
      ["read", "recurse", "skip"].forM fun a => mutter ("  - " ++ Quote.plain a)
      usage 1
  | "binary-files" =>
    match text with
    | "binary" => return { s with text := false, skipBinary := false }
    | "text" => return { s with text := true }
    | "without-match" => return { s with skipBinary := true }
    | _ => die 2 "unknown binary-files type"
  | "separator" => return { s with separator := some text }
  | "no-separator" => return { s with separator := none }
  | "label" => return { s with label := text }
  | "exclude-from" =>
    match ← content text with
    | .ok found =>
      return { s with
        rules := s.rules ++ ((lines found).1.filterMap listed?).map fun p => (false, p) }
    | .error e => die 2 (text ++ ": " ++ e.reason)
  | "color" =>
    let wanted := text.toLower
    if argument.isNone || ["auto", "tty", "if-tty"].contains wanted then
      return { s with coloured := false }
    else if ["always", "yes", "force"].contains wanted then return { s with coloured := true }
    else if ["never", "no", "none"].contains wanted then return { s with coloured := false }
    else return { s with showsHelp := true }
  | "help" => return { s with showsHelp := true }
  | "V" => return { s with showsVersion := true }
  | "include" => return { s with rules := s.rules ++ [(true, text)] }
  | "exclude" => return { s with rules := s.rules ++ [(false, text)] }
  | "exclude-dir" =>
    let bare := String.ofList (text.toList.reverse.dropWhile (· == '/')).reverse
    return { s with excludedDirs := s.excludedDirs ++ [bare] }
  | code =>
    if code.length = 1 && code.toList.all Char.isDigit then
      return { s with around := some (s.around.getD 0 * 10 + (Integer.digits 10 0 code.toList).1) }
    else return s

/-- Deal with the options one after the other. -/
def eachOption : List Options.Step → Settings → Tool Settings
  | [], s => return s
  | .mistake message :: _, _ => do
    complain message
    usage 2
  | .option code argument :: rest, s => do eachOption rest (← apply s code argument)

/-- Whether a context was asked for. -/
def Settings.hasContext (s : Settings) : Bool :=
  s.before.isSome || s.after.isSome || s.around.isSome

end Search

end Tool

end Scaffold
