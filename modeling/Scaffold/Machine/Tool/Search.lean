import Scaffold.Machine.Tool.Search.Matcher
import Scaffold.Machine.Tool.Search.Settings

/-!
# Searching lines

`grep` writes the lines of files that match one of some patterns. A pattern is a regular expression
or a plain text; matches can be asked to be whole words or whole lines. Files with zero bytes count
as binary, and their lines are not shown.
-/

namespace Scaffold

namespace Tool

namespace Search

/-! ### Patterns -/

/-- Prepare an ordered expression. There can be only one. -/
def orderedMatcher (s : Settings) (patterns : List String) : Tool Matcher := do
  match patterns.eraseDups with
  | [] => return .regexes [] s.ignoreCase false false
  | [p] =>
    let text := if s.words && !s.whole then "(?<!\\w)(?:" ++ p ++ ")(?!\\w)" else p
    let flags : Ordered.Flags := { ignoreCase := s.ignoreCase }
    match Ordered.Pattern.read flags text.toList with
    | .error fault => die 2 fault.message
    | .ok p =>
      if s.whole then
        let start := Ordered.border (.lineStart false)
        let finish := Ordered.border (.lineEnd false)
        return .ordered { p with root := .seq start (.seq p.root finish) }
      else return .ordered p
  | _ => die 2 "the -P option only supports a single pattern"

/-- A plain text with what has to stand around it. -/
def surrounded (s : Settings) (r : Regex) : Regex :=
  if s.whole then .seq .lineStart (.seq r .lineEnd)
  else if s.words then
    .seq (.alt .lineStart (.one (Regex.wordSet true)))
      (.seq r (.alt (.one (Regex.wordSet true)) .lineEnd))
  else r

/-- The text of an expression with what has to stand around its matches. -/
def wrapped (s : Settings) (d : Regex.Dialect) (p : String) : String :=
  let (start, finish) := match s.whole, s.words with
    | true, _ => ("^(", ")$")
    | false, true => ("(^|[^[:alnum:]_])(", ")([^[:alnum:]_]|$)")
    | false, false => ("", "")
  -- The operators of basic expressions stand behind a backslash.
  let written (text : String) : String :=
    if d.extended then text
    else String.ofList (text.toList.flatMap fun c =>
      if c == '(' || c == ')' || c == '|' then ['\\', c] else [c])
  written start ++ p ++ written finish

/-- Prepare patterns; all that are malformed are complained about. -/
def matcher (s : Settings) (patterns : List String) : Tool Matcher := do
  if s.kind == some "P" then return ← orderedMatcher s patterns
  let fixed := s.kind == some "F"
  let d : Regex.Dialect := { extended := s.kind == some "E", ignoreCase := s.ignoreCase }
  if !fixed then
    let faults := patterns.filterMap fun p =>
      match Regex.check d p.toList with
      | .ok () => none
      | .error fault => some fault
    if !faults.isEmpty then
      faults.forM complain
      exit 2
  let regexes ← patterns.mapM fun p => do
    if fixed then
      let placing := Regex.literal p.toList
      return { selecting := surrounded s placing, placing : Expression }
    else
      let r := Regex.read d (wrapped s d p).toList
      r.warnings.forM fun w => complain ("warning: " ++ w)
      if let some mistake := r.mistake then die 2 mistake
      let placing := (Regex.read { d with placing := true } p.toList).regex
      return { selecting := r.regex, placing }
  return .regexes regexes s.ignoreCase s.words s.whole

/-! ### Lines -/

/-- A line with its number and its offset. -/
structure Line where
  text : String
  number : Nat
  offset : Nat
deriving Inhabited

/-- Lines with numbers and offsets. -/
def numbered : (number offset : Nat) → List String → List Line
  | _, _, [] => []
  | number, offset, text :: rest =>
    { text, number, offset } :: numbered (number + 1) (offset + text.length + 1) rest

/-- How the lines of a file are shown: under which name, if any, in which colours, and how wide
numbers are. -/
structure Style where
  file : String
  title : Option String := none
  palette : Palette := .plain
  width : Nat := 0
deriving Inhabited

/-- A number of some width. -/
def aligned (width n : Nat) : String :=
  let digits := toString n
  Text.repeated (width - digits.length) " " ++ digits

/-- What is shown in front of a line; `mark` is a colon for matches and a dash for context. -/
def front (s : Settings) (y : Style) (mark : String) (number offset length : Nat) : String :=
  let p := y.palette
  let mark := p.paint p.separator mark
  let named := match y.title with
    | some n => p.paint p.file n ++ if s.nulls then "\x00" else mark
    | none => ""
  let numbers := if s.numbers then p.paint p.lineNumber (aligned y.width number) ++ mark else ""
  let offsets := if s.offsets then p.paint p.byteOffset (aligned y.width offset) ++ mark else ""
  let all := named ++ numbers ++ offsets
  if s.tab && !all.isEmpty && length > 0 then all ++ "\t" else all

/-- A search through a file: how many lines were selected, the last one shown, and how many lines of
context are still to be shown. -/
structure Progress where
  selected : Nat := 0
  shown : Option Nat := none
  trailing : Nat := 0
  /-- Lines that may become context, latest first. -/
  earlier : List Line := []
  /-- Whether lines of an earlier file were shown. -/
  grouped : Bool := false
deriving Inhabited

/-- What a search finds, or the end of the tool if it is given up. -/
def found {α : Type} (y : Style) (x : Except Ordered.GivenUp α) : Tool α :=
  match x with
  | .ok a => return a
  | .error .tooManySteps => die 2 (y.file ++ ": exceeded PCRE's backtracking limit")

/-- Show a line. -/
def showLine (s : Settings) (m : Matcher) (y : Style) (isSelected : Bool) (l : Line) :
    Tool Unit := do
  let p := y.palette
  let ending := if s.zero then "\x00" else "\n"
  let hasMatch := isSelected != s.invert
  let colour := if isSelected then p.selectedMatch else p.contextMatch
  let line := p.lineColour isSelected s.invert
  let wanted := hasMatch && (s.only || !colour.isEmpty)
  let all ← if wanted then found y (m.nonempty l.text) else pure []
  if s.only then
    let mark := if s.invert then "-" else ":"
    for (a, b) in all do
      let part := String.ofList ((l.text.toList.drop a).take (b - a))
      say (front s y mark l.number (l.offset + a) (b - a) ++ p.paint colour part ++ ending)
  else
    let mark := if isSelected then ":" else "-"
    let head := front s y mark l.number l.offset l.text.length
    if all.isEmpty && line.isEmpty then say (head ++ l.text ++ ending)
    else say (head ++ p.painted line colour l.text.toList 0 all ++ ending)

/-- Go through lines. The result also has how many lines were read. -/
def eachLine (s : Settings) (m : Matcher) (y : Style) (isShown : Bool) :
    Progress → (read : Nat) → List Line → Tool (Progress × Nat)
  | p, read, [] => return (p, read)
  | p, read, l :: rest => do
    let before := (s.before <|> s.around).getD 0
    let after := (s.after <|> s.around).getD 0
    let isFull := s.limit.any (p.selected ≥ ·)
    if isFull && p.trailing = 0 then return (p, read)
    let fits ← if isFull then pure false else found y ((m.accepts l.text).map (· != s.invert))
    if fits then
      let context := p.earlier.take before
      let start := (context.getLast?.map Line.number).getD l.number
      if isShown then
        let isApart := match p.shown with
          | some last => last + 1 < start
          | none => p.grouped
        if s.hasContext && isApart then
          if let some text := s.separator then
            say (y.palette.paint y.palette.separator text ++ "\n")
        for c in context.reverse do showLine s m y false c
        showLine s m y true l
      let p := { p with
        selected := p.selected + 1, shown := some l.number, trailing := after, earlier := [] }
      if !isShown && !s.counts then return (p, read + 1)
      eachLine s m y isShown p (read + 1) rest
    else if p.trailing > 0 then
      if isShown then showLine s m y false l
      eachLine s m y isShown { p with shown := some l.number, trailing := p.trailing - 1 }
        (read + 1) rest
    else eachLine s m y isShown { p with earlier := (l :: p.earlier).take before } (read + 1) rest

/-! ### Files -/

/-- What was found so far. -/
structure Found where
  selected : Bool := false
  failed : Bool := false
  /-- Whether a group of context was shown. -/
  grouped : Bool := false
deriving Inhabited

/-- The colours that are used. -/
def palette (s : Settings) : Tool Palette := do
  if !s.coloured then return .plain
  let environment := (← get).process.environment
  let simple := (environment.get? "GREP_COLOR").getD ""
  let p : Palette := if !simple.isEmpty && Palette.isColour simple then
      ({} : Palette).apply "mt" (some simple)
    else {}
  return p.describe (Text.split ':' ((environment.get? "GREP_COLORS").getD ""))

/-- Write how many lines of a file were selected, or its name, where that is asked for. -/
def summarize (s : Settings) (titled : Bool) (name : String) (selected : Nat) : Tool Unit := do
  if s.quiet then return
  let p ← palette s
  let shown := p.paint p.file name
  if s.counts && s.list.isNone then
    let mark := if s.nulls then "\x00" else p.paint p.separator ":"
    say ((if titled then shown ++ mark else "") ++ toString selected ++ "\n")
  if s.list == some (decide (selected > 0)) then
    say (shown ++ if s.nulls then "\x00" else "\n")

/-- How many digits numbers of lines and offsets have at most in a file: those of its size. A stream
without a size has as many as there can be. -/
def numberWidth (s : Settings) (k : Nat) (bytes : Bytes) : Tool Nat := do
  if !s.tab then return 0
  match ← streamOf k with
  | .file _ => return (toString (bytes.length + if s.numbers then 1 else 0)).length
  | _ => return 19

/-- Search the content of a file. `k` is the open file. -/
def searchOpened (s : Settings) (m : Matcher) (titled : Bool) (name : String) (k : Nat)
    (f : Found) : Tool Found := do
  match ← peekOpened k with
  | .error e =>
    if !s.silent then complain (name ++ ": " ++ e.reason)
    summarize s titled name 0
    return { f with failed := true }
  | .ok bytes =>
    let text := Octets.ofBytes bytes
    let isBinary := !s.text && !s.zero && Text.contains '\x00' text
    if isBinary && s.skipBinary then
      summarize s titled name 0
      return f
    let sep := if s.zero then '\x00' else '\n'
    let text' := if isBinary then
        String.ofList (text.toList.map fun c => if c == '\x00' then '\n' else c)
      else text
    let parts := Text.split sep text'
    let ls := if text'.isEmpty then []
      else if text'.toList.getLast? == some sep then parts.dropLast else parts
    let isShown := !s.quiet && s.list.isNone && !s.counts && !isBinary
    let ls := numbered 1 0 ls
    let style : Style :=
      { file := name
        title := if titled then some name else none
        palette := ← palette s
        width := ← numberWidth s k bytes }
    let (p, read) ← eachLine s m style isShown { grouped := f.grouped } 0 ls
    let used :=
      if s.limit.any (p.selected ≥ ·) then
        some ((ls.take read).foldl (fun n l => n + l.text.length + 1) 0)
      else if !isShown && !s.counts && p.selected > 0 then some bytes.length
      else none
    let _ ← readOpened k used
    summarize s titled name p.selected
    if isBinary && p.selected > 0 && !s.quiet && s.list.isNone && !s.counts then
      complain (name ++ ": binary file matches")
    if s.quiet && p.selected > 0 then exit 0
    return { f with
      selected := f.selected || p.selected > 0
      grouped := f.grouped || p.selected > 0 }

/-- Whether a pattern for names fits a name, or its last part. -/
def fitsName (name pattern : String) : Bool :=
  let last := ((Text.split '/' name).getLast?).getD name
  let g := Glob.ofMarked (Marked.unquoted pattern.toList)
  g.accepts last.toList || g.accepts name.toList

/-- Whether a file is searched by its name. The last rule that fits decides, and where none does,
the reverse of the first. -/
def isWanted (s : Settings) (name : String) : Bool :=
  match s.rules.reverse.find? fun r => fitsName name r.2 with
  | some (isIncluded, _) => isIncluded
  | none => (s.rules.head?.map fun r => !r.1).getD true

/-- Whether a directory is left out by its name. -/
def isLeftOut (s : Settings) (name : String) : Bool := s.excludedDirs.any (fitsName name)

/-- Whether a file is also where the output goes. -/
def isOutput (s : Settings) (k : Nat) : Tool Bool := do
  if s.quiet || s.list.isSome || s.limit.any (· ≤ 1) then return false
  let st ← get
  match st.machine.opened[k]?, st.machine.openedAt? st.process.channels 1 with
  | some { stream := .file a, .. }, some { stream := .file b, .. } => return a == b
  | _, _ => return false

/-- Search one file that is no directory. -/
def searchFile (s : Settings) (m : Matcher) (titled : Bool) (name : String) (f : Found) :
    Tool Found := do
  let shown := if name = "-" then s.label else name
  match ← if name = "-" then standardInput else openFile name .read with
  | .error e =>
    if !s.silent then complain (shown ++ ": " ++ e.reason)
    return { f with failed := true }
  | .ok k =>
    if name != "-" && (← isOutput s k) then
      if !s.silent then complain (shown ++ ": input file is also the output")
      return { f with failed := true }
    else searchOpened s m titled shown k f

mutual

/-- Search a directory and all below it. The fuel bounds how deep directories are nested. -/
def searchTree (s : Settings) (m : Matcher) (bare : Bool) :
    (fuel : Nat) → (name : String) → Found → Tool Found
  | 0, _, f => return f
  | fuel + 1, name, f => do
    match ← find (if bare then "." else name) true with
    | .ok { item := some .directory, key } =>
      let start := if bare then "" else if Text.endsWith "/" name then name else name ++ "/"
      searchEntries s m fuel start ((← files).names key) f
    | _ => return f

/-- Search the entries of a directory. -/
def searchEntries (s : Settings) (m : Matcher) :
    (fuel : Nat) → (start : String) → List String → Found → Tool Found
  | 0, _, _, f => return f
  | _ + 1, _, [], f => return f
  | fuel + 1, start, entry :: rest, f => do
    let entry := Octets.ofText entry
    let name := start ++ entry
    let f ← match ← find name s.follow with
      | .ok { item := some .directory, .. } =>
        if isLeftOut s entry then pure f
        else searchTree s m false fuel name f
      | .ok { item := some (.file _ _), .. } =>
        if isWanted s name then searchFile s m (s.names.getD true) name f else pure f
      | .ok { item := some (.tool _), .. } => searchFile s m (s.names.getD true) name f
      | .ok { item := some _, .. } => pure f
      -- A link that leads nowhere is only opened where links are followed.
      | _ => if s.follow && isWanted s name then searchFile s m true name f else pure f
    searchEntries s m fuel start rest f

end

/-- How deep directories can be nested, together with how many entries they have. -/
def depthLimit : Nat := 100000

/-- Search the files that were named. -/
def each (s : Settings) (m : Matcher) (titled : Bool) : Found → List String → Tool Found
  | f, [] => return f
  | f, name :: rest => do
    let directory ← if name = "-" then pure false else isDir name
    let f ←
      if directory && isLeftOut s name then pure f
      else if directory then
        match s.directories with
        | .recurse => searchTree s m false depthLimit name f
        | .skip => pure f
        | .read => do
          if !s.silent then complain (name ++ ": " ++ IoError.isDirectory.reason)
          summarize s titled name 0
          pure { f with failed := true }
      else if name != "-" && !isWanted s name && (← item? name).isSome then pure f
      else searchFile s m titled name f
    each s m titled f rest

/-- Whether nothing can be selected, so that no file has to be looked at: no line is wanted, there
are no patterns, or all lines match and the others are wanted. Files without a selected line may be
wanted all the same. -/
def isVain (s : Settings) (patterns : List String) : Bool :=
  let nothing := match patterns with
    | [] => !s.invert
    | [""] => s.invert && !s.words && !s.whole
    | _ => false
  (s.limit == some 0 || nothing) && s.list != some false

end Search

/-- Write the lines that match. -/
def grep (args : List String) : Tool Nat := do
  let line := Options.read Search.grammar args
  let s ← Search.eachOption line.steps {}
  if s.showsVersion then version
  if s.showsHelp then help
  let (patterns, names) ← match s.patterns, line.operands with
    | some ps, names => pure (ps, names)
    | none, p :: names => pure (Text.split '\n' p, names)
    | none, [] => Search.usage 2
  if Search.isVain s patterns then return 1
  if s.coloured then
    let simple := ((← get).process.environment.get? "GREP_COLOR").getD ""
    if !simple.isEmpty then
      complain ("warning: GREP_COLOR='" ++ simple ++ "' is deprecated; use GREP_COLORS='mt=" ++
        simple ++ "'")
  let m ← Search.matcher s patterns
  let titled := s.names.getD (names.length > 1)
  let f ←
    if names.isEmpty && s.directories = .recurse then
      Search.searchTree s m true Search.depthLimit "." {}
    else Search.each s m titled {} (if names.isEmpty then ["-"] else names)
  return if f.failed then 2 else if f.selected then 0 else 1

end Tool

end Scaffold
