import Scaffold.Machine.Glob
import Scaffold.Machine.Shell.Arithmetic
import Scaffold.Machine.Shell.Session

/-!
# Expansion of words

A word is expanded part by part into pieces, the pieces are split into fields, and fields with
patterns become the names of the files they match. A piece that came from an expansion outside of
quotation marks is split at separators; the arguments of the shell are divided by zero bytes, which
no argument contains.
-/

namespace Scaffold

namespace Shell

/-! ### Pieces and fields -/

/-- A character of an expanded word, or a quotation mark. -/
inductive Cell where
  | char (c : Char) (quoted : Bool)
  | mark
deriving DecidableEq, Repr, Inhabited

/-- How a piece of an expanded word is divided into fields. -/
inductive Division where
  /-- Not at all. -/
  | whole
  /-- At separators. -/
  | fields
  /-- Between arguments only. -/
  | arguments
deriving DecidableEq, Repr, Inhabited

/-- A piece of an expanded word: a text, or a quotation mark. -/
structure Piece where
  text : String := ""
  quoted : Bool := false
  isMark : Bool := false
  division : Division := .whole
deriving Inhabited

/-- The characters of cells. -/
def Cell.chars (cells : List Cell) : Marked :=
  cells.filterMap fun
    | .char c quoted => some (c, quoted)
    | .mark => none

/-- Cells of a text. -/
def cellsOf (quoted : Bool) (text : String) : List Cell := text.toList.map fun c => .char c quoted

/-- The cells of a piece. -/
def Piece.cells (p : Piece) : List Cell := if p.isMark then [.mark] else cellsOf p.quoted p.text

/-- The characters of pieces that are not divided. -/
def undivided (pieces : List Piece) : Marked := pieces.flatMap fun p => Cell.chars p.cells

/-- The text of pieces that are not divided. -/
def textOf (pieces : List Piece) : String := Text.join "" (pieces.map Piece.text)

/-- Whether a piece is neither divided nor part of a pattern. -/
def Piece.isSolid (p : Piece) : Bool :=
  p.division = .whole && (p.isMark || p.quoted || !p.text.any fun c => "*?[\\".toList.contains c)

/-- Fields so far, the latest first, and the field being built, its last cell first. -/
structure Splitting where
  done : List (List Cell) := []
  current : List Cell := []
  /-- Whether the last field was ended by a blank. -/
  afterBlank : Bool := false
  /-- How many fields may still be started, if there is a limit. -/
  left : Option Nat := none
  /-- Where the last field is cut off behind the limit, by its length. -/
  cut : Option Nat := none
deriving Inhabited

/-- Separators that are blanks. -/
def isBlank (c : Char) : Bool := c == ' ' || c == '\t' || c == '\n'

namespace Splitting

/-- Go on with a character of the field being built. -/
def add (s : Splitting) (c : Cell) : Splitting := { s with current := c :: s.current }

/-- End the field being built. -/
def close (s : Splitting) : Splitting :=
  { s with done := s.current.reverse :: s.done, current := [] }

/-- Go on with a character behind the limit: separators are kept, up to blanks at the end and one
separator alone. -/
def beyond (ends blank : Bool) (s : Splitting) (c : Cell) : Splitting :=
  if blank then { s with cut := s.cut <|> some s.current.length }.add c
  else { s with cut := if ends && s.afterBlank then s.cut else none, afterBlank := false }.add c

/-- Go on with a separator between fields. -/
def separator (blank : Bool) (s : Splitting) (c : Cell) : Splitting :=
  if s.current.isEmpty && blank then s
  else match s.left with
    | some 1 =>
      { s with left := some 0, cut := some s.current.length, afterBlank := blank }.add c
    | left => { s.close with left := left.map (· - 1), afterBlank := blank }

/-- Go on with a cell of a piece that is divided. A separator that is no blank counts as one with
the blanks before it, unless blanks do not count. -/
def cell (isSeparator : Char → Bool) (blanksCount : Bool) (s : Splitting) : Cell → Splitting
  | .mark => { s with afterBlank := false }.add .mark
  | .char c quoted =>
    let ends := isSeparator c
    let blank := ends && isBlank c
    if s.left = some 0 then beyond ends blank s (.char c quoted)
    else if s.afterBlank then
      if blank then s
      else if ends then { s with afterBlank := false }
      else { s with afterBlank := false }.add (.char c quoted)
    else if ends then separator (blank && blanksCount) s (.char c quoted)
    else s.add (.char c quoted)

/-- Go on with a piece; `wasArguments` says that the last divided piece was one of arguments. -/
def piece (separators : String) (state : Splitting × Bool) (p : Piece) : Splitting × Bool :=
  let (s, wasArguments) := state
  match p.division with
  | .whole => ({ s with current := p.cells.reverse ++ s.current }, wasArguments)
  | .fields =>
    let isSeparator (c : Char) : Bool := c == '\x00' || Text.contains c separators
    (p.cells.foldl (cell isSeparator !wasArguments) { s with afterBlank := false }, false)
  | .arguments => (p.cells.foldl (cell (· == '\x00') false) { s with afterBlank := false }, true)

end Splitting

/-- The fields of pieces, at most so many if there is a limit. An empty field at the end counts only
behind arguments. -/
def fieldsOf (separators : String) (limit : Option Nat) (pieces : List Piece) : List (List Cell) :=
  let (s, wasArguments) :=
    pieces.foldl (Splitting.piece separators) ({ left := limit }, false)
  let s := match s.cut with
    | some n => { s with current := s.current.drop (s.current.length - n) }
    | none => s
  let s := if s.current.isEmpty && !wasArguments then s else s.close
  s.done.reverse

/-- The separators of a shell. -/
def Session.separators (s : Session) : String := s.separators?.getD " \t\n"

/-! ### File names -/

/-- Characters as they are in a pattern: a backslash that is not quoted quotes the next character.
-/
def unescapePattern : Marked → Marked
  | ('\\', false) :: (c, false) :: rest => (c, true) :: unescapePattern rest
  | ('\\', false) :: rest => ('\\', true) :: unescapePattern rest
  | e :: rest => e :: unescapePattern rest
  | [] => []

/-- The pattern that characters are. -/
def patternOf (f : Marked) : Glob := Glob.ofMarked (unescapePattern f)

/-- Whether brackets are closed before the next separator. -/
def closesBracket (f : Marked) : Bool :=
  let inside := match f with
    | ('!', false) :: rest => rest
    | rest => rest
  let inside := inside.takeWhile fun e => e.1 != '/'
  (inside.drop 1).any fun e => e == (']', false)

/-- Whether part of a path is a pattern. -/
def hasPattern : Marked → Bool
  | [] => false
  | ('*', false) :: _ => true
  | ('?', false) :: _ => true
  | ('[', false) :: rest => closesBracket rest || hasPattern rest
  | _ :: rest => hasPattern rest

/-- Split a path at separators. -/
def splitPath : Marked → List Marked
  | [] => [[]]
  | (c, q) :: rest =>
    if c == '/' then [] :: splitPath rest
    else match splitPath rest with
      | [] => [[(c, q)]]
      | f :: fs => ((c, q) :: f) :: fs

/-- Names in a directory that a pattern is compared with, as texts of bytes. -/
def namesIn (files : Files) (dir path : String) : List String :=
  if files.isDir dir (Machine.path path) then
    "." :: ".." :: (files.list dir (Machine.path path)).map Octets.ofText
  else []

/-- The paths that go on from a start with the parts of a pattern. -/
def matchParts (files : Files) (dir : String) : List Marked → (start : String) → List String
  | [], start =>
    let isThere := match files.find dir (Machine.path start) false with
      | .ok place => place.item.isSome
      | .error _ => false
    if isThere then [start] else []
  | part :: rest, start =>
    let join (name : String) : String := start ++ name ++ if rest.isEmpty then "" else "/"
    if hasPattern part then
      let glob := Glob.ofMarked part
      let wantsHidden := (part.head?.map Prod.fst) == some '.'
      let names := (namesIn files dir (if start.isEmpty then "." else start)).filter fun name =>
        (wantsHidden || !Text.startsWith "." name) && glob.accepts name.toList
      if rest.isEmpty then names.map join
      else names.flatMap fun name => matchParts files dir rest (join name)
    else matchParts files dir rest (join (Marked.plain part))

/-- The names a field stands for: the files it matches, or else itself. -/
def fileNames (files : Files) (dir : String) (f : Marked) : List String :=
  let parts := splitPath (unescapePattern f)
  if parts.any hasPattern then
    let found := matchParts files dir parts ""
    if found.isEmpty then [f.plain] else found.mergeSort fun a b => decide (a ≤ b)
  else [f.plain]

/-! ### Parameters -/

/-- How a word is expanded. -/
structure Manner where
  /-- Fields are wanted. -/
  full : Bool := false
  /-- Plain text is divided like the value of a variable. -/
  dividing : Bool := false
  /-- A tilde at the start stands for a home directory. -/
  tilde : Bool := false
  /-- So does one behind a colon. -/
  colons : Bool := false
deriving Inhabited

/-- All options, each with its letter if it has one. -/
def optionLetters : List (String × String) :=
  [("errexit", "e"), ("noglob", "f"), ("ignoreeof", "I"), ("interactive", "i"), ("monitor", "m"),
   ("noexec", "n"), ("stdin", "s"), ("xtrace", "x"), ("verbose", "v"), ("vi", "V"), ("emacs", "E"),
   ("noclobber", "C"), ("allexport", "a"), ("notify", "b"), ("nounset", "u"), ("privileged", "p"),
   ("nolog", ""), ("debug", "")]

/-- All arguments as one text. Where fields are wanted, zero bytes stand between them. -/
def joinedArguments (s : Session) (full quoted each : Bool) : String :=
  let first := match s.separators? with
    | some text => String.ofList (text.toList.take 1)
    | none => " "
  let between :=
    if full && quoted && each then "\x00"
    else if full && !quoted then (if s.separators?.isSome then "\x00" else " ")
    else first
  Text.join between s.args

/-- The value of a parameter. -/
def parameter? (s : Session) (full quoted : Bool) (name : String) : Option String :=
  match name with
  | "#" => some (toString s.args.length)
  | "?" => some (toString s.status)
  | "$" => some (toString s.shell)
  | "!" => s.lastJob.map toString
  | "-" => some (Text.join "" (optionLetters.reverse.filterMap fun (option, letter) =>
      if s.has option then some letter else none))
  | "@" => some (joinedArguments s full quoted true)
  | "*" => some (joinedArguments s full quoted false)
  | name =>
    match Integer.natural? name with
    | some 0 => some s.name
    | some (n + 1) => s.args[n]?
    | none => s.get? name

/-- A text up to the first zero byte. -/
def upToZero (cs : List Char) : List Char := cs.takeWhile (· != '\x00')

/-- A text without the end that a pattern matches. -/
def cutEnd (glob : Glob) (longest : Bool) (cs : List Char) : List Char :=
  let lengths :=
    if longest then List.range ((upToZero cs).length + 1) else (List.range (cs.length + 1)).reverse
  match lengths.find? fun n => glob.accepts (upToZero (cs.drop n)) with
  | some n => cs.take n
  | none => cs

/-- A text without the start that a pattern matches. -/
def cutStart (glob : Glob) (longest : Bool) (cs : List Char) : List Char :=
  let lengths :=
    if longest then (List.range (cs.length + 1)).reverse else List.range ((upToZero cs).length + 1)
  match lengths.find? fun n => glob.accepts (upToZero (cs.take n)) with
  | some n => cs.drop n
  | none => cs

/-- The result of an expansion as a piece. -/
def expanded (quoted : Bool) (text : String) : List Piece :=
  [{ text, quoted, division := if quoted then .whole else .fields }]

/-- The value of a parameter as a piece. -/
def valuePieces (s : Session) (quoted : Bool) (name text : String) : List Piece :=
  let division : Division :=
    if !quoted then .fields
    else if name = "@" && !s.args.isEmpty then .arguments
    else .whole
  [{ text, quoted, division }]

/-- Complain about a parameter that is not set. -/
def notSet {α : Type} (name reason : String) : Sh α := Sh.fail (name ++ ": " ++ reason)

/-- Expand a parameter. `word` expands the other word. -/
def expandParameter (word : Manner → Word → Sh (List Piece)) (manner : Manner) (quoted : Bool)
    (name : String) (how : Treatment) (other : Word) : Sh (List Piece) := do
  let s ← get
  let value? := parameter? s manner.full quoted name
  let isMissing (orEmpty : Bool) : Bool := match value? with
    | none => true
    | some v => orEmpty && v.isEmpty
  let plain (value? : Option String) : Sh (List Piece) := do
    match value? with
    | some v => return valuePieces (← get) quoted name v
    | none => if s.has "nounset" then notSet name "parameter not set" else return []
  let inner : Manner := { manner with tilde := true, dividing := !quoted }
  let other' : Manner := { tilde := true }
  let cut (f : Glob → List Char → List Char) : Sh (List Piece) := do
    match value? with
    | none => plain none
    | some v =>
      let glob := patternOf (undivided (← word other' other))
      return valuePieces (← get) quoted name (String.ofList (f glob v.toList))
  match how with
  | .malformed => Sh.fail "Bad substitution"
  | .value => plain value?
  | .length =>
    if value?.isNone && s.has "nounset" then notSet name "parameter not set"
    return valuePieces s quoted name (toString (value?.getD "").length)
  | .fallback orEmpty => if isMissing orEmpty then word inner other else plain value?
  | .replaced orEmpty => if isMissing orEmpty then return [] else word inner other
  | .assigned orEmpty =>
    if isMissing orEmpty then
      Sh.setVar name (textOf (← word other' other))
      plain (parameter? (← get) manner.full quoted name)
    else plain value?
  | .demanded orEmpty =>
    if isMissing orEmpty then
      let text := textOf (← word other' other)
      notSet name (if !other.isEmpty then text
        else if orEmpty then "parameter not set or null" else "parameter not set")
    else plain value?
  | .withoutEnd longest => cut fun glob => cutEnd glob longest
  | .withoutStart longest => cut fun glob => cutStart glob longest

/-! ### Tildes -/

/-- The home directory of a user of the machine. -/
def homeOf? (user : String) : Option String :=
  match user with
  | "root" => some "/root"
  | "daemon" => some "/usr/sbin"
  | "bin" => some "/bin"
  | "sys" => some "/dev"
  | "sync" => some "/bin"
  | "games" => some "/usr/games"
  | "man" => some "/var/cache/man"
  | "lp" => some "/var/spool/lpd"
  | "mail" => some "/var/mail"
  | "news" => some "/var/spool/news"
  | "uucp" => some "/var/spool/uucp"
  | "proxy" => some "/bin"
  | "www-data" => some "/var/www"
  | "backup" => some "/var/backups"
  | "list" => some "/var/list"
  | "irc" => some "/run/ircd"
  | "_apt" => some "/nonexistent"
  | "nobody" => some "/nonexistent"
  | _ => none

/-- Plain text with a tilde at its start. `isLast` says that no other part follows. -/
def expandTilde (s : Session) (manner : Manner) (isLast : Bool) (cs : List Char) :
    String × List Char :=
  match cs with
  | '~' :: rest =>
    let user := rest.takeWhile fun c => c != '/' && !(manner.colons && c == ':')
    if user.length = rest.length && !isLast then ("", cs)
    else
      match if user.isEmpty then s.get? "HOME" else homeOf? (String.ofList user) with
      | some home => (home, rest.drop user.length)
      | none => ("", cs)
  | _ => ("", cs)

/-- The pieces of plain text, with tildes behind colons where they count. -/
def literalPieces (s : Session) (manner : Manner) (isLast : Bool) : (fuel : Nat) →
    (tilde : Bool) → List Char → List Piece
  | 0, _, _ => []
  | fuel + 1, tilde, cs =>
    let plain (cs : List Char) : Piece :=
      { text := String.ofList cs, division := if manner.dividing then .fields else .whole }
    let (home, cs) := if tilde then expandTilde s manner isLast cs else ("", cs)
    let front := if manner.colons then cs.takeWhile (· != ':') else cs
    match cs.drop front.length with
    | [] => [{ text := home, quoted := true }, plain front]
    | colon :: rest =>
      { text := home, quoted := true } :: plain (front ++ [colon]) ::
        literalPieces s manner isLast fuel true rest

/-! ### Words -/

/-- The output of a command, without line breaks at its end and without zero bytes. -/
def outputOf (run : Command → Sh Ending) (c : Option Command) : Sh String := do
  let s ← get
  match c with
  | none =>
    modify fun s => { s with substituted := 0 }
    return ""
  | some c =>
    let k ← Sh.onMachine fun m => m.openPipe [] false
    set { (← get) with channels := s.channels.set 1 k }
    let ending ← run c
    let t ← get
    let bytes := match t.machine.opened[k]? with
      | some { stream := .pipe p, .. } => t.machine.pipeContent p
      | _ => []
    set { t with channels := s.channels, substituted := ending.status }
    let kept := (bytes.reverse.dropWhile (· == 10)).reverse
    return Octets.ofBytes (kept.filter (· != 0))

/-- Compute an arithmetic expression. -/
def calculate (text : String) : Sh Int := do
  let s ← get
  let (result, assigned) := Arithmetic.evaluate s.get? text
  for (name, value) in assigned do
    Sh.setVar name (toString value)
  match result with
  | .ok n => return n
  | .error .trapped => throw (.killed 8)
  | .error e => Sh.fail (e.message text)

/-- Expand the parts of a word. The fuel bounds how deep words are nested. -/
def expand (run : Command → Sh Ending) : (fuel : Nat) → Manner → Word → Sh (List Piece)
  | 0, _, _ => return []
  | _ + 1, _, [] => return []
  | fuel + 1, manner, part :: rest => do
    let here ← match part with
      | .mark => pure [{ isMark := true : Piece }]
      | .literal true text => pure [{ text, quoted := true : Piece }]
      | .literal false text => do
        pure (literalPieces (← get) manner rest.isEmpty (text.length + 1) manner.tilde text.toList)
      | .parameter quoted name how other =>
        expandParameter (expand run fuel) manner quoted name how other
      | .output quoted script => do pure (expanded quoted (← outputOf run script))
      | .arithmetic quoted expression => do
        let text := textOf (← expand run fuel {} expression)
        pure (expanded quoted (toString (← calculate text)))
    return here ++ (← expand run fuel { manner with tilde := false } rest)

/-- How deep words are expanded. -/
def wordDepth : Nat := 1000000

/-- Expand a word to one text. -/
def expandText (run : Command → Sh Ending) (manner : Manner) (w : Word) : Sh String := do
  return textOf (← expand run wordDepth manner w)

/-- Expand a word to fields. -/
def expandFields (run : Command → Sh Ending) (w : Word) : Sh (List String) := do
  let pieces ← expand run wordDepth { full := true, tilde := true } w
  if pieces.all Piece.isSolid then
    return if pieces.any fun p => p.isMark || !p.text.isEmpty then [textOf pieces] else []
  let s ← get
  let fields := (fieldsOf s.separators none pieces).map Cell.chars
  if s.has "noglob" then return fields.map Marked.plain
  return fields.flatMap (fileNames s.machine.files (Machine.path s.dir))

end Shell

end Scaffold
