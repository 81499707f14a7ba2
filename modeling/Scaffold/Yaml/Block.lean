import Scaffold.Text.Utf8
import Scaffold.Yaml.Cursor
import Scaffold.Yaml.Lexeme
import Scaffold.Yaml.Scalar
import Scaffold.Yaml.Writable

/-!
# Block notation

The document text of a value in block notation: one entry or item a line, two columns per level, the
items of a sequence at the column of the key they belong to. A text is written plain where it reads
back as itself, in single quotes where it would read as something else, as a literal block where it
has several lines, and in double quotes where only escapes can hold it. Lines are never folded.

`Block.document` is the text of a value, or the fault of one that cannot be written.
-/

namespace Scaffold.Yaml.Block

/-! ### Which styles can hold a text -/

/-- Characters that are written as they are. -/
def isPrintable (c : Char) : Bool :=
  let n := c.toNat
  n == 0x0A || (0x20 ≤ n && n ≤ 0x7E) || (0xA0 ≤ n && n ≤ 0xD7FF) ||
    (0xE000 ≤ n && n ≤ 0xFFFD && n != 0xFEFF) || 0x10000 ≤ n

/-- What a text can be written as. -/
structure Analysis where
  multiline : Bool
  plain : Bool
  singleQuoted : Bool
  literal : Bool
deriving Repr, Inhabited

/-- A character with the ones around it. -/
structure Site where
  before : Option Char
  char : Char
  after : Option Char

/-- The characters of a text with the ones around them. -/
def sites (before : Option Char) : List Char → List Site
  | [] => []
  | c :: rest => { before, char := c, after := rest.head? } :: sites (some c) rest

/-- Whether a space, a break or the end is here. -/
def isGap (c : Option Char) : Bool := c.all fun c => isSpace c || isBreak c

/-- Whether a character keeps a text from being plain. -/
def Site.isIndicator (s : Site) : Bool :=
  match s.before with
  | none =>
    "#,[]\x7b\x7d&*!|>'\"%@`".toList.contains s.char ||
      ((s.char == '?' || s.char == ':' || s.char == '-') && isGap s.after)
  | some b =>
    (s.char == ':' && isGap s.after) || (s.char == '#' && (isSpace b || isBreak b))

/-- Which styles can hold a text. -/
def analyze (cs : List Char) : Analysis :=
  if cs.isEmpty then { multiline := false, plain := true, singleQuoted := true, literal := false }
  else
    let here := sites none cs
    let marker := cs.take 3 == ['-', '-', '-'] || cs.take 3 == ['.', '.', '.']
    let indicators := marker || here.any Site.isIndicator
    let breaks := cs.any isBreak
    let special := cs.any fun c => !isPrintable c
    let edge (p : Char → Bool) : Bool := cs.head?.any p || cs.getLast?.any p
    let breakSpace := here.any fun s => s.char == ' ' && s.before.any isBreak
    let spaceBreak := here.any fun s => isBreak s.char && s.before == some ' '
    { multiline := breaks
      plain := !indicators && !breaks && !special && !edge (· == ' ') && !breakSpace && !spaceBreak
      singleQuoted := !breakSpace && !spaceBreak && !special
      literal := cs.getLast? != some ' ' && !spaceBreak && !special }

/-- The style a text asks for: quoted where it would read as something else. -/
def wanted (s : String) : Style :=
  if s.toList.contains '\n' then .literal
  else if Plain.resolve s != .text || Plain.isPadded s.toList then .singleQuoted
  else .plain

/-- The style a text gets. -/
def chosen (style : Style) (a : Analysis) (simpleKey : Bool) : Style :=
  let style := if simpleKey && a.multiline then .doubleQuoted else style
  let style := if style = .plain && !a.plain then .singleQuoted else style
  let style := if style = .singleQuoted && !a.singleQuoted then .doubleQuoted else style
  if style = .literal && (!a.literal || simpleKey) then .doubleQuoted else style

/-! ### Output -/

/-- Text written so far: the column reached, whether it ends in white space, and whether the line
has only indentation and item dashes so far. -/
structure Out where
  lines : List Char := []
  column : Nat := 0
  white : Bool := true
  fresh : Bool := true
deriving Inhabited

namespace Out

/-- Write characters of one line. -/
def put (o : Out) (cs : List Char) : Out :=
  { o with lines := cs.reverse ++ o.lines, column := o.column + cs.length }

/-- Write a line break. -/
def putBreak (o : Out) (c : Char) : Out := { o with lines := c :: o.lines, column := 0 }

/-- Write an indicator. -/
def indicator (o : Out) (s : String) (spaced white fresh : Bool) : Out :=
  let o := if spaced && !o.white then o.put [' '] else o
  { (o.put s.toList) with white, fresh := o.fresh && fresh }

/-- Go to a column, on a new line unless this one is still fresh. -/
def toColumn (o : Out) (column : Nat) : Out :=
  let o :=
    if !o.fresh || o.column > column || (o.column == column && !o.white) then o.putBreak '\n' else o
  { (o.put (List.replicate (column - o.column) ' ')) with white := true, fresh := true }

/-- End a scalar. -/
def settled (o : Out) : Out := { o with white := false, fresh := false }

/-- A plain text. -/
def plain (o : Out) (cs : List Char) : Out :=
  let o := if !o.white && !cs.isEmpty then o.put [' '] else o
  (o.put cs).settled

/-- Characters of a single quoted text. -/
def singleQuotedRun (column : Nat) : List Char → Bool → Out → Out
  | [], broken, o => if broken then o.toColumn column else o
  | c :: rest, broken, o =>
    if isBreak c then
      let o := if !broken && c == '\n' then o.putBreak '\n' else o
      singleQuotedRun column rest true { (o.putBreak c) with fresh := true }
    else if c == ' ' then singleQuotedRun column rest broken (o.put [c])
    else
      let o := if broken then o.toColumn column else o
      let o := o.put (if c == '\'' then ['\'', '\''] else [c])
      singleQuotedRun column rest false { o with fresh := false }

/-- A single quoted text. -/
def singleQuoted (o : Out) (column : Nat) (cs : List Char) : Out :=
  let o := singleQuotedRun column cs false (o.indicator "'" true false false)
  (o.indicator "'" false false false).settled

/-- Hexadecimal digits, `width` of them. -/
def hex (width n : Nat) : List Char :=
  let ds := (Nat.toDigits 16 n).map Char.toUpper
  List.replicate (width - ds.length) '0' ++ ds

/-- An escaped character. -/
def escaped (c : Char) : List Char :=
  let letter : Option Char := match c with
    | '\x00' => some '0'
    | '\x07' => some 'a'
    | '\x08' => some 'b'
    | '\t' => some 't'
    | '\n' => some 'n'
    | '\x0b' => some 'v'
    | '\x0c' => some 'f'
    | '\r' => some 'r'
    | '\x1b' => some 'e'
    | '"' => some '"'
    | '\\' => some '\\'
    | '\u0085' => some 'N'
    | '\u00a0' => some '_'
    | '\u2028' => some 'L'
    | '\u2029' => some 'P'
    | _ => none
  match letter with
  | some l => ['\\', l]
  | none =>
    let n := c.toNat
    if n ≤ 0xFF then '\\' :: 'x' :: hex 2 n
    else if n ≤ 0xFFFF then '\\' :: 'u' :: hex 4 n
    else '\\' :: 'U' :: hex 8 n

/-- A double quoted text. -/
def doubleQuoted (o : Out) (cs : List Char) : Out :=
  let body := cs.flatMap fun c =>
    if !isPrintable c || isBreak c || c == '"' || c == '\\' then escaped c else [c]
  let o := (o.indicator "\"" true false false).put body
  (o.indicator "\"" false false false).settled

/-- Indentation and chomping indicators of a literal text. -/
def literalHints (cs : List Char) : String :=
  let indent := if cs.head?.any fun c => c == ' ' || isBreak c then "2" else ""
  let chomp := match cs.reverse with
    | [] => "-"
    | c :: rest =>
      if !isBreak c then "-"
      else match rest with
        | [] => "+"
        | d :: _ => if isBreak d then "+" else ""
  indent ++ chomp

/-- Lines of a literal text. -/
def literalRun (column : Nat) : List Char → Bool → Out → Out
  | [], _, o => o
  | c :: rest, broken, o =>
    if isBreak c then literalRun column rest true { (o.putBreak c) with fresh := true }
    else
      let o := if broken then o.toColumn column else o
      literalRun column rest false { (o.put [c]) with fresh := false }

/-- A literal text. -/
def literal (o : Out) (column : Nat) (cs : List Char) : Out :=
  let o := (o.indicator "|" true false false).put (literalHints cs).toList
  let o := { (o.putBreak '\n') with fresh := true, white := true }
  literalRun column cs true o

end Out

/-! ### Nodes -/

/-- Where a node stands. -/
inductive Place where
  | root
  | item
  | key
  | field
deriving DecidableEq, Repr, Inhabited

/-- Characters of a tag that need no escape. -/
def isTagSafe (c : Char) : Bool :=
  isNameChar c || ";/?:@&=+$,.~*'()[]".toList.contains c

/-- What of a tag is written behind its exclamation mark: a NUL ends it, and a name that brings an
exclamation mark of its own gets no second one. -/
def tagBody (tag : String) : List Char :=
  let cs := match tag.toList with
    | '!' :: rest => rest
    | cs => cs
  cs.takeWhile (· != '\x00')

/-- A tag as written: one of the exclamation mark alone has to be spelled out. -/
def tagText (tag : String) : List Char :=
  let body := tagBody tag
  if body.isEmpty then "!<%21>".toList
  else
    '!' :: body.flatMap fun c =>
      if isTagSafe c then [c]
      else (Utf8.encode (String.singleton c)).flatMap fun b => '%' :: Out.hex 2 b.toNat

/-- Write a tag. -/
def Out.tag (o : Out) (tag : Option String) : Out :=
  match tag with
  | none => o
  | some t =>
    let o := if !o.white then o.put [' '] else o
    (o.put (tagText t)).settled

/-- The column of what a scalar at this level continues at. -/
def deeper (indent : Option Nat) : Nat := (indent.map (· + 2)).getD 2

/-- The column of the entries of a collection at this level. -/
def inner (indent : Option Nat) : Nat := (indent.map (· + 2)).getD 0

/-- Write a scalar. -/
def Out.scalar (o : Out) (indent : Option Nat) (place : Place) (tag : Option String)
    (style : Style) (s : String) : Out :=
  let cs := s.toList
  let o := o.tag tag
  match chosen style (analyze cs) (place = .key) with
  | .plain => o.plain cs
  | .singleQuoted => o.singleQuoted (deeper indent) cs
  | .doubleQuoted => o.doubleQuoted cs
  | .literal | .folded => o.literal (deeper indent) cs

/-- The text of a scalar value and the style it asks for. -/
def scalarText? : Value → Option (Style × String)
  | .null => some (.plain, "null")
  | .bool b => some (.plain, if b then "true" else "false")
  | .int n => some (.plain, toString n)
  | .float x => some (.plain, x.text)
  | .text s => some (wanted s, s)
  | _ => none

/-- Length of a tag in a key. -/
def tagLength (tag : Option String) : Nat :=
  (tag.map fun t => (String.ofList (tagBody t)).utf8ByteSize + 1).getD 0

/-- Whether a key fits on the line of its value. -/
def isSimpleKey (tag : Option String) : Value → Bool
  | .list items => items.isEmpty && tagLength tag ≤ 128
  | .mapping entries => entries.isEmpty && tagLength tag ≤ 128
  | .tagged t v => isSimpleKey (some t) v
  | v =>
    match scalarText? v with
    | some (_, s) => !(analyze s.toList).multiline && tagLength tag + s.utf8ByteSize ≤ 128
    | none => false

mutual

/-- Write a value. -/
def node (indent : Option Nat) (place : Place) (tag : Option String) (o : Out) : Value → Out
  | .tagged t v => node indent place (some t) o v
  | .list [] => ((o.tag tag).indicator "[" true true false).indicator "]" false false false
  | .mapping [] =>
    ((o.tag tag).indicator "\x7b" true true false).indicator "\x7d" false false false
  | .list (v :: vs) =>
    let o := o.tag tag
    let flat := (place = .field || place = .key) && !o.fresh
    let column := if flat then indent.getD 0 else inner indent
    items column o (v :: vs)
  | .mapping (e :: es) => entries (inner indent) (o.tag tag) (e :: es)
  | v =>
    match scalarText? v with
    | some (style, s) => o.scalar indent place tag style s
    | none => o

/-- Write the items of a sequence. -/
def items (column : Nat) (o : Out) : List Value → Out
  | [] => o
  | v :: rest =>
    let o := (o.toColumn column).indicator "-" true false true
    items column (node (some column) .item none o v) rest

/-- Write the entries of a mapping. -/
def entries (column : Nat) (o : Out) : List (Value × Value) → Out
  | [] => o
  | (k, v) :: rest =>
    let o := o.toColumn column
    let o :=
      if isSimpleKey none k then
        (node (some column) .key none o k).indicator ":" false false false
      else
        let o := node (some column) .field none (o.indicator "?" true false true) k
        (o.toColumn column).indicator ":" true false true
    entries column (node (some column) .field none o v) rest

end

/-- The document text of a value. -/
def document (v : Value) : Except WriteFault String :=
  match Writable.fault? v with
  | some f => .error f
  | none => .ok (String.ofList ((node none .root none {} v).toColumn 0).lines.reverse)

end Scaffold.Yaml.Block
