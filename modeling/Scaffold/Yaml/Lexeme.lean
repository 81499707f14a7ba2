import Scaffold.Text.Utf8
import Scaffold.Yaml.Cursor

/-!
# Lexemes

The parts of a document that are read character by character: scalars in their five styles, anchor
names, tags and directives. Each reader takes a cursor at the start of the lexeme and gives its
content with the cursor after it, or nothing when the text is malformed. Loops count down a number
that starts above the length of the text; each round of an outer loop moves on, so what an outer
loop has left is enough for the loops in it.
-/

namespace Scaffold.Yaml

/-- How a scalar is written. -/
inductive Style where
  | plain
  | singleQuoted
  | doubleQuoted
  | literal
  | folded
deriving DecidableEq, Repr, Inhabited

/-! ### Gaps inside scalars -/

/-- Spaces and breaks between two runs of a scalar. -/
structure Gap where
  spaces : List Char := []
  lead : List Char := []
  trail : List Char := []
  broken : Bool := false
deriving Repr, Inhabited

/-- What a gap folds to: one break is a space, further breaks stay. -/
def Gap.folded (g : Gap) : List Char :=
  if g.broken then
    if g.lead == ['\n'] then (if g.trail.isEmpty then [' '] else g.trail) else g.lead ++ g.trail
  else g.spaces

/-- Read a gap. A tab left of `indent` after a break is refused. -/
def readGap (indent : Nat) : Nat → Gap → Cursor → Option (Gap × Cursor)
  | 0, g, c => some (g, c)
  | fuel + 1, g, c =>
    match c.at? 0 with
    | none => some (g, c)
    | some ch =>
      if isSpace ch then
        if g.broken then
          if ch == '\t' && c.column < indent then none else readGap indent fuel g c.skip
        else readGap indent fuel { g with spaces := g.spaces ++ [ch] } c.skip
      else if isBreak ch then
        let (br, c) := c.readBreak
        if g.broken then readGap indent fuel { g with trail := g.trail ++ br } c
        else readGap indent fuel { g with spaces := [], lead := br, broken := true } c
      else some (g, c)

/-! ### Plain scalars -/

/-- Flow indicators that end a plain scalar inside a flow collection. -/
def isFlowIndicator (c : Char) : Bool :=
  c == ',' || c == '[' || c == ']' || c == '{' || c == '}'

/-- A run of a plain scalar, up to a gap or an indicator. -/
def readPlainRun (flow : Bool) : Nat → List Char → Cursor → Option (List Char × Cursor)
  | 0, acc, c => some (acc.reverse, c)
  | fuel + 1, acc, c =>
    match c.at? 0 with
    | none => some (acc.reverse, c)
    | some ch =>
      if isSpace ch || isBreak ch then some (acc.reverse, c)
      else if flow && ch == ':' && (c.at? 1).any (fun d => isFlowIndicator d || d == '?') then none
      else if (ch == ':' && c.gapAt 1) || (flow && isFlowIndicator ch) then some (acc.reverse, c)
      else readPlainRun flow fuel (ch :: acc) c.skip

/-- The runs of a plain scalar with what the gaps between them fold to, behind `acc`, which is
backwards. The result also tells whether the scalar was followed by a line break. -/
def readPlain (flow : Bool) (indent : Nat) :
    Nat → List Char → Gap → Cursor → Option (List Char × Bool × Cursor)
  | 0, acc, g, c => some (acc.reverse, g.broken, c)
  | fuel + 1, acc, g, c => do
    if c.atMarker || c.isAt 0 '#' then return (acc.reverse, g.broken, c)
    let (run, c) ← readPlainRun flow fuel [] c
    let (acc, g) :=
      if run.isEmpty then (acc, g) else (run.reverseAux (g.folded.reverseAux acc), {})
    if !c.nextIs (fun ch => isSpace ch || isBreak ch) then return (acc.reverse, g.broken, c)
    let (g, c) ← readGap indent fuel g c
    if !flow && c.column < indent then return (acc.reverse, g.broken, c)
    readPlain flow indent fuel acc g c

/-! ### Quoted scalars -/

/-- Value of a hexadecimal digit. -/
def hexValue? (c : Char) : Option Nat :=
  if c.isDigit then some (c.toNat - 48)
  else if 'a' ≤ c ∧ c ≤ 'f' then some (c.toNat - 87)
  else if 'A' ≤ c ∧ c ≤ 'F' then some (c.toNat - 55)
  else none

/-- Value of hexadecimal digits. -/
def hexDigits? (cs : List Char) : Option Nat :=
  cs.foldl (fun acc c => acc.bind fun n => (hexValue? c).map (n * 16 + ·)) (some 0)

/-- The character that a one-letter escape stands for. -/
def escape? : Char → Option Char
  | '0' => some '\x00'
  | 'a' => some '\x07'
  | 'b' => some '\x08'
  | 't' => some '\t'
  | '\t' => some '\t'
  | 'n' => some '\n'
  | 'v' => some '\x0b'
  | 'f' => some '\x0c'
  | 'r' => some '\r'
  | 'e' => some '\x1b'
  | ' ' => some ' '
  | '"' => some '"'
  | '/' => some '/'
  | '\\' => some '\\'
  | 'N' => some '\u0085'
  | '_' => some '\u00a0'
  | 'L' => some '\u2028'
  | 'P' => some '\u2029'
  | _ => none

/-- Number of digits of a numeric escape. -/
def escapeWidth? : Char → Option Nat
  | 'x' => some 2
  | 'u' => some 4
  | 'U' => some 8
  | _ => none

/-- The character an escape stands for; the cursor is after the backslash. -/
def readEscape (c : Cursor) : Option (Char × Cursor) := do
  let ch ← c.at? 0
  match escapeWidth? ch with
  | some width =>
    let digits := (c.rest.drop 1).take width
    if digits.length < width then none
    let n ← hexDigits? digits
    if (0xD800 ≤ n && n ≤ 0xDFFF) || n > 0x10FFFF then none
    return (Char.ofNat n, c.skip (width + 1))
  | none => return (← escape? ch, c.skip)

/-- A run of a quoted scalar, up to a gap or the closing quote. The flag tells that an escaped line
break ended it. -/
def readQuotedRun (single : Bool) : Nat → List Char → Cursor → Option (List Char × Bool × Cursor)
  | 0, acc, c => some (acc.reverse, false, c)
  | fuel + 1, acc, c =>
    match c.at? 0 with
    | none => some (acc.reverse, false, c)
    | some ch =>
      if isSpace ch || isBreak ch then some (acc.reverse, false, c)
      else if single then
        if ch == '\'' then
          if c.isAt 1 '\'' then readQuotedRun single fuel ('\'' :: acc) (c.skip 2)
          else some (acc.reverse, false, c)
        else readQuotedRun single fuel (ch :: acc) c.skip
      else if ch == '"' then some (acc.reverse, false, c)
      else if ch == '\\' then
        if (c.at? 1).any isBreak then some (acc.reverse, true, c.skip.skipBreak)
        else match readEscape c.skip with
          | some (e, c) => readQuotedRun single fuel (e :: acc) c
          | none => none
      else readQuotedRun single fuel (ch :: acc) c.skip

/-- The content of a quoted scalar behind `acc`, which is backwards; the cursor is after the opening
quote. -/
def readQuoted (single : Bool) : Nat → List Char → Cursor → Option (List Char × Cursor)
  | 0, _, _ => none
  | fuel + 1, acc, c => do
    if c.atMarker || c.atEnd then none
    let (run, escaped, c) ← readQuotedRun single fuel [] c
    let acc := run.reverseAux acc
    if c.isAt 0 (if single then '\'' else '"') then return (acc.reverse, c.skip)
    let (g, c) ← readGap 0 fuel { broken := escaped } c
    readQuoted single fuel (g.folded.reverseAux acc) c

/-! ### Block scalars -/

/-- Which line breaks at the end of a block scalar stay. -/
inductive Chomping where
  | strip
  | clip
  | keep
deriving DecidableEq, Repr, Inhabited

/-- Breaks before a line of a block scalar, and the column its content starts at when none is
given. A tab in the indentation is refused. -/
def readBlockBreaks (indent : Option Nat) :
    Nat → List Char → Nat → Cursor → Option (List Char × Nat × Cursor)
  | 0, acc, widest, c => some (acc, widest, c)
  | fuel + 1, acc, widest, c =>
    let inside (column : Nat) : Bool := indent.all (column < ·)
    let run := (c.rest.takeWhile (· == ' ')).length
    let c := c.skip (match indent with
      | some n => min run (n - c.column)
      | none => run)
    let widest := max widest c.column
    if inside c.column && c.isAt 0 '\t' then none
    else if !c.nextIs isBreak then some (acc, widest, c)
    else
      let (br, c) := c.readBreak
      readBlockBreaks indent fuel (acc ++ br) widest c

/-- Lines of a block scalar at a column. The state is the text backwards, the break after the last
line, the breaks of empty lines behind it, and whether that line started with a space. -/
def readBlockLines (literal : Bool) (indent : Nat) :
    Nat → List Char → List Char → List Char → Bool → Cursor →
      Option (List Char × List Char × List Char × Cursor)
  | 0, acc, lead, trail, _, c => some (acc, lead, trail, c)
  | fuel + 1, acc, lead, trail, leadingBlank, c =>
    if c.column != indent || c.atEnd then some (acc, lead, trail, c)
    else
      let trailingBlank := c.nextIs isSpace
      let fold := !literal && lead == ['\n'] && !leadingBlank && !trailingBlank
      let acc := if fold then (if trail.isEmpty then ' ' :: acc else acc) else lead.reverseAux acc
      let acc := trail.reverseAux acc
      let line := c.rest.takeWhile fun ch => !isBreak ch
      let (br, c) := (c.skip line.length).readBreak
      match readBlockBreaks (some indent) (fuel + 1) [] 0 c with
      | none => none
      | some (trail, _, c) =>
        readBlockLines literal indent fuel (line.reverseAux acc) br trail trailingBlank c

/-- Indentation and chomping indicators of a block scalar, in either order. -/
def readBlockHeader (c : Cursor) : Option (Chomping × Option Nat × Cursor) :=
  let chomp (c : Cursor) : Option (Chomping × Cursor) :=
    if c.isAt 0 '+' then some (.keep, c.skip)
    else if c.isAt 0 '-' then some (.strip, c.skip)
    else none
  let digit (c : Cursor) : Option (Option Nat × Cursor) :=
    match c.at? 0 with
    | some d => if d == '0' then none
      else if d.isDigit then some (some (d.toNat - 48), c.skip) else some (none, c)
    | none => some (none, c)
  match chomp c with
  | some (k, c) => (digit c).map fun (n, c) => (k, n, c)
  | none =>
    (digit c).map fun (n, c) =>
      match n with
      | none => (.clip, n, c)
      | some _ =>
        match chomp c with
        | some (k, c) => (k, n, c)
        | none => (.clip, n, c)

/-- A block scalar; the cursor is after its indicator. `parent` is the column of the block around
it, and the text has no more than `limit` characters. -/
def readBlock (literal : Bool) (parent : Int) (limit : Nat) (c : Cursor) :
    Option (List Char × Cursor) := do
  let (chomping, increment, c) ← readBlockHeader c
  let c := c.skipWhile isSpace
  let c := if c.isAt 0 '#' then c.skipWhile (fun ch => !isBreak ch) else c
  if !c.atLineEnd then none
  let c := c.skipBreak
  let given := increment.map fun (n : Nat) => if parent ≥ 0 then (parent + n).toNat else n
  let (trail, widest, c) ← readBlockBreaks given (limit + 1) [] 0 c
  let indent := given.getD (max (max widest (parent + 1).toNat) 1)
  let (acc, lead, trail, c) ←
    readBlockLines literal indent (limit + 1) [] [] trail false c
  let kept := if chomping = .strip then [] else lead
  let kept := if chomping = .keep then kept ++ trail else kept
  return (acc.reverseAux kept, c)

/-! ### Anchors, tags and directives -/

/-- Characters that may follow an anchor name directly. -/
def endsAnchor (c : Char) : Bool :=
  isSpace c || isBreak c || "?:,]\x7d%@`".toList.contains c

/-- An anchor name; the cursor is after its indicator. -/
def readAnchor (c : Cursor) : Option (String × Cursor) :=
  let name := c.rest.takeWhile isNameChar
  let c := c.skip name.length
  if name.isEmpty || !(c.at? 0).all endsAnchor then none else some (String.ofList name, c)

/-- Characters of a tag address. -/
def isTagChar (full : Bool) (c : Char) : Bool :=
  isNameChar c || ";/?:@&=+$.%!~*'()".toList.contains c || (full && ",[]".toList.contains c)

/-- How many bytes a character takes that starts with this byte. -/
def leadWidth? (b : Nat) : Option Nat :=
  if b < 0x80 then some 1
  else if 0xC0 ≤ b ∧ b < 0xE0 then some 2
  else if 0xE0 ≤ b ∧ b < 0xF0 then some 3
  else if 0xF0 ≤ b ∧ b < 0xF8 then some 4
  else none

/-- Bytes of a character after its first one, each written with a percent sign. -/
def percentRest? : Nat → List Char → Option (List UInt8 × List Char)
  | 0, cs => some ([], cs)
  | n + 1, '%' :: a :: b :: rest => do
    let byte ← hexDigits? [a, b]
    if byte / 64 != 2 then none
    let (bytes, rest) ← percentRest? n rest
    return (UInt8.ofNat byte :: bytes, rest)
  | _, _ => none

/-- A character whose bytes are written with percent signs. Only the first bits of each byte are
looked at, so the bytes need not be a character. -/
def percentBytes? : List Char → Option (List UInt8 × List Char)
  | '%' :: a :: b :: rest => do
    let byte ← hexDigits? [a, b]
    let width ← leadWidth? byte
    let (bytes, rest) ← percentRest? (width - 1) rest
    return (UInt8.ofNat byte :: bytes, rest)
  | _ => none

/-- Undo percent escapes. -/
def unescapeTag? : Nat → List Char → Option (List UInt8)
  | 0, _ => some []
  | fuel + 1, cs =>
    match cs with
    | [] => some []
    | '%' :: _ => do
      let (bytes, rest) ← percentBytes? cs
      return bytes ++ (← unescapeTag? fuel rest)
    | c :: rest => (unescapeTag? fuel rest).map (Utf8.encode (String.singleton c) ++ ·)

/-- A tag address after `head`, which counts as read. A zero byte ends it. -/
def readTagAddress (full : Bool) (head : List Char) (c : Cursor) :
    Option (List UInt8 × Cursor) := do
  let run := c.rest.takeWhile (isTagChar full)
  if head.isEmpty && run.isEmpty then none
  let bytes := Utf8.encode (String.ofList (head.drop 1)) ++ (← unescapeTag? run.length run)
  return (bytes.takeWhile (· != 0), c.skip run.length)

/-- A tag handle; the cursor is at its exclamation mark. -/
def readTagHandle (directive : Bool) (c : Cursor) : Option (List Char × Cursor) :=
  if !c.isAt 0 '!' then none
  else
    let name := (c.rest.drop 1).takeWhile isNameChar
    let c := c.skip (name.length + 1)
    if c.isAt 0 '!' then some ('!' :: name ++ ['!'], c.skip)
    else if directive && !name.isEmpty then none
    else some ('!' :: name, c)

/-- A tag as handle and suffix; the cursor is at its exclamation mark. -/
def readTag (flow : Bool) (c : Cursor) : Option ((String × List UInt8) × Cursor) := do
  let ((handle, suffix), c) ←
    if c.isAt 1 '<' then do
      let (address, c) ← readTagAddress true [] (c.skip 2)
      if !c.isAt 0 '>' then none
      pure (([], address), c.skip)
    else do
      let (handle, c) ← readTagHandle false c
      if handle.length > 1 && handle.getLast? == some '!' then
        let (suffix, c) ← readTagAddress false [] c
        pure ((handle, suffix), c)
      else
        let (suffix, c) ← readTagAddress false handle c
        pure (if suffix.isEmpty then (([], [0x21]), c) else ((['!'], suffix), c))
  if !(flow && c.isAt 0 ',') && !c.gapAt 0 then none
  return ((String.ofList handle, suffix), c)

/-- A directive line. -/
inductive Directive where
  | version (major minor : Nat)
  | handle (handle : String) (address : List UInt8)
deriving Repr, Inhabited

/-- A run of digits as a number, at most nine of them. -/
def readNumber (c : Cursor) : Option (Nat × Cursor) :=
  let ds := c.rest.takeWhile Char.isDigit
  if ds.isEmpty || ds.length > 9 then none
  else some (ds.foldl (fun n d => n * 10 + (d.toNat - 48)) 0, c.skip ds.length)

/-- A directive; the cursor is at its percent sign. -/
def readDirective (c : Cursor) : Option (Directive × Cursor) := do
  let name := (c.rest.drop 1).takeWhile isNameChar
  let c := c.skip (name.length + 1)
  if name.isEmpty || !c.gapAt 0 then none
  let c := c.skipWhile isSpace
  let (d, c) ←
    if name == "YAML".toList then do
      let (major, c) ← readNumber c
      if !c.isAt 0 '.' then none
      let (minor, c) ← readNumber c.skip
      pure (Directive.version major minor, c)
    else if name == "TAG".toList then do
      let (handle, c) ← readTagHandle true c
      if !c.nextIs isSpace then none
      let c := c.skipWhile isSpace
      let (address, c) ← readTagAddress true [] c
      if !c.gapAt 0 then none
      pure (Directive.handle (String.ofList handle) address, c)
    else none
  let c := c.skipWhile isSpace
  let c := if c.isAt 0 '#' then c.skipWhile (fun ch => !isBreak ch) else c
  if !c.atLineEnd then none
  return (d, c.skipBreak)

end Scaffold.Yaml
