import Scaffold.Yaml.Lexeme

/-!
# Tokens

A document text as a list of tokens. Indentation becomes explicit: each block collection has a
start and an end token, and each implicit mapping key has a key token in front of it, put there when
the colon after it is seen.

`Token.scan?` gives the tokens of a text, or nothing when it is malformed.
-/

namespace Scaffold.Yaml

/-- A token of a document. -/
inductive Token where
  | directive (d : Directive)
  | documentStart
  | documentEnd
  | blockSequenceStart
  | blockMappingStart
  | blockEnd
  | flowSequenceStart
  | flowSequenceEnd
  | flowMappingStart
  | flowMappingEnd
  | blockEntry
  | flowEntry
  | key
  | value
  | alias (name : String)
  | anchor (name : String)
  | tag (handle : String) (suffix : List UInt8)
  | scalar (style : Style) (text : String)
deriving Repr, Inhabited

/-- A place where an implicit key may have started. -/
structure KeySite where
  required : Bool
  position : Nat
  line : Nat
  column : Nat
  index : Nat
deriving Repr, Inhabited

/-- State of a scan: where it is, the length of the text, the columns of the open blocks, the
possible key of each open flow collection (innermost first), and the tokens so far. -/
structure Scan where
  cursor : Cursor
  limit : Nat
  flowLevel : Nat := 0
  indent : Int := -1
  indents : List Int := []
  keyAllowed : Bool := true
  keys : List (Option KeySite) := [none]
  tokens : Array Token := #[]
deriving Inhabited

namespace Scan

/-- Whether the scan is inside a flow collection. -/
def inFlow (s : Scan) : Bool := s.flowLevel > 0

def push (s : Scan) (t : Token) : Scan := { s with tokens := s.tokens.push t }

/-- Put a token at an earlier position. -/
def pushAt (s : Scan) (position : Nat) (t : Token) : Scan :=
  { s with tokens := s.tokens.insertIdxIfInBounds position t }

/-- Give up the possible key of this level; a required one is an error. -/
def dropKey (s : Scan) : Option Scan :=
  match s.keys with
  | some site :: rest => if site.required then none else some { s with keys := none :: rest }
  | _ => some s

/-- Note that a key may start here. -/
def saveKey (s : Scan) : Option Scan :=
  if s.keyAllowed then do
    let c := s.cursor
    let site : KeySite :=
      { required := !s.inFlow && s.indent == c.column, position := s.tokens.size,
        line := c.line, column := c.column, index := c.index }
    let s ← s.dropKey
    return { s with keys := some site :: s.keys.drop 1 }
  else some s

/-- Give up possible keys that a line break or 1024 characters separate from here. -/
def dropStaleKeys (s : Scan) : Option Scan := do
  let c := s.cursor
  let keys ← s.keys.mapM fun key =>
    match key with
    | some site =>
      if site.line < c.line || site.index + 1024 < c.index then
        if site.required then none else some none
      else some key
    | none => some none
  return { s with keys }

/-- Open a block at a column if it is deeper than the current one. -/
def openBlock (s : Scan) (column : Int) (position : Option Nat) (t : Token) : Scan :=
  if s.inFlow || s.indent ≥ column then s
  else
    let s := { s with indents := s.indent :: s.indents, indent := column }
    match position with
    | some n => s.pushAt n t
    | none => s.push t

/-- Close one block per open column beyond the given one. -/
def closeBlocksFrom (column : Int) : List Int → Scan → Scan
  | [], s => s
  | outer :: rest, s =>
    if s.indent > column then
      closeBlocksFrom column rest { (s.push .blockEnd) with indent := outer, indents := rest }
    else s

/-- Close the blocks that are deeper than a column. -/
def closeBlocks (s : Scan) (column : Int) : Scan :=
  if s.inFlow then s else closeBlocksFrom column s.indents s

/-- Move to the next token: over spaces, comments and line breaks. A tab counts as a space only
where no key may start. A byte order mark at the start of a line takes a column. -/
def skipToToken : Nat → Scan → Scan
  | 0, s => s
  | fuel + 1, s =>
    let c := s.cursor
    let c := if c.column == 0 && c.isAt 0 '\ufeff' then c.skip else c
    let tabs := s.inFlow || !s.keyAllowed
    let c := c.skipWhile fun ch => ch == ' ' || (tabs && ch == '\t')
    let c := if c.isAt 0 '#' then c.skipWhile (fun ch => !isBreak ch) else c
    if c.nextIs isBreak then
      skipToToken fuel { s with cursor := c.skipBreak, keyAllowed := s.keyAllowed || !s.inFlow }
    else { s with cursor := c }

/-- A one-character token. -/
def single (s : Scan) (t : Token) : Scan := { (s.push t) with cursor := s.cursor.skip }

/-- A token that ends all blocks, `n` characters long. -/
def marker (s : Scan) (t : Token) : Option Scan := do
  let s ← (s.closeBlocks (-1)).dropKey
  return { (s.push t) with keyAllowed := false, cursor := s.cursor.skip 3 }

def directive (s : Scan) : Option Scan := do
  let s ← (s.closeBlocks (-1)).dropKey
  let (d, c) ← readDirective s.cursor
  return { (s.push (.directive d)) with keyAllowed := false, cursor := c }

def flowStart (s : Scan) (t : Token) : Option Scan := do
  let s ← s.saveKey
  return { (s.single t) with
    keys := none :: s.keys, flowLevel := s.flowLevel + 1, keyAllowed := true }

def flowEnd (s : Scan) (t : Token) : Option Scan := do
  let s ← s.dropKey
  let s := if s.inFlow then { s with keys := s.keys.drop 1, flowLevel := s.flowLevel - 1 } else s
  return { (s.single t) with keyAllowed := false }

def flowEntry (s : Scan) : Option Scan := do
  let s ← s.dropKey
  return { (s.single .flowEntry) with keyAllowed := true }

def blockEntry (s : Scan) : Option Scan := do
  if !s.inFlow && !s.keyAllowed then none
  let s ← (s.openBlock s.cursor.column none .blockSequenceStart).dropKey
  return { (s.single .blockEntry) with keyAllowed := true }

def keyIndicator (s : Scan) : Option Scan := do
  if !s.inFlow && !s.keyAllowed then none
  let s ← (s.openBlock s.cursor.column none .blockMappingStart).dropKey
  return { (s.single .key) with keyAllowed := !s.inFlow }

def valueIndicator (s : Scan) : Option Scan := do
  match s.keys with
  | some site :: rest =>
    let s := s.pushAt site.position .key
    let s := s.openBlock site.column (some site.position) .blockMappingStart
    return { (s.single .value) with keys := none :: rest, keyAllowed := false }
  | _ =>
    if !s.inFlow && !s.keyAllowed then none
    let s := s.openBlock s.cursor.column none .blockMappingStart
    return { (s.single .value) with keyAllowed := !s.inFlow }

/-- A token that may be a key itself, read by `read`. -/
def node (s : Scan) (read : Scan → Option (Token × Cursor)) : Option Scan := do
  let s ← s.saveKey
  let (t, c) ← read s
  return { (s.push t) with cursor := c, keyAllowed := false }

def blockScalar (s : Scan) (literal : Bool) : Option Scan := do
  let s ← s.dropKey
  let (text, c) ← readBlock literal s.indent s.limit s.cursor.skip
  let t := Token.scalar (if literal then .literal else .folded) (String.ofList text)
  return { (s.push t) with cursor := c, keyAllowed := true }

def quotedScalar (s : Scan) (quoteOnce : Bool) : Option Scan :=
  s.node fun s => do
    let (text, c) ← readQuoted quoteOnce (s.limit + 1) [] s.cursor.skip
    return (.scalar (if quoteOnce then .singleQuoted else .doubleQuoted) (String.ofList text), c)

def plainScalar (s : Scan) : Option Scan := do
  let s ← s.saveKey
  let (text, broken, c) ←
    readPlain s.inFlow (s.indent + 1).toNat (s.limit + 1) [] {} s.cursor
  return { (s.push (.scalar .plain (String.ofList text))) with cursor := c, keyAllowed := broken }

/-- Indicators that cannot start a plain scalar. -/
def isIndicator (c : Char) : Bool :=
  isSpace c || isBreak c || "-?:,[]\x7b\x7d#&*!|>'\"%@`".toList.contains c

/-- Whether a plain scalar starts here. -/
def startsPlain (s : Scan) : Bool :=
  let c := s.cursor
  match c.at? 0 with
  | none => false
  | some ch =>
    !isIndicator ch || (ch == '-' && !(c.at? 1).any isSpace) ||
      (!s.inFlow && (ch == '?' || ch == ':') && !c.gapAt 1)

/-- Read one token at a place that is not the end of the text. -/
def token (s : Scan) : Option Scan :=
  let c := s.cursor
  match c.at? 0 with
  | none => none
  | some ch =>
    if c.column == 0 && ch == '%' then s.directive
    else if c.markerOf '-' then s.marker .documentStart
    else if c.markerOf '.' then s.marker .documentEnd
    else if ch == '[' then s.flowStart .flowSequenceStart
    else if ch == '{' then s.flowStart .flowMappingStart
    else if ch == ']' then s.flowEnd .flowSequenceEnd
    else if ch == '}' then s.flowEnd .flowMappingEnd
    else if ch == ',' then s.flowEntry
    else if ch == '-' && c.gapAt 1 then s.blockEntry
    else if ch == '?' && (s.inFlow || c.gapAt 1) then s.keyIndicator
    else if ch == ':' && (s.inFlow || c.gapAt 1) then s.valueIndicator
    else if ch == '*' then
      s.node fun s => (readAnchor s.cursor.skip).map fun (n, c) => (.alias n, c)
    else if ch == '&' then
      s.node fun s => (readAnchor s.cursor.skip).map fun (n, c) => (.anchor n, c)
    else if ch == '!' then
      s.node fun s => (readTag s.inFlow s.cursor).map fun ((h, x), c) => (.tag h x, c)
    else if ch == '|' && !s.inFlow then s.blockScalar true
    else if ch == '>' && !s.inFlow then s.blockScalar false
    else if ch == '\'' then s.quotedScalar true
    else if ch == '"' then s.quotedScalar false
    else if s.startsPlain then s.plainScalar
    else none

/-- Close everything at the end of the text. -/
def finish (s : Scan) : Option Scan := (s.closeBlocks (-1)).dropKey

/-- Read all tokens. -/
def run : Nat → Scan → Option Scan
  | 0, _ => none
  | fuel + 1, s => do
    let s ← (skipToToken (s.limit + 1) s).dropStaleKeys
    let s := s.closeBlocks s.cursor.column
    if s.cursor.atEnd then s.finish
    else run fuel (← s.token)

end Scan

/-- The tokens of a document text. -/
def Token.scan? (text : String) : Option (List Token) := do
  let cs := text.toList
  if !cs.all isAllowed then none
  let s ← Scan.run (cs.length + 2) { cursor := { rest := cs }, limit := cs.length }
  return s.tokens.toList

end Scaffold.Yaml
