import Scaffold.Text.Basic

/-!
# Positions in a document text

A `Cursor` is what is left of a document text together with the line and column reached. The moves
on it are the only ones that count lines and columns, so a scanner never does.
-/

namespace Scaffold.Yaml

/-- Line breaks. -/
def isBreak (c : Char) : Bool :=
  c == '\n' || c == '\r' || c == '\u0085' || c == '\u2028' || c == '\u2029'

/-- Spaces and tabs. -/
def isSpace (c : Char) : Bool := c == ' ' || c == '\t'

/-- Characters of anchor names and tag handles. -/
def isNameChar (c : Char) : Bool := c.isAlphanum || c == '_' || c == '-'

/-- Characters a document may hold. -/
def isAllowed (c : Char) : Bool :=
  let n := c.toNat
  n == 0x09 || n == 0x0A || n == 0x0D || (0x20 ≤ n && n ≤ 0x7E) || n == 0x85 ||
    (0xA0 ≤ n && n ≤ 0xD7FF) || (0xE000 ≤ n && n ≤ 0xFFFD) || 0x10000 ≤ n

/-- A position in a text. -/
structure Cursor where
  rest : List Char
  line : Nat := 0
  column : Nat := 0
  index : Nat := 0
deriving Repr, Inhabited

namespace Cursor

/-- The character `n` places ahead. -/
def at? (c : Cursor) (n : Nat) : Option Char := c.rest[n]?

/-- Whether the character `n` places ahead is `ch`. -/
def isAt (c : Cursor) (n : Nat) (ch : Char) : Bool := c.at? n == some ch

/-- Whether a space, a break or the end is `n` places ahead. -/
def gapAt (c : Cursor) (n : Nat) : Bool :=
  match c.at? n with
  | none => true
  | some ch => isSpace ch || isBreak ch

/-- Whether a break or the end comes next. -/
def atLineEnd (c : Cursor) : Bool :=
  match c.at? 0 with
  | none => true
  | some ch => isBreak ch

/-- Whether the text ends here. -/
def atEnd (c : Cursor) : Bool := c.rest.isEmpty

/-- Whether a character of a class comes next. -/
def nextIs (c : Cursor) (p : Char → Bool) : Bool := (c.at? 0).any p

/-- Move over `n` characters of one line. -/
def skip (c : Cursor) (n : Nat := 1) : Cursor :=
  { c with rest := c.rest.drop n, column := c.column + n, index := c.index + n }

/-- Move over a run of characters of one line. -/
def skipWhile (c : Cursor) (p : Char → Bool) : Cursor :=
  c.skip (c.rest.takeWhile p).length

/-- Move over a line break, which reads as a line feed unless it is a line or paragraph
separator. At any other place nothing happens. -/
def readBreak (c : Cursor) : List Char × Cursor :=
  let moved (n : Nat) : Cursor :=
    { c with rest := c.rest.drop n, line := c.line + 1, column := 0, index := c.index + n }
  match c.rest with
  | '\r' :: '\n' :: _ => (['\n'], moved 2)
  | ch :: _ =>
    if ch == '\u2028' || ch == '\u2029' then ([ch], moved 1)
    else if isBreak ch then (['\n'], moved 1)
    else ([], c)
  | [] => ([], c)

/-- Move over a line break. -/
def skipBreak (c : Cursor) : Cursor := c.readBreak.2

/-- Whether a document marker of three `ch` stands here at the start of a line. -/
def markerOf (c : Cursor) (ch : Char) : Bool :=
  c.column == 0 && c.isAt 0 ch && c.isAt 1 ch && c.isAt 2 ch && c.gapAt 3

/-- Whether a document marker stands here. -/
def atMarker (c : Cursor) : Bool := c.markerOf '-' || c.markerOf '.'

end Cursor

end Scaffold.Yaml
