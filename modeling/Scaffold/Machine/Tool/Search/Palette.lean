import Scaffold.Text.Basic

/-!
# Colours of found lines

Matches, file names, numbers and separators can be shown in colours, which a description may change:
names of parts with the colours they get, parted by colons.
-/

namespace Scaffold

namespace Tool

namespace Search

/-- The colours of what is shown. A part without a colour is shown plain. -/
structure Palette where
  selectedMatch : String := "01;31"
  contextMatch : String := "01;31"
  selectedLine : String := ""
  contextLine : String := ""
  file : String := "35"
  lineNumber : String := "32"
  byteOffset : String := "32"
  separator : String := "36"
  /-- Whether the colours of lines are exchanged where lines without a match are shown. -/
  exchanged : Bool := false
  /-- Whether the rest of the line on the screen is erased with each change of colour. -/
  erases : Bool := true
deriving DecidableEq, Repr, Inhabited

namespace Palette

/-- No colours at all. -/
def plain : Palette :=
  { selectedMatch := "", contextMatch := "", file := "", lineNumber := "", byteOffset := "",
    separator := "" }

/-- What turns a colour on. -/
def start (p : Palette) (colour : String) : String :=
  if colour.isEmpty then ""
  else "\x1b[" ++ colour ++ "m" ++ if p.erases then "\x1b[K" else ""

/-- A text in a colour. -/
def paint (p : Palette) (colour text : String) : String :=
  if colour.isEmpty then text
  else p.start colour ++ text ++ "\x1b[m" ++ if p.erases then "\x1b[K" else ""

/-- Apply one entry of a description. -/
def apply (p : Palette) (name : String) (colour : Option String) : Palette :=
  match name, colour with
  | "mt", some c => { p with selectedMatch := c, contextMatch := c }
  | "mt", none => { p with contextMatch := p.selectedMatch }
  | "ms", some c => { p with selectedMatch := c }
  | "mc", some c => { p with contextMatch := c }
  | "sl", some c => { p with selectedLine := c }
  | "cx", some c => { p with contextLine := c }
  | "fn", some c => { p with file := c }
  | "ln", some c => { p with lineNumber := c }
  | "bn", some c => { p with byteOffset := c }
  | "se", some c => { p with separator := c }
  | "rv", _ => { p with exchanged := true }
  | "ne", _ => { p with erases := false }
  | _, _ => p

/-- Whether a text consists of what colours are made of. -/
def isColour (text : String) : Bool := text.toList.all fun c => c == ';' || c.isDigit

/-- Apply a description up to its first mistake. -/
def describe : Palette → List String → Palette
  | p, [] => p
  | p, entry :: rest =>
    match Text.split '=' entry with
    | [name] => describe (p.apply name none) rest
    | [name, colour] =>
      if name.isEmpty || !isColour colour then p else describe (p.apply name (some colour)) rest
    | _ => p

/-- The colour of a line. -/
def lineColour (p : Palette) (isSelected inverted : Bool) : String :=
  if isSelected != (inverted && p.exchanged) then p.selectedLine else p.contextLine

/-- The parts of a line behind a place, given the matches: what is between them, and they. -/
def painted (p : Palette) (line found : String) : (text : List Char) → (place : Nat) →
    List (Nat × Nat) → String
  | text, _, [] =>
    if line.isEmpty then String.ofList text
    else
      -- A carriage return at the end is not coloured.
      let ending := if text.getLast? == some '\r' then "\r" else ""
      let body := text.take (text.length - ending.length)
      (if body.isEmpty then "" else p.paint line (String.ofList body)) ++ ending
  | text, place, (a, b) :: rest =>
    p.start line ++ String.ofList (text.take (a - place)) ++
      p.paint found (String.ofList ((text.drop (a - place)).take (b - a))) ++
      p.painted line found (text.drop (b - place)) b rest

end Palette

end Search

end Tool

end Scaffold
