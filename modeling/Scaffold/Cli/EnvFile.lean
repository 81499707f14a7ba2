import Scaffold.Text.Alphanumeric
import Scaffold.Text.Basic

/-!
# Files of assignments

A file with lines `KEY=value`, possibly behind `export`. Values may be quoted: single quotes keep
everything, double quotes and bare values know escapes and references to other names. A quoted value
may go on over several lines, and a number sign behind a blank starts a comment.

`EnvFile.read` gives the assignments in order, `none` where the file is malformed.
-/

namespace Scaffold

namespace EnvFile

/-! ### Lines -/

/-- Where the reading of a line stands. -/
inductive Quoting where
  | bare
  | escape
  | single
  | singleEscape
  | double
  | doubleEscape
  | blank
deriving DecidableEq, Repr, Inhabited

/-- Whether a character separates within a line. -/
def isInnerBlank (c : Char) : Bool := isBlank c && c != '\n' && c != '\r'

/-- What a character outside of quotes leads to. -/
def bareStep (c : Char) : Quoting :=
  if c == '\\' then .escape
  else if c == '"' then .double
  else if c == '\x27' then .single
  else .bare

/-- The state after a character. -/
def step (q : Quoting) (c : Char) : Quoting :=
  match q with
  | .blank => bareStep c
  | .escape => .bare
  | .bare => if isInnerBlank c then .blank else bareStep c
  | .double => if c == '\\' then .doubleEscape else if c == '"' then .bare else .double
  | .doubleEscape => .double
  | .single => if c == '\\' then .singleEscape else if c == '\x27' then .bare else .single
  | .singleEscape => .single

/-- Read one physical line: what counts of it, and the state at its end, none at a comment. -/
def scanLine : Quoting → List Char → List Char × Option Quoting
  | q, [] => ([], some q)
  | q, c :: cs =>
    if q == .blank && c == '#' then ([], none)
    else
      let (kept, stop) := scanLine (step q c) cs
      (c :: kept, stop)

/-- A text without the line break at its end. -/
def dropBreak (cs : List Char) : List Char :=
  match cs.reverse with
  | '\n' :: '\r' :: rest => rest.reverse
  | '\n' :: rest => rest.reverse
  | _ => cs

/-- Physical lines, each with its line break. -/
def physicalLines : (fuel : Nat) → List Char → List (List Char)
  | 0, _ => []
  | _ + 1, [] => []
  | fuel + 1, c :: cs =>
    let line := (c :: cs).takeWhile (· != '\n')
    let rest := (c :: cs).dropWhile (· != '\n')
    (line ++ rest.take 1) :: physicalLines fuel (rest.drop 1)

/-- Join physical lines while a quote is open. `before` is what was joined so far. A line that is
still open at the end is `none`. -/
def logicalLines : Quoting → (before : List Char) → List (List Char) → List (Option (List Char))
  | q, _, [] => if q == .bare then [] else [none]
  | q, before, line :: rest =>
    let all := before ++ line
    if (Chars.trimStart all).head? == some '#' then some [] :: logicalLines .bare [] rest
    else match scanLine q line with
      | (kept, none) => some (before ++ kept) :: logicalLines .bare [] rest
      | (_, some .bare) => some (dropBreak all) :: logicalLines .bare [] rest
      | (_, some q) => logicalLines q all rest

/-! ### Values -/

/-- How far a reference is read. -/
inductive Reference where
  | no
  | bare
  | braced
deriving DecidableEq, Repr, Inhabited

/-- State of reading a value. -/
structure ValueState where
  single : Bool := false
  double : Bool := false
  escaped : Bool := false
  ended : Bool := false
  reference : Reference := .no
  name : List Char := []
  output : List Char := []
deriving Inhabited

/-- Put the value of the reference being read. -/
def ValueState.substitute (lookup : String → String) (s : ValueState) : ValueState :=
  { s with output := s.output ++ (lookup (String.ofList s.name)).toList, name := [] }

/-- What a character behind a backslash stands for. -/
def escaped? (c : Char) : Option Char :=
  if ['\\', '\x27', '"', '$', ' '].contains c then some c
  else if c == 'n' then some '\n'
  else none

/-- Go on with a character within a reference. -/
def ValueState.inReference (lookup : String → String) (s : ValueState) (c : Char) : ValueState :=
  if isAlphanumeric c then { s with name := s.name ++ [c] }
  else if s.reference == .braced then
    if c == '\x7d' then { s.substitute lookup with reference := .no }
    else { s with name := s.name ++ [c] }
  else if c == '\x7b' && s.name.isEmpty then { s with reference := .braced }
  else
    let s := s.substitute lookup
    if c == '$' then s else { s with reference := .no, output := s.output ++ [c] }

/-- Go on with a character outside of references. -/
def ValueState.plain (s : ValueState) (c : Char) : ValueState :=
  if c == '$' then { s with reference := .bare }
  else if s.double then
    if c == '"' then { s with double := false }
    else if c == '\\' then { s with escaped := true }
    else { s with output := s.output ++ [c] }
  else if c == '\x27' then { s with single := true }
  else if c == '"' then { s with double := true }
  else if c == '\\' then { s with escaped := true }
  else if c == ' ' || c == '\t' then { s with ended := true }
  else { s with output := s.output ++ [c] }

/-- Read a value character by character; behind an ended value only a comment may come. -/
def readValue (lookup : String → String) : ValueState → List Char → Option ValueState
  | s, [] => some s
  | s, c :: cs =>
    if s.ended then
      if c == ' ' || c == '\t' then readValue lookup s cs
      else if c == '#' then some s
      else none
    else if s.escaped then
      (escaped? c).bind fun d =>
        readValue lookup { s with escaped := false, output := s.output ++ [d] } cs
    else if s.single then
      if c == '\x27' then readValue lookup { s with single := false } cs
      else readValue lookup { s with output := s.output ++ [c] } cs
    else if s.reference != .no then readValue lookup (s.inReference lookup c) cs
    else readValue lookup (s.plain c) cs

/-- The value of a text, unless a quote or brace is left open. -/
def value? (lookup : String → String) (cs : List Char) : Option String := do
  let s ← readValue lookup {} cs
  if s.reference == .braced || s.single || s.double then none
  else return String.ofList (s.substitute lookup).output

/-! ### Assignments -/

/-- A key at the front of a text, and what follows. -/
def key? (cs : List Char) : Option (String × List Char) :=
  match cs with
  | [] => none
  | c :: _ =>
    if c.isAlpha || c == '_' then
      let key := cs.takeWhile fun c => c.isAlphanum || c == '_' || c == '.'
      some (String.ofList key, cs.drop key.length)
    else none

/-- What follows an equals sign. -/
def afterEquals? (cs : List Char) : Option (List Char) :=
  match cs with
  | '=' :: rest => some rest
  | _ => none

/-- The key of an assignment and the text of its value. -/
def assignment? (cs : List Char) : Option (String × List Char) := do
  let (key, rest) ← key? cs
  let rest := Chars.trimStart rest
  match afterEquals? rest with
  | some value => return (key, Chars.trimStart value)
  | none =>
    if key = "export" then
      let (key, rest) ← key? rest
      let value ← afterEquals? (Chars.trimStart rest)
      return (key, Chars.trimStart value)
    else none

/-- What a name stands for: the environment counts before what was assigned so far. -/
def lookup (environment : String → Option String) (assigned : List (String × String))
    (name : String) : String :=
  (environment name <|> assigned.reverse.lookup name).getD ""

/-- Read logical lines; the result is `none` where one is malformed. -/
def readLines (environment : String → Option String) :
    List (Option (List Char)) → List (String × String) → Option (List (String × String))
  | [], assigned => some assigned
  | none :: _, _ => none
  | some line :: rest, assigned =>
    let line := Chars.trimStart (Chars.trimEnd line)
    if line.isEmpty || line.head? == some '#' then readLines environment rest assigned
    else do
      let (key, text) ← assignment? line
      let value ←
        if text.isEmpty || text.head? == some '#' then some ""
        else value? (lookup environment assigned) text
      readLines environment rest (assigned ++ [(key, value)])

/-- The assignments of a file, in order. -/
def read? (environment : String → Option String) (text : String) :
    Option (List (String × String)) :=
  let cs := text.toList
  readLines environment (logicalLines .bare [] (physicalLines (cs.length + 1) cs)) []

end EnvFile

end Scaffold
