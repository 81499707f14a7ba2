import Scaffold.Text.Alphanumeric
import Scaffold.Text.Basic

/-!
# Patterns of fields

A filter may ask for the value of a field with a regular expression. No message has such fields, so
only one thing about the expression counts: whether it is well formed, because a malformed one
spoils the whole filter. Braces end the field they stand in, so nothing with a closing brace can be
written here.

* `FieldPattern.isNumber` is the notation of numbers, which are no expressions.
* `FieldPattern.isWellFormed` decides whether an expression can be read and compiled: groups and
  classes close, repetitions have something to repeat, escapes and flags are known, nothing can
  match half a character, and word boundaries look at ASCII only.
-/

namespace Scaffold.FieldPattern

/-! ### Numbers -/

/-- The part of a number behind the mantissa: nothing, or an exponent. -/
def isExponent : List Char → Bool
  | [] => true
  | e :: cs =>
    let digits := match cs with
      | '+' :: rest | '-' :: rest => rest
      | _ => cs
    (e == 'e' || e == 'E') && !digits.isEmpty && digits.all Char.isDigit

/-- Whether a text is a number, with or without a sign. -/
def isNumber (cs : List Char) : Bool :=
  let body := match cs with
    | '+' :: rest | '-' :: rest => rest
    | _ => cs
  let whole := body.takeWhile Char.isDigit
  let behind := body.dropWhile Char.isDigit
  let (part, rest) := match behind with
    | '.' :: more => (more.takeWhile Char.isDigit, more.dropWhile Char.isDigit)
    | _ => ([], behind)
  let named := ["inf", "infinity", "nan"].contains (String.ofList (body.map Char.toLower))
  named || ((!whole.isEmpty || !part.isEmpty) && isExponent rest)

/-! ### Modes and depths -/

/-- What flags have an effect on whether an expression is well formed. -/
structure Mode where
  spaced : Bool := false
  wide : Bool := true
deriving DecidableEq, Repr, Inhabited

/-- The heights of what stands in a row, the last first; `none` for what cannot be repeated. -/
abbrev Row := List (Option Nat)

/-- The height of a row: one thing is as high as itself. -/
def Row.height : Row → Nat
  | [] => 0
  | [h] => h.getD 0
  | hs => hs.foldl (fun n h => max n (h.getD 0)) 0 + 1

/-- An open group: the mode around it, the rows of its finished alternatives and the row at its
end. -/
structure Level where
  mode : Mode := {}
  finished : List Row := []
  row : Row := []
deriving Inhabited

/-- The height of what a group holds. -/
def Level.height (l : Level) : Nat :=
  if l.finished.isEmpty then l.row.height
  else (l.row :: l.finished).foldl (fun n r => max n r.height) 0 + 1

/-- How deep the parts of an expression may lie in each other. -/
def heightLimit : Nat := 250

/-- Blanks and comments skipped. -/
def skipSpace : List Char → List Char
  | [] => []
  | c :: cs =>
    if isBlank c then skipSpace cs
    else if c == '#' then skipComment cs
    else c :: cs
where
  /-- The rest of a comment skipped. -/
  skipComment : List Char → List Char
    | [] => []
    | c :: cs => if c == '\n' then skipSpace cs else skipComment cs

/-- What comes next: blanks and comments count only where they are not ignored. -/
def Mode.skip (m : Mode) (cs : List Char) : List Char := if m.spaced then skipSpace cs else cs

/-! ### Escapes -/

/-- What an escape or a single character stands for. -/
inductive Piece where
  | char (c : Char) (byte : Bool)
  | set
  | place
deriving Repr, Inhabited

/-- The value of a hexadecimal digit. -/
def hexDigit? (c : Char) : Option Nat :=
  if c.isDigit then some (c.toNat - 48)
  else if 'a' ≤ c && c ≤ 'f' then some (c.toNat - 87)
  else if 'A' ≤ c && c ≤ 'F' then some (c.toNat - 55)
  else none

/-- The value of so many hexadecimal digits. -/
def hex? (m : Mode) : Nat → Nat → List Char → Option (Nat × List Char)
  | 0, n, cs => some (n, cs)
  | k + 1, n, cs =>
    match m.skip cs with
    | [] => none
    | c :: rest => (hexDigit? c).bind fun d => hex? m k (n * 16 + d) rest

/-- Whether a number is the code of a character. -/
def isCode (n : Nat) : Bool := n < 0xD800 || (0xDFFF < n && n < 0x110000)

/-- A character given by its code: in narrow mode two digits name a byte, which must be ASCII. -/
def coded? (m : Mode) (digits : Nat) (cs : List Char) : Option (Piece × List Char) := do
  let (n, rest) ← hex? m digits 0 cs
  if !isCode n then none
  else if !m.wide && digits == 2 && n > 0x7F then none
  else some (.char (Char.ofNat n) true, m.skip rest)

/-- Characters that lose a special meaning behind a backslash. -/
def isEscapable (c : Char) : Bool :=
  c.toNat < 128 && !c.isAlphanum && c != '<' && c != '>'

/-- Letters that are general categories. -/
def categories : List Char := "clmnpsz".toList

/-- What stands behind a backslash. -/
def escape? (m : Mode) : List Char → Option (Piece × List Char)
  | [] => none
  | c :: cs =>
    if c == 'x' then coded? m 2 cs
    else if c == 'u' then coded? m 4 cs
    else if c == 'U' then coded? m 8 cs
    else if c == 'p' || c == 'P' then
      match cs with
      | k :: rest => if m.wide && categories.contains k.toLower then some (.set, rest) else none
      | [] => none
    else if "dsw".toList.contains c then some (.set, cs)
    else if "DSW".toList.contains c then if m.wide then some (.set, cs) else none
    else if isEscapable c then some (.char c false, cs)
    else if c == 'a' then some (.char '\x07' false, cs)
    else if c == 'f' then some (.char '\x0c' false, cs)
    else if c == 't' then some (.char '\t' false, cs)
    else if c == 'n' then some (.char '\n' false, cs)
    else if c == 'r' then some (.char '\r' false, cs)
    else if c == 'v' then some (.char '\x0b' false, cs)
    else if c == 'A' || c == 'z' then some (.place, cs)
    else if "bB<>".toList.contains c then if m.wide then none else some (.place, cs)
    else none

/-! ### Classes -/

/-- The names of classes in brackets and colons. -/
def classNames : List String :=
  ["alnum", "alpha", "ascii", "blank", "cntrl", "digit", "graph", "lower", "print", "punct",
   "space", "upper", "word", "xdigit"]

/-- A named class behind its opening bracket: whether it is negated, and what follows. -/
def namedClass? : List Char → Option (Bool × List Char)
  | ':' :: cs =>
    let (negated, cs) := match cs with
      | '^' :: rest => (true, rest)
      | _ => (false, cs)
    match cs.dropWhile (· != ':') with
    | ':' :: ']' :: rest =>
      if classNames.contains (String.ofList (cs.takeWhile (· != ':'))) then some (negated, rest)
      else none
    | _ => none
  | _ => none

/-- Dashes at the start of a class are members of it. -/
def skipDashes (m : Mode) : Nat → List Char → Nat × List Char
  | fuel + 1, '-' :: cs => let (n, rest) := skipDashes m fuel (m.skip cs); (n + 1, rest)
  | _, cs => (0, cs)

/-- Behind the opening bracket of a class: a negation, dashes, and a closing bracket that is a
member because it comes first. A narrow class cannot be negated. -/
def openClass? (m : Mode) (cs : List Char) : Option (List Char) :=
  let cs := m.skip cs
  let (negated, cs) := match cs with
    | '^' :: rest => (true, m.skip rest)
    | _ => (false, cs)
  let (dashes, cs) := skipDashes m cs.length cs
  if negated && !m.wide then none
  else match cs with
    | ']' :: rest => if dashes == 0 then some (m.skip rest) else some cs
    | _ => some cs

/-- One member of a class, or one end of a range. -/
def member? (m : Mode) : List Char → Option (Piece × List Char)
  | [] => none
  | '\\' :: cs => do
    let (p, rest) ← escape? m cs
    match p with
    | .place => none
    | _ => some (p, rest)
  | c :: cs => if m.wide || c.toNat < 128 then some (.char c false, cs) else none

/-- A member or a range of a class. -/
def range? (m : Mode) (cs : List Char) : Option (List Char) := do
  let (first, rest) ← member? m cs
  match m.skip rest with
  | '-' :: more =>
    match m.skip more with
    | ']' :: _ | '-' :: _ => some ('-' :: more)
    | more =>
      let (last, rest) ← member? m more
      match first, last with
      | .char a _, .char b _ => if a ≤ b then some rest else none
      | _, _ => none
  | rest => some rest

/-- The rest of `depth` open classes. -/
def class? (m : Mode) : Nat → Nat → List Char → Option (List Char)
  | 0, _, _ => none
  | fuel + 1, depth, cs =>
    match m.skip cs with
    | [] => none
    | '[' :: rest =>
      match namedClass? rest with
      | some (negated, rest) => if negated && !m.wide then none else class? m fuel depth rest
      | none => (openClass? m rest).bind (class? m fuel (depth + 1))
    | ']' :: rest => if depth ≤ 1 then some rest else class? m fuel (depth - 1) rest
    | '&' :: '&' :: rest | '-' :: '-' :: rest | '~' :: '~' :: rest => class? m fuel depth rest
    | rest => (range? m rest).bind (class? m fuel depth)

/-! ### Groups -/

/-- Whether a name can have a character. -/
def isNameChar (first : Bool) (c : Char) : Bool :=
  c == '_' || (isAlphanumeric c && !(first && c.isDigit)) ||
    (!first && (c == '.' || c == '[' || c == ']'))

/-- The name of a group, and what stands behind it. -/
def groupName? (cs : List Char) : Option (String × List Char) :=
  let name := cs.takeWhile (· != '>')
  match name, cs.dropWhile (· != '>') with
  | c :: more, _ :: rest =>
    if isNameChar true c && more.all (isNameChar false) then some (String.ofList name, rest)
    else none
  | _, _ => none

/-- Flags up to the colon or parenthesis that ends them, and the mode they give. -/
def flags? : List Char → (seen : List Char) → Mode → Option (Char × Bool × Mode × List Char)
  | [], _, _ => none
  | c :: cs, seen, m =>
    let negative := seen.contains '-'
    if c == ':' || c == ')' then
      if seen.head? == some '-' then none else some (c, !seen.isEmpty, m, cs)
    else if seen.contains c || !"imsUuRx-".toList.contains c then none
    else
      let m := if c == 'x' then { m with spaced := !negative } else m
      let m := if c == 'u' then { m with wide := !negative } else m
      flags? cs (c :: seen) m

/-- How far an expression is read: its mode, the open groups, and the names of groups. -/
structure State where
  mode : Mode := {}
  level : Level := {}
  outer : List Level := []
  names : List String := []
deriving Inhabited

namespace State

/-- Add something to the row at the end. -/
def push (s : State) (height : Option Nat) : State :=
  { s with level := { s.level with row := height :: s.level.row } }

/-- Open a group in which a mode holds. -/
def enter (s : State) (mode : Mode) : State :=
  { s with mode, level := { mode := s.mode }, outer := s.level :: s.outer }

/-- Open what stands behind a parenthesis: a group, or flags for the rest of this one. -/
def parenthesis? (s : State) (cs : List Char) : Option (State × List Char) :=
  let named (cs : List Char) : Option (State × List Char) := do
    let (name, rest) ← groupName? cs
    if s.names.contains name then none
    else some (({ s with names := name :: s.names }).enter s.mode, rest)
  match s.mode.skip cs with
  | '?' :: 'P' :: '<' :: rest => named rest
  | '?' :: '<' :: rest => named rest
  | '?' :: rest => do
    let (last, given, mode, rest) ← flags? rest [] s.mode
    if last == ':' then some (s.enter mode, rest)
    else if given then some ({ s with mode }.push none, rest)
    else none
  | rest => some (s.enter s.mode, rest)

/-- Close the innermost group. -/
def close? (s : State) : Option State :=
  match s.outer with
  | [] => none
  | l :: outer =>
    let height := s.level.height + 1
    some ({ s with mode := s.level.mode, level := l, outer }.push (some height))

/-- Repeat what stands last in the row. -/
def again? (s : State) : Option State :=
  match s.level.row with
  | some h :: row => some { s with level := { s.level with row := some (h + 1) :: row } }
  | _ => none

/-- Start another alternative. -/
def alternative (s : State) : State :=
  { s with level := { s.level with finished := s.level.row :: s.level.finished, row := [] } }

/-- Whether the expression can end here. -/
def isFinal (s : State) : Bool := s.outer.isEmpty && s.level.height ≤ heightLimit

end State

/-- Whether the rest of an expression is well formed. -/
def reads : Nat → State → List Char → Bool
  | 0, _, _ => false
  | fuel + 1, s, cs =>
    let go (r : Option (State × List Char)) : Bool := r.any fun r => reads fuel r.1 r.2
    match s.mode.skip cs with
    | [] => s.isFinal
    | '(' :: rest => go (s.parenthesis? rest)
    | ')' :: rest => go (s.close?.map (·, rest))
    | '|' :: rest => go (some (s.alternative, rest))
    | '[' :: rest =>
      go (((openClass? s.mode rest).bind (class? s.mode (rest.length + 1) 1)).map fun rest =>
        (s.push (some 1), rest))
    | '?' :: rest | '*' :: rest | '+' :: rest =>
      let rest := match rest with
        | '?' :: more => more
        | _ => rest
      go (s.again?.map (·, rest))
    | '\x7b' :: _ => false
    | '\\' :: rest => go ((escape? s.mode rest).map fun r => (s.push (some 0), r.2))
    | '.' :: rest => s.mode.wide && go (some (s.push (some 0), rest))
    | _ :: rest => go (some (s.push (some 0), rest))

/-- Whether an expression is well formed. -/
def isWellFormed (cs : List Char) : Bool := reads (cs.length + 1) {} cs

/-- Whether a text can be asked for as the value of a field. -/
def isValue (cs : List Char) : Bool := isNumber cs || isWellFormed cs

end Scaffold.FieldPattern
