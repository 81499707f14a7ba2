import Scaffold.Text.Basic

/-!
# Sets of bytes and globs

A `ByteSet` is a set of bytes, given by ranges. A `Glob` matches a whole text of bytes with `*`, `?`
and bracket sets. Globs are read from characters that are marked where they were quoted: a quoted
character stands for itself.
-/

namespace Scaffold

/-! ### Sets -/

/-- A set of bytes: ranges, possibly all others. -/
structure ByteSet where
  negated : Bool := false
  ranges : List (Char × Char) := []
deriving DecidableEq, Repr, Inhabited

namespace ByteSet

/-- Whether a byte is in a set. -/
def contains (s : ByteSet) (c : Char) : Bool :=
  (s.ranges.any fun r => decide (r.1 ≤ c) && decide (c ≤ r.2)) != s.negated

/-- The set of one byte. -/
def single (c : Char) : ByteSet := { ranges := [(c, c)] }

/-- Every byte. -/
def all : ByteSet := { negated := true }

/-- The ranges of a class with a name. -/
def class? (name : String) : Option (List (Char × Char)) :=
  let upper := ('A', 'Z')
  let lower := ('a', 'z')
  let digit := ('0', '9')
  match name with
  | "alpha" => some [upper, lower]
  | "upper" => some [upper]
  | "lower" => some [lower]
  | "digit" => some [digit]
  | "alnum" => some [digit, upper, lower]
  | "space" => some [('\t', '\r'), (' ', ' ')]
  | "blank" => some [('\t', '\t'), (' ', ' ')]
  | "punct" => some [('!', '/'), (':', '@'), ('[', '\x60'), ('\x7b', '~')]
  | "xdigit" => some [digit, ('A', 'F'), ('a', 'f')]
  | "cntrl" => some [('\x00', '\x1f'), ('\x7f', '\x7f')]
  | "print" => some [(' ', '~')]
  | "graph" => some [('!', '~')]
  | _ => none

end ByteSet

/-- Characters marked where they are quoted. -/
abbrev Marked := List (Char × Bool)

/-- The plain text of marked characters. -/
def Marked.plain (f : Marked) : String := String.ofList (f.map Prod.fst)

/-- Characters that are not quoted. -/
def Marked.unquoted (cs : List Char) : Marked := cs.map fun c => (c, false)

/-! ### Globs -/

/-- A step of a glob. -/
inductive GlobStep where
  | anything
  | one (s : ByteSet)
deriving DecidableEq, Repr, Inhabited

/-- A pattern for a whole text. -/
abbrev Glob := List GlobStep

namespace Glob

/-- The range between two bytes. Bytes from 128 on count as negative numbers, so they come before
all others. -/
def between (lo hi : Char) : List (Char × Char) :=
  let isHigh (c : Char) : Bool := c.toNat ≥ 128
  if isHigh lo && !isHigh hi then [(lo, '\xff'), ('\x00', hi)]
  else if !isHigh lo && isHigh hi then []
  else if lo ≤ hi then [(lo, hi)]
  else []

/-- A class behind its opening bracket, and what follows it. -/
def className? (cs : Marked) : Option (List (Char × Char) × Marked) :=
  match cs with
  | (':', false) :: rest =>
    let name := rest.takeWhile fun e => e.1.isAlpha && !e.2
    match rest.drop name.length with
    | (':', false) :: (']', false) :: after =>
      (ByteSet.class? (Marked.plain name)).map fun ranges => (ranges, after)
    | _ => none
  | _ => none

/-- Read the inside of brackets up to the closing one; a closing bracket in front stands for itself.
The result has what follows. -/
def readSet? : (fuel : Nat) → (isFirst : Bool) → Marked → Option (List (Char × Char) × Marked)
  | 0, _, _ => none
  | _ + 1, _, [] => none
  | fuel + 1, isFirst, (c, quoted) :: cs =>
    if c == ']' && !quoted && !isFirst then some ([], cs)
    else
      match if c == '[' && !quoted then className? cs else none with
      | some (ranges, after) =>
        (readSet? fuel false after).map fun (rs, rest) => (ranges ++ rs, rest)
      | none =>
        match cs with
        | ('-', false) :: (hi, high) :: rest =>
          if hi == ']' && !high then
            (readSet? fuel false cs).map fun (rs, rest) => ((c, c) :: rs, rest)
          else (readSet? fuel false rest).map fun (rs, rest) => (between c hi ++ rs, rest)
        | _ => (readSet? fuel false cs).map fun (rs, rest) => ((c, c) :: rs, rest)

/-- Read a set behind its opening bracket. -/
def set? (cs : Marked) : Option (ByteSet × Marked) :=
  let (negated, inside) : Bool × Marked := match cs with
    | ('!', false) :: rest => (true, rest)
    | _ => (false, cs)
  (readSet? (inside.length + 1) true inside).map fun (ranges, rest) => ({ negated, ranges }, rest)

/-- Read a glob. -/
def read : (fuel : Nat) → Marked → Glob
  | 0, _ => []
  | _ + 1, [] => []
  | fuel + 1, (c, quoted) :: rest =>
    if quoted then .one (.single c) :: read fuel rest
    else if c == '*' then .anything :: read fuel rest
    else if c == '?' then .one .all :: read fuel rest
    else if c == '[' then
      match set? rest with
      | some (s, after) => .one s :: read fuel after
      | none => .one (.single c) :: read fuel rest
    else .one (.single c) :: read fuel rest

/-- The glob that marked characters are. -/
def ofMarked (f : Marked) : Glob := read (f.length + 1) f

/-- The sets in front of the first star, and what follows it if there is one. -/
def segment : Glob → List ByteSet × Option Glob
  | [] => ([], none)
  | .anything :: g => ([], some g)
  | .one s :: g => (s :: (segment g).1, (segment g).2)

theorem length_of_segment {g h : Glob} (e : (segment g).2 = some h) : h.length < g.length := by
  induction g with
  | nil => simp [segment] at e
  | cons step g ih =>
    cases step with
    | anything => simp [segment] at e; simp [e]
    | one s => simp only [segment] at e; have := ih e; simp only [List.length_cons]; omega

/-- What follows the bytes that sets take, one each, at the start of a text. -/
def taken? : List ByteSet → List Char → Option (List Char)
  | [], cs => some cs
  | _ :: _, [] => none
  | s :: ss, c :: cs => if s.contains c then taken? ss cs else none

/-- What follows the first place of a text where sets take a byte each. -/
def firstTaken? (sets : List ByteSet) : List Char → Option (List Char)
  | [] => taken? sets []
  | c :: cs => taken? sets (c :: cs) <|> firstTaken? sets cs

/-- Whether a glob behind a star matches a text. The sets up to the next star can take the first
place that fits, and those behind the last one take the end. -/
def acceptsBehindStar (g : Glob) (cs : List Char) : Bool :=
  match _h : (segment g).2 with
  | none =>
    let sets := (segment g).1
    sets.length ≤ cs.length && taken? sets (cs.drop (cs.length - sets.length)) == some []
  | some next =>
    match firstTaken? (segment g).1 cs with
    | some rest => acceptsBehindStar next rest
    | none => false
termination_by g.length
decreasing_by exact length_of_segment _h

/-- Whether a glob matches a whole text. -/
def accepts (g : Glob) (cs : List Char) : Bool :=
  match taken? (segment g).1 cs, (segment g).2 with
  | some rest, some next => acceptsBehindStar next rest
  | some rest, none => rest.isEmpty
  | none, _ => false

theorem accepts_anything (cs : List Char) : accepts [.anything] cs = true := by
  simp [accepts, segment, taken?, acceptsBehindStar]

end Glob

end Scaffold
