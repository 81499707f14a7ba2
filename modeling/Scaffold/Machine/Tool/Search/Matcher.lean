import Scaffold.Machine.Ordered.Match
import Scaffold.Machine.Ordered.Reader
import Scaffold.Machine.Regex.Match

/-!
# Finding matches in lines

A `Matcher` is made of patterns. `Matcher.accepts` tells whether it selects a line, and
`Matcher.nonempty` gives the matches in it. Of several regular expressions the first match counts,
and of those the longest. A search for an ordered expression is given up when it takes too long.
-/

namespace Scaffold

namespace Tool

namespace Search

/-- A regular expression as it selects lines, and as it places matches in them. For matches that are
whole words or lines, what selects a line also has what stands around them. -/
structure Expression where
  selecting : Regex
  placing : Regex
deriving Inhabited

/-- Patterns that are ready to be searched for. -/
inductive Matcher where
  | regexes (patterns : List Expression) (ignoreCase words whole : Bool)
  | ordered (p : Ordered.Pattern)
deriving Inhabited

namespace Matcher

/-- The first of some places where a word can end, furthest first, between two bounds. Behind a
place where none can end, one is tried that lies before it by more than what was searched already,
and it must not be `start`. -/
def wordEnd? (isWord : Nat → Bool) (start searched : Nat) :
    List Nat → (least most : Nat) → Option Nat
  | [], _, _ => none
  | stop :: shorter, least, most =>
    if stop < least || most < stop then wordEnd? isWord start searched shorter least most
    else if isWord stop then some stop
    else wordEnd? isWord start searched shorter (start + 1) (stop - 1 - searched)

/-- The end of the match of an expression at a place, if there is one, in a search that began at
another. A match that has to be a word but is none may still be one if it is shorter. -/
def endAt? (x : Regex.Subject) (words whole : Bool) (l : Regex.Layout) (searched start : Nat) :
    Option Nat :=
  let isWord (stop : Nat) : Bool := !x.wordBefore start && !x.wordAt stop
  if whole then
    if start = 0 then (l.endsFrom x 0).find? (· == x.line.size) else none
  else if words then wordEnd? isWord start searched (l.endsFrom x start) start x.line.size
  else (l.endsFrom x start).head?

/-- The furthest of some places. -/
def furthest (stops : List Nat) : Option Nat :=
  stops.foldl (fun best stop => some (best.elim stop (max stop))) none

/-- The first match of some expressions from a place on, in a search that began at another. -/
def firstFrom? (x : Regex.Subject) (words whole : Bool) (ls : List Regex.Layout)
    (searched : Nat) : (fuel start : Nat) → Option (Nat × Nat)
  | 0, _ => none
  | fuel + 1, start =>
    if start > x.line.size then none
    else match furthest (ls.filterMap fun l => endAt? x words whole l searched start) with
      | some stop => some (start, stop)
      | none => firstFrom? x words whole ls searched fuel (start + 1)

/-- Whether an expression selects a line. Only one that looks back has to be placed for that. -/
def selects (x : Regex.Subject) (words whole : Bool) (e : Expression) : Bool :=
  if e.placing.looksBack then
    (firstFrom? x words whole [e.placing.layout x] 0 (x.line.size + 1) 0).isSome
  else
    let everywhere := Regex.Places.satisfying x.line.size fun _ => true
    (Regex.Plan.of x e.selecting).ends everywhere != 0

/-- Whether a line is selected. -/
def accepts (m : Matcher) (line : String) : Except Ordered.GivenUp Bool :=
  let bytes := line.toList.toArray
  match m with
  | .regexes patterns ignoreCase words whole =>
    .ok (patterns.any (selects { line := bytes, ignoreCase } words whole))
  | .ordered p => (p.first? bytes 0).map Option.isSome

/-- The first match of a line from a place on. -/
def finder (m : Matcher) (line : Array Char) : Nat → Except Ordered.GivenUp (Option (Nat × Nat)) :=
  match m with
  | .regexes patterns ignoreCase words whole =>
    let x : Regex.Subject := { line, ignoreCase }
    let ls := (patterns.map fun e => e.placing.layout x).filter fun l => l.starts != 0
    fun start =>
      if ls.isEmpty then .ok none
      else .ok (firstFrom? x words whole ls start (line.size + 1 - start) start)
  | .ordered p => p.first? line

/-- All matches from a place on that are not empty. -/
def matchesFrom (first? : Nat → Except Ordered.GivenUp (Option (Nat × Nat))) (size : Nat) :
    (fuel start : Nat) → Except Ordered.GivenUp (List (Nat × Nat))
  | 0, _ => .ok []
  | fuel + 1, start => do
    if start ≥ size then return []
    match ← first? start with
    | none => return []
    | some (a, b) =>
      if a < b then return (a, b) :: (← matchesFrom first? size fuel b)
      else matchesFrom first? size fuel (a + 1)

/-- All matches of a line that are not empty. -/
def nonempty (m : Matcher) (line : String) : Except Ordered.GivenUp (List (Nat × Nat)) :=
  let bytes := line.toList.toArray
  matchesFrom (m.finder bytes) bytes.size (bytes.size + 1) 0

end Matcher

end Search

end Tool

end Scaffold
