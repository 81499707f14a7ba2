import Scaffold.Machine.Regex

/-!
# Matching regular expressions

An expression without back references matches by sets of places: `Plan.ends` goes from all places
where a match may start to all places where one can end, and `Plan.starts` the other way round. So
the work for a line does not depend on how many ways there are to match it. An expression that looks
back is tried from each place that its plan allows, and `Regex.run` keeps what the groups took.
-/

namespace Scaffold

namespace Regex

/-! ### Lines -/

/-- A line to match, and whether letters match in any case. -/
structure Subject where
  line : Array Char
  ignoreCase : Bool := false
deriving Inhabited

namespace Subject

/-- Whether a set has a byte, in any case of letters if that is asked for. A set of all other bytes
then lacks letters in both cases. -/
def has (x : Subject) (s : ByteSet) (c : Char) : Bool :=
  if x.ignoreCase then
    let listed : ByteSet := { s with negated := false }
    (listed.contains c.toLower || listed.contains c.toUpper) != s.negated
  else s.contains c

/-- Whether two bytes are the same. -/
def same (x : Subject) (a b : Char) : Bool :=
  a == b || (x.ignoreCase && a.toLower == b.toLower)

/-- Whether a byte of words stands at a place. -/
def wordAt (x : Subject) (i : Nat) : Bool := (x.line[i]?).any isWordByte

/-- Whether a byte of words stands before a place. -/
def wordBefore (x : Subject) (i : Nat) : Bool := i > 0 && x.wordAt (i - 1)

/-- Whether a place passes a test that takes no byte. -/
def holds (x : Subject) (i : Nat) : Regex → Bool
  | .lineStart => i == 0
  | .lineEnd => i == x.line.size
  | .wordStart => !x.wordBefore i && x.wordAt i
  | .wordEnd => x.wordBefore i && !x.wordAt i
  | .wordBorder isOne => (x.wordBefore i != x.wordAt i) == isOne
  | _ => true

end Subject

/-! ### Sets of places -/

/-- A set of places of a line: bit `i` stands for the place in front of byte `i`, and one more bit
for the end of the line. -/
abbrev Places := Nat

namespace Places

/-- The places up to a bound that pass a test. -/
def satisfying (size : Nat) (p : Nat → Bool) : Places :=
  (List.range (size + 1)).foldr (fun i s => 2 * s + (if p i then 1 else 0)) 0

/-- One place. -/
def single (i : Nat) : Places := 1 <<< i

/-- The places of a set up to a bound, in order. -/
def toList (size : Nat) (s : Places) : List Nat :=
  if s = 0 then [] else (List.range (size + 1)).filter s.testBit

/-- A step made so many times. -/
def iterate (step : Places → Places) : Nat → Places → Places
  | 0, s => s
  | n + 1, s =>
    let after := step s
    -- Further rounds change nothing where one changes nothing.
    if after = s then s else iterate step n after

/-- All that repeated steps reach, with the start; a round without anything new is the last. -/
def reach (step : Places → Places) : (rounds : Nat) → (frontier known : Places) → Places
  | 0, _, known => known
  | rounds + 1, frontier, known =>
    let all := known ||| step frontier
    if all = known then known else reach step rounds (all ^^^ known) all

end Places

/-! ### Plans -/

/-- An expression laid out on a line. -/
inductive Plan where
  | stay
  /-- Over one byte, from one of these places. -/
  | move (allowed : Places)
  /-- Nothing, at one of these places. -/
  | only (allowed : Places)
  | seq (a b : Plan)
  | alt (a b : Plan)
  /-- At least so many times, and so many times more. -/
  | times (a : Plan) (least more : Nat)
deriving Inhabited

namespace Plan

/-- The plan of an expression on a line. What a group took may be anything. -/
def of (x : Subject) : Regex → Plan
  | .empty => .stay
  | .one s => .move (.satisfying x.line.size fun i => (x.line[i]?).any (x.has s))
  | .seq a b => .seq (of x a) (of x b)
  | .alt a b => .alt (of x a) (of x b)
  | .times a least most => .times (of x a) least (most.elim (x.line.size + 1) (· - least))
  | .group _ a => of x a
  | .taken _ => .times (.move (.satisfying x.line.size fun _ => true)) 0 (x.line.size + 1)
  | test => .only (.satisfying x.line.size fun i => x.holds i test)

/-- Where matches can end that start at one of some places. -/
def ends : Plan → Places → Places
  | .stay, s => s
  | .move allowed, s => (s &&& allowed) <<< 1
  | .only allowed, s => s &&& allowed
  | .seq a b, s => b.ends (a.ends s)
  | .alt a b, s => a.ends s ||| b.ends s
  | .times a least more, s =>
    let start := Places.iterate a.ends least s
    Places.reach a.ends more start start

/-- Where matches can start that end at one of some places. -/
def starts : Plan → Places → Places
  | .stay, s => s
  | .move allowed, s => (s >>> 1) &&& allowed
  | .only allowed, s => s &&& allowed
  | .seq a b, s => a.starts (b.starts s)
  | .alt a b, s => a.starts s ||| b.starts s
  | .times a least more, s =>
    let finish := Places.iterate a.starts least s
    Places.reach a.starts more finish finish

end Plan

/-! ### Expressions that look back -/

/-- Whether an expression looks at what groups took. -/
def looksBack : Regex → Bool
  | .seq a b => a.looksBack || b.looksBack
  | .alt a b => a.looksBack || b.looksBack
  | .times a _ _ => a.looksBack
  | .group _ a => a.looksBack
  | .taken _ => true
  | _ => false

/-- A place in a line, and what the groups took on the way. -/
structure Spot where
  position : Nat
  groups : List (Nat × Nat × Nat) := []
deriving DecidableEq, Inhabited

/-- Add the members of a list that are new. -/
def addNew (known more : List Spot) : List Spot :=
  more.foldl (fun known s => if known.contains s then known else known ++ [s]) known

/-- All that repeated steps reach, with the start; a round without anything new is the last. -/
def reach (step : Spot → List Spot) : (rounds : Nat) → (frontier known : List Spot) → List Spot
  | 0, _, known => known
  | rounds + 1, frontier, known =>
    let fresh := (addNew [] (frontier.flatMap step)).filter fun s => !known.contains s
    if fresh.isEmpty then known else reach step rounds fresh (known ++ fresh)

/-- Steps that are made one after the other, so many times. -/
def exactly (step : Spot → List Spot) : Nat → List Spot → List Spot
  | 0, spots => spots
  | n + 1, spots =>
    let after := addNew [] (spots.flatMap step)
    if after == spots then spots else exactly step n after

/-- All spots where a match from a spot can end. -/
def run (x : Subject) : Regex → Spot → List Spot
  | .empty, s => [s]
  | .one set, s =>
    match x.line[s.position]? with
    | some c => if x.has set c then [{ s with position := s.position + 1 }] else []
    | none => []
  | .seq a b, s => addNew [] ((run x a s).flatMap (run x b))
  | .alt a b, s => addNew (run x a s) (run x b s)
  | .times a least most, s =>
    let step := run x a
    let start := exactly step least [s]
    reach step (most.elim (x.line.size + 1) (· - least)) start start
  | .group n a, s =>
    (run x a s).map fun t =>
      { t with groups := (n, s.position, t.position) :: t.groups.filter fun g => g.1 != n }
  | .taken n, s =>
    match s.groups.find? fun g => g.1 == n with
    | none => []
    | some (_, start, stop) =>
      let text := (x.line.extract start stop).toList
      let here := (x.line.extract s.position (s.position + text.length)).toList
      if text.length = here.length && (List.zipWith x.same text here).all id then
        [{ s with position := s.position + text.length }]
      else []
  | test, s => if x.holds s.position test then [s] else []

/-! ### Expressions on a line -/

/-- An expression laid out on a line: its plan, itself where it looks back, and the places where
matches may start. -/
structure Layout where
  plan : Plan
  exact : Option Regex
  starts : Places
deriving Inhabited

/-- Lay out an expression on a line. -/
def layout (x : Subject) (r : Regex) : Layout :=
  let plan := Plan.of x r
  { plan
    exact := if r.looksBack then some r else none
    starts := plan.starts (.satisfying x.line.size fun _ => true) }

/-- The places where matches from a place end, the furthest first. -/
def Layout.endsFrom (x : Subject) (l : Layout) (start : Nat) : List Nat :=
  if !l.starts.testBit start then []
  else
    let ends := match l.exact with
      | none => l.plan.ends (.single start)
      | some r =>
        (run x r { position := start }).foldl
          (fun (s : Places) (t : Spot) => s ||| Places.single t.position) 0
    (Places.toList x.line.size ends).reverse

end Regex

end Scaffold
