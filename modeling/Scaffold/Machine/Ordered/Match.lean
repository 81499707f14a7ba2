import Scaffold.Machine.Ordered.Basic

/-!
# Matching ordered expressions

`Ordered.run` tries the ways to match one after the other. It is given what is to be done behind the
expression, and goes back to its latest choice whenever that fails. All ways together may take no
more than a number of steps; a search that needs more is given up.
-/

namespace Scaffold

namespace Ordered

/-- A place in a line, with what the groups took on the way, where the match is taken to start, and
which groups are being called. -/
structure Spot where
  position : Nat
  start : Nat
  groups : List (Nat × Nat × Nat) := []
  inside : List Nat := []
deriving DecidableEq, Inhabited

/-- What the failure of a branch means for the search. -/
inductive Cut where
  | noMatch
  | nextStart
  | startAt (i : Nat)
  | nextBranch
deriving DecidableEq, Repr, Inhabited

/-- How an attempt ends, with how many steps are left. -/
inductive Outcome where
  | found (s : Spot) (left : Nat)
  /-- A match that is complete before the end of the expression. -/
  | accepted (s : Spot) (left : Nat)
  | failed (left : Nat)
  /-- A failure behind which not all other choices are tried. -/
  | cut (c : Cut) (left : Nat)
  | exhausted
deriving Inhabited

/-- What is done next: from a spot, with a number of steps. -/
abbrev Goal := Spot → Nat → Outcome

/-- Where an attempt takes place. -/
structure Scene where
  pattern : Pattern
  line : Array Char
  /-- Where the search began. -/
  origin : Nat
deriving Inhabited

/-- Bytes of words. -/
def isWordByte (c : Char) : Bool := c.isAlphanum || c == '_'

namespace Scene

/-- Whether a byte of words stands at a place. -/
def wordAt (x : Scene) (i : Nat) : Bool := (x.line[i]?).any isWordByte

/-- Whether a byte of words stands before a place. -/
def wordBefore (x : Scene) (i : Nat) : Bool := i > 0 && x.wordAt (i - 1)

/-- Whether a place passes a test. -/
def holds (x : Scene) (i : Nat) : Border → Bool
  | .lineStart anyLine =>
    i == 0 || (anyLine && i < x.line.size && x.line[i - 1]? == some '\n')
  | .lineEnd anyLine => i == x.line.size || (anyLine && x.line[i]? == some '\n')
  | .lastLineEnd => i == x.line.size || (i + 1 == x.line.size && x.line[i]? == some '\n')
  | .word isOne => (x.wordBefore i != x.wordAt i) == isOne
  | .wordStart => !x.wordBefore i && x.wordAt i
  | .wordEnd => x.wordBefore i && !x.wordAt i
  | .searchStart => i == x.origin

/-- What a group that is referred to took. -/
def taken? (x : Scene) (s : Spot) (r : Reference) : Option (Nat × Nat) :=
  (r.numbers x.pattern.names).findSome? fun n =>
    (s.groups.find? fun g => g.1 == n).map Prod.snd

/-- Whether a choice is made. -/
def decides (x : Scene) (s : Spot) : Test → Bool
  | .taken r => (x.taken? s r).isSome
  | .inside none => !s.inside.isEmpty
  | .inside (some r) => s.inside.head?.any (r.numbers x.pattern.names).contains
  | .constant b => b

/-- Where a text that a group took ends, if it stands again at a place. -/
def again? (x : Scene) (ignoreCase : Bool) (start stop i : Nat) : Option Nat :=
  let text := (x.line.extract start stop).toList
  let here := (x.line.extract i (i + text.length)).toList
  let same (a b : Char) : Bool := a == b || (ignoreCase && a.toLower == b.toLower)
  if text.length = here.length && (List.zipWith same text here).all id then some (i + text.length)
  else none

end Scene

/-- What is done after a failure that leaves other choices. -/
def Outcome.orElse (o : Outcome) (other : Nat → Outcome) : Outcome :=
  match o with
  | .failed left => other left
  | o => o

/-- What is done after the failure of a branch. -/
def Outcome.orBranch (o : Outcome) (other : Nat → Outcome) : Outcome :=
  match o with
  | .failed left => other left
  | .cut .nextBranch left => other left
  | o => o

/-- A step that is made so many times. -/
def exactly (step : Spot → Nat → Goal → Outcome) : (count : Nat) → Spot → Nat → Goal → Outcome
  | 0, s, n, k => k s n
  | count + 1, s, n, k => step s n fun t n => exactly step count t n k

/-- A step that may be made up to so many times; a step that takes nothing is the last. -/
def upTo (step : Spot → Nat → Goal → Outcome) (isLazy : Bool) (k : Goal) :
    (rounds : Nat) → Spot → Nat → Outcome
  | 0, s, n => k s n
  | rounds + 1, s, n =>
    let more (n : Nat) : Outcome := step s n fun t n =>
      if t.position = s.position then k t n else upTo step isLazy k rounds t n
    if isLazy then (k s n).orElse more else (more n).orElse (k s)

/-- Try all ways to match from a spot. `call` runs a group that is called, and `complete` is done
where a match is complete before its end. -/
def run (x : Scene) (call : Reference → Spot → Nat → Goal → Outcome) :
    (complete : Goal) → Ordered → Spot → Nat → Goal → Outcome
  | _, _, _, 0, _ => .exhausted
  | _, .empty, s, n, k => k s n
  | _, .one set, s, n + 1, k =>
    match x.line[s.position]? with
    | some c => if set.contains c then k { s with position := s.position + 1 } n else .failed n
    | none => .failed n
  | complete, .seq a b, s, n, k =>
    run x call complete a s n fun t n => run x call complete b t n k
  | complete, .alt a b, s, n, k =>
    (run x call complete a s n k).orBranch fun n => run x call complete b s n k
  | complete, .times a least most isLazy, s, n, k =>
    let step := run x call complete a
    match most, least with
    | some most, _ => exactly step least s n (upTo step isLazy k (most - least))
    | none, 0 => upTo step isLazy k (x.line.size + 1) s n
    | none, least + 1 =>
      exactly step least s n fun s n => step s n fun t n =>
        if t.position = s.position then k t n
        else upTo step isLazy k (x.line.size + 1) t n
  | complete, .group m a, s, n, k =>
    run x call complete a s n fun t n =>
      k { t with groups := (m, s.position, t.position) :: t.groups.filter fun g => g.1 != m } n
  | complete, .atomic a, s, n, k =>
    match run x call complete a s n .found with
    | .found t n => k t n
    | o => o
  | _, .look isWanted a, s, n, k =>
    let ahead (t : Spot) (n : Nat) : Outcome :=
      if isWanted then k { t with position := s.position, start := s.start } n else .failed n
    let unfound (n : Nat) : Outcome := if isWanted then .failed n else k s n
    match run x call .accepted a s n .found with
    | .found t n => ahead t n
    | .accepted t n => ahead t n
    | .failed n => unfound n
    | .cut _ n => unfound n
    | .exhausted => .exhausted
  | complete, .behind a, s, n, k =>
    match x.pattern.width a with
    | .ok w =>
      if w ≤ s.position then run x call complete a { s with position := s.position - w } n k
      else .failed n
    | .error _ => .failed n
  | _, .taken r ignoreCase, s, n, k =>
    match (x.taken? s r).bind fun (a, b) => x.again? ignoreCase a b s.position with
    | some i => k { s with position := i } n
    | none => .failed n
  | _, .call r, s, n + 1, k =>
    call r s n fun t n => k { t with groups := s.groups, inside := s.inside } n
  | complete, .choose t a b, s, n, k =>
    if x.decides s t then run x call complete a s n k else run x call complete b s n k
  | complete, .chooseLook l a b, s, n, k =>
    match run x call .accepted l s n .found with
    | .found t n => run x call complete a { t with position := s.position } n k
    | .accepted t n => run x call complete a { t with position := s.position } n k
    | .failed n => run x call complete b s n k
    | .cut _ n => run x call complete b s n k
    | .exhausted => .exhausted
  | _, .border b, s, n, k => if x.holds s.position b then k s n else .failed n
  | _, .keep, s, n, k => k { s with start := s.position } n
  | complete, .verb .accept, s, n, _ => complete s n
  | _, .verb .fail, _, n, _ => .failed n
  | _, .verb .commit, s, n, k => (k s n).orElse (.cut .noMatch)
  | _, .verb .prune, s, n, k => (k s n).orElse (.cut .nextStart)
  | _, .verb .skip, s, n, k => (k s n).orElse (.cut (.startAt s.position))
  | _, .verb .next, s, n, k => (k s n).orElse (.cut .nextBranch)

/-- Run a group that is called. The fuel bounds how deep calls are nested. -/
def called (x : Scene) : (fuel : Nat) → Reference → Spot → Nat → Goal → Outcome
  | 0, _, _, _, _ => .exhausted
  | fuel + 1, r, s, n, k =>
    match r.numbers x.pattern.names with
    | [] => .failed n
    | m :: _ =>
      let body := if m = 0 then some x.pattern.root else x.pattern.root.group? m
      match body with
      | some a => run x (called x fuel) k a { s with inside := m :: s.inside } n k
      | none => .failed n

/-- The most steps of a search. -/
def stepLimit : Nat := 10000000

/-- How deep calls are nested at most. -/
def callLimit : Nat := 1000

/-- Why a search is given up. -/
inductive GivenUp where
  | tooManySteps
deriving DecidableEq, Repr, Inhabited

/-- The first match that starts at a place or behind it. -/
def search (x : Scene) (first : Option ByteSet) :
    (fuel start steps : Nat) → Except GivenUp (Option (Nat × Nat))
  | 0, _, _ => .ok none
  | fuel + 1, start, steps =>
    if start > x.line.size then .ok none
    else if first.any fun s => !(x.line[start]?).any s.contains then
      search x first fuel (start + 1) steps
    else
      match run x (called x callLimit) .accepted x.pattern.root
          { position := start, start } steps .found with
      | .found s _ => .ok (some (s.start, s.position))
      | .accepted s _ => .ok (some (s.start, s.position))
      | .failed n => search x first fuel (start + 1) n
      | .cut .noMatch _ => .ok none
      | .cut (.startAt i) n => search x first fuel (max i (start + 1)) n
      | .cut _ n => search x first fuel (start + 1) n
      | .exhausted => .error .tooManySteps

/-- The first match of a line that starts at a place or behind it. A line without a byte that each
match has needs no search, and places without the byte that each match starts with are not tried. -/
def Pattern.first? (p : Pattern) (line : Array Char) (start : Nat) :
    Except GivenUp (Option (Nat × Nat)) :=
  if p.root.needed?.any fun s => !line.any s.contains start line.size then .ok none
  else
    search { pattern := p, line, origin := start } (p.root.firstOr none) (line.size + 2 - start)
      start stepLimit

end Ordered

end Scaffold
