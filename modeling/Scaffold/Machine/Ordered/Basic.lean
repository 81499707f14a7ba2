import Scaffold.Machine.Glob
import Scaffold.Machine.Ordered.Fault

/-!
# Ordered expressions

Regular expressions whose choices are tried in order: the first way that leads to a match is the
match. They can look ahead and behind, give up choices that were made, refer to groups by number or
name, and call groups like procedures. `Pattern.width` is how many bytes an expression takes, where
that is the same for all matches; only such expressions can stand in a look behind.
-/

namespace Scaffold

namespace Ordered

/-- What a group is referred to by. Number zero is the whole expression. -/
inductive Reference where
  | number (n : Nat)
  | name (s : String)
deriving DecidableEq, Repr, Inhabited

/-- What a choice depends on. -/
inductive Test where
  /-- Whether a group took something. -/
  | taken (r : Reference)
  /-- Whether a group, or any, is being called. -/
  | inside (r : Option Reference)
  | constant (b : Bool)
deriving DecidableEq, Repr, Inhabited

/-- What changes how a search goes on. -/
inductive Verb where
  /-- The match is complete. -/
  | accept
  | fail
  /-- If what follows fails, there is no match at all. -/
  | commit
  /-- If what follows fails, there is no match from this start. -/
  | prune
  /-- If what follows fails, the next match starts here at the earliest. -/
  | skip
  /-- If what follows fails, the next branch is tried. -/
  | next
deriving DecidableEq, Repr, Inhabited

/-- Tests of a place that take no byte. -/
inductive Border where
  | lineStart (anyLine : Bool)
  | lineEnd (anyLine : Bool)
  /-- The end, or in front of a line feed at the end. -/
  | lastLineEnd
  | word (isOne : Bool)
  | wordStart
  | wordEnd
  | searchStart
deriving DecidableEq, Repr, Inhabited

end Ordered

open Ordered in
/-- A regular expression whose choices are tried in order. -/
inductive Ordered where
  | empty
  | one (s : ByteSet)
  | seq (a b : Ordered)
  | alt (a b : Ordered)
  /-- As often as possible, or as seldom as possible. -/
  | times (a : Ordered) (least : Nat) (most : Option Nat) (isLazy : Bool)
  | group (n : Nat) (a : Ordered)
  /-- Only the first way to match is tried. -/
  | atomic (a : Ordered)
  | look (isWanted : Bool) (a : Ordered)
  /-- What ends here. -/
  | behind (a : Ordered)
  /-- What a group took. -/
  | taken (r : Reference) (ignoreCase : Bool)
  | call (r : Reference)
  | choose (t : Test) (yes no : Ordered)
  | chooseLook (look yes no : Ordered)
  | border (b : Border)
  /-- What was matched so far is not part of the match. -/
  | keep
  | verb (v : Verb)
deriving Inhabited

namespace Ordered

/-- An expression with the names of its groups. -/
structure Pattern where
  root : Ordered
  groups : Nat := 0
  names : List (String × Nat) := []
deriving Inhabited

/-- The numbers of the groups that are referred to. -/
def Reference.numbers (names : List (String × Nat)) : Reference → List Nat
  | .number n => [n]
  | .name s => names.filterMap fun (t, n) => if t = s then some n else none

/-- An expression and all its parts, from left to right. -/
def subterms : Ordered → List Ordered
  | .seq a b => .seq a b :: (a.subterms ++ b.subterms)
  | .alt a b => .alt a b :: (a.subterms ++ b.subterms)
  | .times a least most isLazy => .times a least most isLazy :: a.subterms
  | .group n a => .group n a :: a.subterms
  | .atomic a => .atomic a :: a.subterms
  | .look isWanted a => .look isWanted a :: a.subterms
  | .behind a => .behind a :: a.subterms
  | .choose t a b => .choose t a b :: (a.subterms ++ b.subterms)
  | .chooseLook a b c => .chooseLook a b c :: (a.subterms ++ b.subterms ++ c.subterms)
  | a => [a]

/-- The group of a number. -/
def group? (n : Nat) (a : Ordered) : Option Ordered :=
  a.subterms.findSome? fun
    | .group m b => if m = n then some b else none
    | _ => none

/-- The width that two branches have in common. -/
def commonWidth (n m : Nat) : Except Fault Nat :=
  if n = m then .ok n else .error .unfixedWidth

/-- Whether an expression looks ahead. -/
def isLookAhead : Ordered → Bool
  | .look _ (.behind _) => false
  | .look _ (.alt (.behind _) _) => false
  | .look _ _ => true
  | _ => false

/-- How many bytes an expression takes, if that is always the same. `known` tells this for groups.
-/
def widthWith (known : Reference → Except Fault Nat) : Ordered → Except Fault Nat
  | .one _ => .ok 1
  | .seq a b => do return (← a.widthWith known) + (← b.widthWith known)
  | .alt a b => do commonWidth (← a.widthWith known) (← b.widthWith known)
  | .times a least most _ => do
    let n ← a.widthWith known
    if most = some least || a.isLookAhead then .ok (least * n) else .error .unfixedWidth
  | .group _ a => a.widthWith known
  | .atomic a => a.widthWith known
  | .taken r _ => known r
  | .call r => known r
  -- A choice of nothing else does not count.
  | .choose _ a .empty => a.widthWith known
  | .choose _ a b => do commonWidth (← a.widthWith known) (← b.widthWith known)
  | .chooseLook _ a .empty => a.widthWith known
  | .chooseLook _ a b => do commonWidth (← a.widthWith known) (← b.widthWith known)
  | _ => .ok 0

/-- The width of what is referred to. The fuel bounds how deep groups refer to each other. -/
def Pattern.widthOf (p : Pattern) : (fuel : Nat) → Reference → Except Fault Nat
  | 0, _ => .error .unfixedWidth
  | fuel + 1, r =>
    match r.numbers p.names with
    | 0 :: _ => p.root.widthWith (p.widthOf fuel)
    | n :: _ =>
      match p.root.group? n with
      | some a => a.widthWith (p.widthOf fuel)
      | none => .error .noSuchGroup
    | [] => .error .noSuchGroup

/-- How many bytes an expression of a pattern takes, if that is always the same. -/
def Pattern.width (p : Pattern) (a : Ordered) : Except Fault Nat :=
  a.widthWith (p.widthOf (p.groups + 1))

/-- A set of one byte, or of a letter in both cases. -/
def isLiteral (s : ByteSet) : Bool :=
  match s.negated, s.ranges with
  | false, [(a, b)] => a == b
  | false, [(a, b), (c, d)] => a == b && c == d && a.toLower == c.toLower
  | _, _ => false

/-- Bytes that each match has, from left to right. -/
def literals : Ordered → List ByteSet
  | .one s => if isLiteral s then [s] else []
  | .seq a b => a.literals ++ b.literals
  | .times a least _ _ => if least > 0 then a.literals else []
  | .group _ a => a.literals
  | .atomic a => a.literals
  | _ => []

/-- The last byte that stands in the expression itself and that each match has. -/
def needed? (a : Ordered) : Option ByteSet :=
  let canAccept := a.subterms.any fun
    | .verb .accept => true
    | _ => false
  if canAccept then none else a.literals.getLast?

/-- The byte that each match starts with, if there is only one; `next` is what follows. -/
def firstOr (next : Option ByteSet) : Ordered → Option ByteSet
  | .empty => next
  | .verb .accept => none
  | .verb _ => next
  | .one s => if isLiteral s then some s else none
  | .seq a b => a.firstOr (b.firstOr next)
  | .times a least _ _ => if least > 0 then a.firstOr none else none
  | .group _ a => a.firstOr next
  | .atomic a => a.firstOr next
  | _ => none

end Ordered

end Scaffold
