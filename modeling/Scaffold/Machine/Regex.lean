import Scaffold.Machine.Glob

/-!
# Regular expressions

Basic and extended regular expressions on lines of bytes. An expression is first checked
(`Regex.check`), which finds all mistakes, and then read (`Regex.read`), which never fails but may
warn.
-/

namespace Scaffold

/-- A regular expression. -/
inductive Regex where
  | empty
  | one (s : ByteSet)
  | seq (a b : Regex)
  | alt (a b : Regex)
  /-- At least `least` times and at most `most` times, if there is a bound. -/
  | times (a : Regex) (least : Nat) (most : Option Nat)
  | group (n : Nat) (a : Regex)
  /-- What a group took. -/
  | taken (n : Nat)
  | lineStart
  | lineEnd
  | wordStart
  | wordEnd
  | wordBorder (isOne : Bool)
deriving Inhabited

namespace Regex

/-- How expressions are written: the extended operators stand bare, the basic ones behind a
backslash. -/
structure Dialect where
  extended : Bool := false
  ignoreCase : Bool := false
  /-- Whether an operator without operand is passed over or stands for itself. Matches are placed by
  expressions that are read so, while lines are selected by expressions where such an operator
  repeats nothing, or what tests a place. -/
  placing : Bool := false
deriving Inhabited

/-- The largest count of a repetition. -/
def countLimit : Nat := 32767

/-! ### Bracket sets -/

/-- An element of a bracket set. -/
inductive Element where
  | byte (c : Char)
  | symbol (name : List Char)
  | equivalence (name : List Char)
  | named (name : List Char)
deriving DecidableEq, Inhabited

/-- The name up to a mark and a closing bracket, and what follows. -/
def symbolName : (mark : Char) → List Char → Option (List Char × List Char)
  | _, [] => none
  | mark, c :: ']' :: rest =>
    if c == mark then some ([], rest)
    else (symbolName mark (']' :: rest)).map fun (name, rest) => (c :: name, rest)
  | mark, c :: rest => (symbolName mark rest).map fun (name, rest) => (c :: name, rest)

/-- What is wrong with an unfinished set. -/
def unmatchedBracket : String := "Unmatched [, [^, [:, [., or [="

/-- The next element of a set and what follows it. -/
def element (acceptHyphen : Bool) (cs : List Char) : Except String (Element × List Char) :=
  let symbolic (mark : Char) (rest : List Char) (make : List Char → Element) :
      Except String (Element × List Char) :=
    match symbolName mark rest with
    | some (name, rest) => .ok (make name, rest)
    | none => .error unmatchedBracket
  match cs with
  | [] => .error unmatchedBracket
  | '[' :: '.' :: rest => symbolic '.' rest .symbol
  | '[' :: '=' :: rest => symbolic '=' rest .equivalence
  | '[' :: ':' :: rest => symbolic ':' rest .named
  | '-' :: '-' :: '-' :: rest => .ok (.byte '-', rest)
  | '-' :: rest =>
    if !acceptHyphen && rest.head? != some ']' then .error "Invalid range end"
    else .ok (.byte '-', rest)
  | c :: rest => .ok (.byte c, rest)

/-- The byte at an end of a range. -/
def rangeEnd : Element → Except String Char
  | .byte c => .ok c
  | .symbol [c] => .ok c
  | .symbol _ => .error "Invalid collation character"
  | _ => .error "Invalid range end"

/-- The ranges that an element stands for. -/
def elementRanges (d : Dialect) : Element → Except String (List (Char × Char))
  | .byte c => .ok [(c, c)]
  | .symbol [c] => .ok [(c, c)]
  | .equivalence [c] => .ok [(c, c)]
  | .named name =>
    let name := String.ofList name
    let name := if d.ignoreCase && (name = "upper" || name = "lower") then "alpha" else name
    match ByteSet.class? name with
    | some ranges => .ok ranges
    | none => .error "Invalid character class name"
  | _ => .error "Invalid collation character"

/-- The elements of a set up to the closing bracket, and what follows. -/
def elements (d : Dialect) : (fuel : Nat) → (isFirst : Bool) → List Char →
    Except String (List (Char × Char) × List Char)
  | 0, _, _ => .error unmatchedBracket
  | fuel + 1, isFirst, cs => do
    let (start, rest) ← element isFirst cs
    let canRange := match start with
      | .byte _ => true
      | .symbol _ => true
      | _ => false
    if canRange && rest.isEmpty then .error unmatchedBracket
    let isRange := canRange && rest.head? == some '-' && (rest.drop 1).head? != some ']'
      && !(rest.take 3 == ['-', '-', '-'])
    if isRange && (rest.drop 1).isEmpty then .error unmatchedBracket
    let (ranges, rest) ←
      if isRange then do
        let (finish, rest) ← element true (rest.drop 1)
        let lo ← rangeEnd start
        let hi ← rangeEnd finish
        if lo > hi then .error "Invalid range end"
        pure ([(lo, hi)], rest)
      else do pure (← elementRanges d start, rest)
    match rest with
    | [] => .error unmatchedBracket
    | ']' :: rest => return (ranges, rest)
    | _ =>
      let (more, rest) ← elements d fuel false rest
      return (ranges ++ more, rest)

/-- A set behind its opening bracket, and what follows it. -/
def bracket (d : Dialect) (cs : List Char) : Except String (ByteSet × List Char) := do
  let (negated, inside) : Bool × List Char := match cs with
    | '^' :: rest => (true, rest)
    | _ => (false, cs)
  if inside.isEmpty then .error "Invalid regular expression"
  let (ranges, rest) ← elements d (inside.length + 1) true inside
  return ({ negated, ranges }, rest)

/-- Whether the inside of brackets looks like a class that lacks its own brackets. -/
def looksLikeClass (inside : List Char) : Bool :=
  inside.head? == some ':' && inside.getLast? == some ':' && inside.any (· != ':') &&
    !inside.contains '['

/-! ### Tokens -/

/-- A token of an expression. -/
inductive Token where
  | byte (c : Char)
  | set (s : ByteSet)
  | openGroup
  | closeGroup
  | orElse
  | star
  | plus
  | optional
  /-- What starts a repetition with counts. -/
  | openCount
  | back (n : Nat)
  | anchor (a : Regex)
  | trailing
  | finish
deriving Inhabited

/-- Bytes of words. -/
def isWordByte (c : Char) : Bool := c.isAlphanum || c == '_'

/-- The set of bytes of words, or of all others. -/
def wordSet (negated : Bool) : ByteSet :=
  { negated, ranges := [('0', '9'), ('A', 'Z'), ('_', '_'), ('a', 'z')] }

/-- The set of blanks, or of all others. -/
def spaceSet (negated : Bool) : ByteSet := { negated, ranges := [('\t', '\r'), (' ', ' ')] }

/-- The token of an operator letter. -/
def operator? : Char → Option Token
  | '(' => some .openGroup
  | ')' => some .closeGroup
  | '|' => some .orElse
  | '+' => some .plus
  | '?' => some .optional
  | '\x7b' => some .openCount
  | _ => none

/-- The token of a letter behind a backslash that is the same in both dialects. -/
def escaped? (c : Char) : Option Token :=
  match c with
  | '<' => some (.anchor .wordStart)
  | '>' => some (.anchor .wordEnd)
  | 'b' => some (.anchor (.wordBorder true))
  | 'B' => some (.anchor (.wordBorder false))
  | '\x60' => some (.anchor .lineStart)
  | '\x27' => some (.anchor .lineEnd)
  | 'w' => some (.set (wordSet false))
  | 'W' => some (.set (wordSet true))
  | 's' => some (.set (spaceSet false))
  | 'S' => some (.set (spaceSet true))
  | _ => if '1' ≤ c && c ≤ '9' then some (.back (c.toNat - '0'.toNat)) else none

/-- Whether a basic expression may end a line here: at its end, or in front of the end of a group or
branch. -/
def endsHere : List Char → Bool
  | [] => true
  | '\\' :: ')' :: _ => true
  | '\\' :: '|' :: _ => true
  | _ => false

/-- The next token and what follows. `atStart` says whether a basic expression may start a line
here. -/
def next (d : Dialect) (atStart : Bool) (cs : List Char) : Except String (Token × List Char) :=
  match cs with
  | [] => .ok (.finish, [])
  | '\\' :: [] => .ok (.trailing, [])
  | '\\' :: c :: rest =>
    match escaped? c, operator? c with
    | some t, _ => .ok (t, rest)
    | none, some t => .ok (if d.extended then .byte c else t, rest)
    | none, none => .ok (.byte c, rest)
  | '[' :: rest => do
    let (s, rest) ← bracket d rest
    return (.set s, rest)
  | '*' :: rest => .ok (.star, rest)
  | '.' :: rest => .ok (.set .all, rest)
  | '^' :: rest =>
    .ok (if d.extended || atStart then .anchor .lineStart else .byte '^', rest)
  | '$' :: rest =>
    .ok (if d.extended || endsHere rest then .anchor .lineEnd else .byte '$', rest)
  | c :: rest =>
    match operator? c with
    | some t => .ok (if d.extended then t else .byte c, rest)
    | none => .ok (.byte c, rest)

/-! ### Counts -/

/-- What closes a repetition with counts, if it comes next: what follows. -/
def closeCount? (d : Dialect) (cs : List Char) : Option (List Char) :=
  if d.extended then
    match cs with
    | '\x7d' :: rest => some rest
    | _ => none
  else
    match cs with
    | '\\' :: '\x7d' :: rest => some rest
    | _ => none

/-- A count: `none` without digits. -/
def count (cs : List Char) : Option Nat × List Char :=
  let ds := cs.takeWhile Char.isDigit
  if ds.isEmpty then (none, cs)
  else
    (some (ds.foldl (fun n c => min (countLimit + 1) (n * 10 + (c.toNat - '0'.toNat))) 0),
     cs.drop ds.length)

/-- The counts of a repetition, behind what opens it; `none` where they are malformed. -/
def counts? (d : Dialect) (cs : List Char) : Option (Nat × Option Nat × List Char) :=
  let (least, rest) := count cs
  match rest with
  | ',' :: rest =>
    let (most, rest) := count rest
    (closeCount? d rest).map fun after => (least.getD 0, most, after)
  | _ =>
    match least with
    | some n => (closeCount? d rest).map fun after => (n, some n, after)
    | none => none

/-- What is wrong with the counts of a repetition. `none` where they are to be taken for plain
characters. -/
def countsFault (d : Dialect) (cs : List Char) : Option String :=
  match counts? d cs with
  | some (least, most, _) =>
    if most.any (· < least) then some "Invalid content of \\\x7b\\\x7d"
    else if most.getD least > countLimit then some "Regular expression too big"
    else none
  | none =>
    if d.extended then
      if (closeCount? d cs).isSome then some "Invalid content of \\\x7b\\\x7d" else none
    else
      let closed := (List.range (cs.length + 1)).any fun i => (closeCount? d (cs.drop i)).isSome
      some (if closed then "Invalid content of \\\x7b\\\x7d" else "Unmatched \\\x7b")

/-! ### Checking -/

/-- A group that is open while an expression is checked. -/
structure Level where
  /-- Its number. -/
  number : Nat := 0
  /-- The groups that were closed before it. -/
  before : List Nat := []
  /-- The groups that were closed in its earlier branches. -/
  earlier : List Nat := []
deriving Inhabited

/-- What is left while an expression is checked: the groups that are open, the nearest first, how
many were opened, and which can be referred to here. A group of another branch cannot. -/
structure Check where
  rest : List Char
  atStart : Bool := true
  opened : List Level := []
  top : Level := {}
  groups : Nat := 0
  closed : List Nat := []
  /-- Whether an operator here has nothing to work on. -/
  bare : Bool := true
  /-- Whether an operator without operand has just been passed over. -/
  skipped : Bool := false
deriving Inhabited

/-- Go on to the next branch. -/
def Check.nextBranch (k : Check) : Check :=
  match k.opened with
  | [] =>
    { k with
      closed := k.top.before
      top := { k.top with earlier := k.top.earlier ++ k.closed } }
  | l :: opened =>
    { k with
      closed := l.before
      opened := { l with earlier := l.earlier ++ k.closed } :: opened }

/-- Check what is left of an expression. -/
def checkFrom (d : Dialect) : (fuel : Nat) → Check → Except String Unit
  | 0, _ => .ok ()
  | fuel + 1, k => do
    let (t, rest) ← next d k.atStart k.rest
    let plain : Check := { k with rest, atStart := false, bare := false, skipped := false }
    let repeated : Check :=
      if k.bare && d.extended then { plain with bare := true, skipped := true } else plain
    match t with
    | .finish => if k.opened.isEmpty then return else .error "Unmatched ( or \\("
    | .trailing => .error "Trailing backslash"
    | .openGroup =>
      checkFrom d fuel
        { plain with
          atStart := true, bare := true, groups := k.groups + 1,
          opened := { number := k.groups + 1, before := k.closed } :: k.opened }
    | .closeGroup =>
      match k.opened with
      | l :: opened =>
        if k.skipped then checkFrom d fuel plain
        else
          checkFrom d fuel { plain with opened, closed := l.number :: (k.closed ++ l.earlier) }
      | [] => if d.extended then checkFrom d fuel plain else .error "Unmatched ) or \\)"
    | .orElse => checkFrom d fuel { plain.nextBranch with atStart := true, bare := true }
    | .star => checkFrom d fuel repeated
    | .plus => checkFrom d fuel repeated
    | .optional => checkFrom d fuel repeated
    | .openCount =>
      if k.bare then checkFrom d fuel repeated
      else
        match countsFault d rest, counts? d rest with
        | some fault, _ => .error fault
        | none, some (_, _, after) => checkFrom d fuel { plain with rest := after }
        | none, none => checkFrom d fuel plain
    | .back n =>
      if k.closed.contains n then checkFrom d fuel plain else .error "Invalid back reference"
    | .anchor _ => checkFrom d fuel { plain with bare := true }
    | _ => checkFrom d fuel plain

/-- The first mistake of an expression. -/
def check (d : Dialect) (cs : List Char) : Except String Unit :=
  checkFrom d (cs.length + 1) { rest := cs }

/-! ### Reading -/

/-- What is left of an expression, and what was seen so far. -/
structure Reader where
  rest : List Char
  /-- Whether an operator here has nothing to work on. -/
  bare : Bool := true
  atStart : Bool := true
  depth : Nat := 0
  groups : Nat := 0
  warnings : List String := []
  mistake : Option String := none
deriving Inhabited

/-- A reading step. -/
abbrev Reading := StateM Reader

/-- Keep a warning. -/
def warn (message : String) : Reading Unit :=
  modify fun r => { r with warnings := r.warnings ++ [message ++ " at start of expression"] }

/-- The next token, which is not taken yet, and what follows it. A set with a mistake cannot come
here, because the expression was checked. -/
def peek (d : Dialect) : Reading (Token × List Char) := do
  let r ← get
  match next d r.atStart r.rest with
  | .ok p => return p
  | .error _ => return (.finish, [])

/-- Go on behind a token. -/
def go (rest : List Char) (bare : Bool) : Reading Unit :=
  modify fun r => { r with rest, bare, atStart := false }

/-- The repetitions behind an atom. -/
def repetitions (d : Dialect) : (fuel : Nat) → Regex → Reading Regex
  | 0, a => return a
  | fuel + 1, a => do
    let (t, rest) ← peek d
    let r ← get
    let apply (name : String) (least : Nat) (most : Option Nat) : Reading Regex := do
      if r.bare then
        if d.extended then warn name else return a
      go rest r.bare
      repetitions d fuel (.times a least most)
    match t with
    | .star => apply "*" 0 none
    | .plus => apply "+" 1 none
    | .optional => apply "?" 0 (some 1)
    | .openCount =>
      match counts? d rest with
      | some (least, most, after) =>
        if r.bare then
          if d.extended then warn "\x7b...\x7d" else return a
        go after false
        repetitions d fuel (.times a least most)
      | none => return a
    | _ => return a

/-- The byte of an operator that stands for itself. -/
def literalOf : Token → Option Char
  | .byte c => some c
  | .star => some '*'
  | .plus => some '+'
  | .optional => some '?'
  | .openCount => some '\x7b'
  | .closeGroup => some ')'
  | _ => none

/-- Whether the extended operator that comes next works on nothing. -/
def isOperator (d : Dialect) (bare : Bool) (rest : List Char) : Token → Bool
  | .star => d.extended || !bare
  | .plus => d.extended || !bare
  | .optional => d.extended || !bare
  | .openCount => (d.extended || !bare) && (counts? d rest).isSome
  | _ => false

/-- Pass over operators that have nothing to work on. -/
def passOperators (d : Dialect) : (fuel : Nat) → Reading Unit
  | 0 => return
  | fuel + 1 => do
    let (t, rest) ← peek d
    match t with
    | .star => go rest true; passOperators d fuel
    | .plus => go rest true; passOperators d fuel
    | .optional => go rest true; passOperators d fuel
    | .openCount => go rest true; passOperators d fuel
    | _ => return

/-- An atom with its repetitions. `inner` reads a whole expression. -/
def closure (d : Dialect) (inner : Reading Regex) : Reading Regex := do
  if d.placing && d.extended then passOperators d ((← get).rest.length + 1)
  let (t, rest) ← peek d
  let r ← get
  let fuel := r.rest.length + 1
  if !d.placing && isOperator d r.bare rest t then repetitions d fuel .empty
  else match t with
    | .openGroup =>
      modify fun r =>
        { r with rest, bare := true, atStart := true, depth := r.depth + 1, groups := r.groups + 1 }
      let n := r.groups + 1
      let a ← inner
      let (_, rest) ← peek d
      modify fun r => { r with rest, bare := false, atStart := false, depth := r.depth - 1 }
      repetitions d fuel (.group n a)
    | .set s =>
      if (r.rest.head? == some '[') &&
          looksLikeClass ((r.rest.drop 1).take (r.rest.length - rest.length - 2) |>.dropWhile
            (· == '^')) then
        modify fun r =>
          { r with mistake := some "character class syntax is [[:space:]], not [:space:]" }
      go rest false
      repetitions d fuel (.one s)
    | .back n =>
      go rest false
      repetitions d fuel (.taken n)
    | .anchor a =>
      go rest r.bare
      -- A basic expression may repeat a word border, but not the start of a line.
      if d.placing then return a else repetitions d fuel a
    | t =>
      match literalOf t with
      | some c =>
        go rest false
        repetitions d fuel (.one (.single c))
      | none => return .empty

/-- Whether a branch goes on. -/
def goesOn (d : Dialect) : Reading Bool := do
  let (t, _) ← peek d
  match t with
  | .finish => return false
  | .trailing => return false
  | .orElse => return false
  | .closeGroup => return (← get).depth == 0
  | _ => return true

/-- The atoms of a branch behind the first. -/
def branchFrom (d : Dialect) (inner : Reading Regex) : (fuel : Nat) → Regex → Reading Regex
  | 0, a => return a
  | fuel + 1, a => do
    if ← goesOn d then
      let b ← closure d inner
      branchFrom d inner fuel (.seq a b)
    else return a

/-- A branch. -/
def branch (d : Dialect) (inner : Reading Regex) : Reading Regex := do
  let fuel := (← get).rest.length + 1
  if ← goesOn d then
    let a ← closure d inner
    branchFrom d inner fuel a
  else return .empty

/-- The branches behind the first. -/
def branches (d : Dialect) (inner : Reading Regex) : (fuel : Nat) → Regex → Reading Regex
  | 0, a => return a
  | fuel + 1, a => do
    let (t, rest) ← peek d
    match t with
    | .orElse =>
      modify fun r => { r with rest, bare := true, atStart := true }
      let b ← branch d inner
      branches d inner fuel (.alt a b)
    | _ => return a

/-- An expression; the fuel bounds how deep groups are nested. -/
def expression (d : Dialect) : (fuel : Nat) → Reading Regex
  | 0 => return .empty
  | fuel + 1 => do
    let length := (← get).rest.length + 1
    let a ← branch d (expression d fuel)
    branches d (expression d fuel) length a

/-- What reading an expression gives: the expression, the warnings on the way, and a mistake. -/
structure Result where
  regex : Regex
  warnings : List String
  mistake : Option String
deriving Inhabited

/-- Read an expression that was checked. -/
def read (d : Dialect) (cs : List Char) : Result :=
  let (regex, r) := (expression d (cs.length + 1)).run { rest := cs }
  { regex, warnings := r.warnings, mistake := r.mistake }

/-- The expression for a text itself. -/
def literal : List Char → Regex
  | [] => .empty
  | [c] => .one (.single c)
  | c :: cs => .seq (.one (.single c)) (literal cs)

end Regex

end Scaffold
