import Scaffold.Machine.Tool.Basic

/-!
# Conditions

`test` evaluates a condition that its arguments spell: questions about files, comparisons of texts
and numbers, and their combinations. What up to four arguments mean depends on how many they are.
-/

namespace Scaffold

namespace Judge

/-! ### Files -/

/-- What a question about one file asks, by its letter. The answer is missing where there is no such
question. -/
def file? (m : Machine) (cs : Channels) (dir : String) (letter : Char) (name : String) :
    Option Bool :=
  let path := Machine.path name
  let item := m.item? cs dir path
  let isLink := match m.files.find dir path false with
    | .ok { item := some (.link _), .. } => true
    | .ok { item := some (.device (.channel n)), .. } => (cs.get? n).isSome
    | _ => false
  match letter with
  | 'e' => some item.isSome
  | 'r' => some item.isSome
  | 'w' => some item.isSome
  | 'O' => some item.isSome
  | 'G' => some item.isSome
  | 'x' => some (match item with
      | some (.file _ executable) => executable
      | some (.device _) => false
      | some _ => true
      | none => false)
  | 'f' => some (match item with
      | some (.file _ _) => true
      | some (.tool _) => true
      | _ => false)
  | 'd' => some (item == some .directory)
  | 's' => some (match item with
      | some (.file content _) => !content.isEmpty
      | some (.device _) => false
      | some _ => true
      | none => false)
  | 'c' => some (match item with
      | some (.device d) => d != .pipe
      | _ => false)
  | 'b' => some false
  | 'p' => some (item == some (.device .pipe))
  | 'S' => some false
  | 'u' => some false
  | 'g' => some false
  | 'k' => some (path == "/tmp" && item.isSome)
  | 'h' => some isLink
  | 'L' => some isLink
  | _ => none

/-- The time of a file. -/
def time? (f : Files) (dir name : String) : Option Int :=
  match f.resolve dir (Machine.path name) with
  | .ok { item := some _, key } => some (f.stamp key)
  | _ => none

/-- Whether two names stand for the same file. -/
def same (f : Files) (dir a b : String) : Bool :=
  match f.resolve dir (Machine.path a), f.resolve dir (Machine.path b) with
  | .ok { item := some _, key := x }, .ok { item := some _, key := y } => f.isSame x y
  | _, _ => false

/-- A comparison of numbers by its name. -/
def compare? (op : String) : Option (Int → Int → Bool) :=
  match op with
  | "-eq" => some fun x y => x == y
  | "-ne" => some fun x y => x != y
  | "-lt" => some fun x y => decide (x < y)
  | "-le" => some fun x y => decide (x ≤ y)
  | "-gt" => some fun x y => decide (y < x)
  | "-ge" => some fun x y => decide (y ≤ x)
  | _ => none

end Judge

namespace Tool

namespace Test

/-- What is left of the arguments, and all of them. -/
structure Reader where
  rest : List String
  last : String := ""
deriving Inhabited

/-- A step of evaluation. -/
abbrev Judging := StateT Reader Tool

/-- A condition that is malformed. -/
def malformed {α : Type} (message : String) : Judging α := die 2 message

/-- Too few arguments. -/
def missing {α : Type} : Judging α := do
  malformed ("missing argument after " ++ Quote.plain (← get).last)

/-- The next argument, which is taken. -/
def take : Judging String := do
  let r ← get
  match r.rest with
  | arg :: rest =>
    set { r with rest }
    return arg
  | [] => missing

/-- The operators between two operands. -/
def isBinary (op : String) : Bool :=
  ["=", "==", "!=", "-nt", "-ot", "-ef", "-eq", "-ne", "-lt", "-le", "-gt", "-ge"].contains op

/-- A number of any size. -/
def number (text : String) : Judging Int := do
  let cs := (text.toList.reverse.dropWhile Integer.isSpace).reverse
  let r := Integer.scan 10 cs
  if r.found && r.rest.isEmpty then return r.value
  else malformed ("invalid integer " ++ Quote.plain text)

/-- Whether an argument is a question about one operand. -/
def isUnary (arg : String) : Bool :=
  match arg.toList with
  | ['-', c] => "bcdefgGhknNLoOprsStuvwxz".toList.contains c && c != 'o' && c != 'v'
  | _ => false

/-- A question about one operand. -/
def unary : Judging Bool := do
  let op ← take
  let letter := (op.toList.drop 1).headD ' '
  if !isUnary op then malformed (Quote.plain op ++ ": unary operator expected")
  let arg ← take
  let s ← (getThe State : Tool State)
  match letter with
  | 'n' => return !arg.isEmpty
  | 'z' => return arg.isEmpty
  | 't' =>
    let _ ← number arg
    return false
  | 'N' => return false
  | c => return (Judge.file? s.machine s.process.channels s.process.dir c arg).getD false

/-- An operand of a comparison, which may be the length of a text. -/
def operand : Judging (String × Bool) := do
  match (← get).rest with
  | "-l" :: text :: _ :: _ =>
    let _ ← take
    let _ ← take
    return (text, true)
  | _ => return (← take, false)

/-- A comparison of two operands. -/
def binary (withLength : Bool) : Judging Bool := do
  let (a, isLength) ← if withLength then operand else do pure (← take, false)
  let op ← take
  let rest := (← get).rest
  let (b, isLength') ←
    if rest.head? == some "-l" && rest.length ≥ 2 then do
      let _ ← take
      pure (← take, true)
    else do pure (← take, false)
  let s ← (getThe State : Tool State)
  let f := s.machine.files
  let dir := s.process.dir
  if ["-ef", "-nt", "-ot"].contains op && (isLength || isLength') then
    malformed (op ++ " does not accept -l")
  -- In a comparison of texts, the mark of a length puts the operator in the place of its operand.
  let a := if isLength' && (Judge.compare? op).isNone then op else a
  match op with
  | "=" => return a == b
  | "==" => return a == b
  | "!=" => return a != b
  | "-ef" => return Judge.same f dir a b
  | "-nt" =>
    return match Judge.time? f dir a, Judge.time? f dir b with
      | some x, some y => decide (y < x)
      | some _, none => true
      | none, _ => false
  | "-ot" =>
    return match Judge.time? f dir a, Judge.time? f dir b with
      | some x, some y => decide (x < y)
      | none, some _ => true
      | _, none => false
  | op =>
    let x ← if isLength then pure (a.length : Int) else number a
    let y ← if isLength' then pure (b.length : Int) else number b
    return ((Judge.compare? op).map fun c => c x y).getD false

mutual

/-- A condition without connectives. -/
def term : (fuel : Nat) → Judging Bool
  | 0 => return false
  | fuel + 1 => do
    let r ← get
    let negations := r.rest.takeWhile (· == "!")
    let negated := negations.length % 2 == 1
    set { r with rest := r.rest.drop negations.length }
    let r ← get
    let value ← match r.rest with
      | [] => missing
      | "(" :: inside =>
        if inside.isEmpty then missing
        set { r with rest := inside }
        let upTo := (inside.drop 1).takeWhile (· != ")")
        let count := if upTo.length ≥ 4 then inside.length else upTo.length + 1
        let value ← counted fuel count
        match (← get).rest with
        | [] => malformed "')' expected"
        | ")" :: rest =>
          modify fun r => { r with rest }
          pure value
        | found :: _ => malformed ("')' expected, found " ++ Quote.plain found)
      | args =>
        if args.length ≥ 4 && args.head? == some "-l" && isBinary (args.getD 2 "") then binary true
        else if args.length ≥ 3 && isBinary (args.getD 1 "") then binary false
        else
          match (args.headD "").toList with
          | ['-', _] => unary
          | _ => do pure !(← take).isEmpty
    return value != negated

/-- Terms that all have to hold. -/
def conjunction : (fuel : Nat) → Judging Bool
  | 0 => return false
  | fuel + 1 => do
    let a ← term fuel
    match (← get).rest with
    | "-a" :: rest =>
      modify fun r => { r with rest }
      let b ← conjunction fuel
      return a && b
    | _ => return a

/-- Conditions of which one has to hold. -/
def disjunction : (fuel : Nat) → Judging Bool
  | 0 => return false
  | fuel + 1 => do
    let a ← conjunction fuel
    match (← get).rest with
    | "-o" :: rest =>
      modify fun r => { r with rest }
      let b ← disjunction fuel
      return a || b
    | _ => return a

/-- A condition of so many arguments. -/
def counted : (fuel count : Nat) → Judging Bool
  | 0, _ => return false
  | fuel + 1, count => do
    let args := (← get).rest
    let skip : Judging Unit := do
      let _ ← take
    match count with
    | 1 => do return !(← take).isEmpty
    | 2 =>
      if args.head? == some "!" then
        skip
        return !(← counted fuel 1)
      else
        match (args.headD "").toList with
        | ['-', _] => unary
        | _ => missing
    | 3 =>
      if isBinary (args.getD 1 "") then binary false
      else if args.head? == some "!" then
        skip
        return !(← counted fuel 2)
      else if args.head? == some "(" && args.getD 2 "" == ")" then
        skip
        let value ← counted fuel 1
        skip
        return value
      else if args.getD 1 "" == "-a" || args.getD 1 "" == "-o" then disjunction fuel
      else malformed (Quote.plain (args.getD 1 "") ++ ": binary operator expected")
    | 4 =>
      if args.head? == some "!" then
        skip
        return !(← counted fuel 3)
      else if args.head? == some "(" && args.getD 3 "" == ")" then
        skip
        let value ← counted fuel 2
        skip
        return value
      else disjunction fuel
    | _ => disjunction fuel

end

/-- Evaluate a whole condition. -/
def judge (args : List String) : Tool Bool := do
  let go : Judging Bool := do
    let value ← counted (8 * args.length + 8) args.length
    match (← get).rest with
    | [] => return value
    | extra :: _ => malformed ("extra argument " ++ Quote.plain extra)
  let (value, _) ← StateT.run go { rest := args, last := args.getLastD "" }
  return value

end Test

/-- Evaluate a condition; under the name of a bracket the closing one comes last. -/
def test (bracket : Bool) (args : List String) : Tool Nat := do
  if bracket then standardOption args
  let args ←
    if bracket then
      if args.getLast? == some "]" then pure args.dropLast else die 2 "missing ']'"
    else pure args
  if args.isEmpty then return 1
  return if ← Test.judge args then 0 else 1

end Tool

end Scaffold
