import Scaffold.Machine.Shell.Session
import Scaffold.Machine.Tool.Judge

/-!
# Conditions of the shell

The shell evaluates conditions on its own. Its rules differ from those of the program of the same
name: whether an argument is an operator depends on what stands next to it, and both sides of a
logical operator are always evaluated.
-/

namespace Scaffold

namespace Shell

namespace Condition

/-- What an argument can be. -/
inductive Role where
  /-- A question about the next argument. -/
  | unary
  /-- A comparison of the arguments on both sides. -/
  | binary
  | negation
  | both
  | either
  | opening
  | closing
deriving DecidableEq, Repr, Inhabited

/-- Questions about one argument. -/
def questions : List Char := "rwxefdcbpugkstznhOGLS".toList

/-- Comparisons of two arguments. -/
def comparisons : List String :=
  ["=", "!=", "<", ">", "-eq", "-ne", "-gt", "-ge", "-lt", "-le", "-nt", "-ot", "-ef"]

/-- The operator that an argument could be. -/
def role? (arg : String) : Option Role :=
  match arg with
  | "!" => some .negation
  | "-a" => some .both
  | "-o" => some .either
  | "(" => some .opening
  | ")" => some .closing
  | _ =>
    if comparisons.contains arg then some .binary
    else match arg.toList with
      | ['-', c] => if questions.contains c then some .unary else none
      | _ => none

/-- What the first of some arguments is: nothing, an operator or an operand. -/
inductive Lexeme where
  | nothing
  | operator (r : Role)
  | operand
deriving DecidableEq, Repr, Inhabited

/-- Whether a question stands where an operand is expected. -/
def isOperand : List String → Bool
  | [_] => true
  | [_, _] => false
  | _ :: next :: third :: _ => role? next == some .binary && third != ")"
  | [] => false

/-- What the first of some arguments is. -/
def lex (args : List String) : Lexeme :=
  match args with
  | [] => .nothing
  | arg :: rest =>
    match role? arg with
    | none => .operand
    | some .unary => if isOperand args then .operand else .operator .unary
    | some .opening => if rest.isEmpty then .operand else .operator .opening
    | some r => .operator r

/-- The arguments from the current one on; a mistake is a message. -/
abbrev Judging := StateT (List String) (Except String)

/-- Refuse a condition. -/
def refuse {α : Type} (op message : String) : Judging α :=
  throw (if op.isEmpty then message else op ++ ": " ++ message)

/-- Go on by some arguments. -/
def skip (n : Nat) : Judging Unit := modify fun args => args.drop n

/-- The number that an argument is. -/
def number (text : String) : Judging Int := do
  let r := Integer.scan 10 text.toList
  if r.found && r.rest.all Integer.isSpace && !(Integer.clamp r.value).2 then return r.value
  else throw ("Illegal number: " ++ text)

section Files

variable (m : Machine) (cs : Channels) (dir : String)

/-- A question about one argument. -/
def question (op arg : String) : Judging Bool :=
  match op with
  | "-z" => return arg.isEmpty
  | "-n" => return !arg.isEmpty
  | "-t" => do
    let _ ← number arg
    return false
  | _ => return (Judge.file? m cs dir ((op.toList.drop 1).headD ' ') arg).getD false

/-- A comparison of two arguments. -/
def compare (op a b : String) : Judging Bool := do
  let byTime (f : Int → Int → Bool) : Bool :=
    match Judge.time? m.files dir a, Judge.time? m.files dir b with
    | some x, some y => f x y
    | _, _ => false
  match op with
  | "=" => return a == b
  | "!=" => return a != b
  | "<" => return decide (a < b)
  | ">" => return decide (b < a)
  | "-nt" => return byTime fun x y => decide (y < x)
  | "-ot" => return byTime fun x y => decide (x < y)
  | "-ef" => return Judge.same m.files dir a b
  | _ =>
    let x ← number a
    let y ← number b
    return ((Judge.compare? op).map fun f => f x y).getD false

mutual

/-- Conditions of which one has to hold. The current argument is the last one of the condition
afterwards. -/
def disjunction : (fuel : Nat) → Lexeme → Judging Bool
  | 0, _ => return false
  | fuel + 1, n => do
    let a ← conjunction fuel n
    if lex ((← get).drop 1) = .operator .either then
      skip 2
      let b ← disjunction fuel (lex (← get))
      return a || b
    else return a

/-- Conditions that all have to hold. -/
def conjunction : (fuel : Nat) → Lexeme → Judging Bool
  | 0, _ => return false
  | fuel + 1, n => do
    let a ← negatable fuel n
    if lex ((← get).drop 1) = .operator .both then
      skip 2
      let b ← conjunction fuel (lex (← get))
      return a && b
    else return a

/-- A condition that may be negated. -/
def negatable : (fuel : Nat) → Lexeme → Judging Bool
  | 0, _ => return false
  | fuel + 1, n => do
    if n = .operator .negation then
      let n := lex ((← get).drop 1)
      if n != .nothing then skip 1
      return !(← negatable fuel n)
    else primary fuel n

/-- A condition that is not combined. -/
def primary : (fuel : Nat) → Lexeme → Judging Bool
  | 0, _ => return false
  | fuel + 1, n => do
    let args ← get
    match n with
    | .nothing => return false
    | .operator .opening =>
      skip 1
      let n := lex (← get)
      if n = .operator .closing then return false
      let a ← disjunction fuel n
      skip 1
      if lex (← get) != .operator .closing then refuse "" "closing paren expected"
      return a
    | .operator .unary =>
      skip 1
      match (← get).head? with
      | some arg => question m cs dir (args.headD "") arg
      | none => refuse (args.headD "") "argument expected"
    | _ =>
      if lex (args.drop 1) = .operator .binary then
        skip 2
        match (← get).head? with
        | some b => compare m dir (args.getD 1 "") (args.headD "") b
        | none => refuse (args.getD 1 "") "argument expected"
      else return !(args.headD "").isEmpty

end

/-- Evaluate a condition from a lexeme on. -/
def evaluateFrom (args : List String) (n : Lexeme) : Except String Bool := do
  let go : Judging Bool := do
    let value ← disjunction m cs dir (8 * args.length + 8) n
    match ← get with
    | arg :: _ :: _ => refuse arg "unexpected operator"
    | _ => return value
  return (← StateT.run go args).1

/-- Evaluate a condition. Three and four arguments are looked at as a whole; an exclamation mark in
front of them negates, and so do several. -/
def evaluateIn (negated : Bool) : List String → Except String Bool
  | [] => return false
  | [a, op, b] =>
    if role? op = some .binary then give [a, op, b] .operand
    else if a = "(" && b = ")" then give [op] (lex [op])
    else if a = "!" then evaluateIn true [op, b]
    else give [a, op, b] (lex [a, op, b])
  | [a, b, c, d] =>
    if a = "(" && d = ")" then give [b, c] (lex [b, c])
    else if a = "!" then evaluateIn true [b, c, d]
    else give [a, b, c, d] (lex [a, b, c, d])
  | args => give args (lex args)
where
  /-- Evaluate from a lexeme on, and negate. -/
  give (args : List String) (n : Lexeme) : Except String Bool := do
    return (← evaluateFrom m cs dir args n) != negated

/-- Evaluate a condition. -/
def evaluate (args : List String) : Except String Bool := evaluateIn m cs dir false args

end Files

end Condition

end Shell

end Scaffold
