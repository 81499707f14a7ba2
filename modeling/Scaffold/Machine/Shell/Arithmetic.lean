import Scaffold.Machine.Number
import Scaffold.Machine.Shell.Script

/-!
# Arithmetic of the shell

`Arithmetic.evaluate` computes an expression over signed words of 64 bits. Variables are looked up
by a function; assignments are collected, those before a mistake too, so that evaluation itself
changes nothing. The side of a
logical operator that does not matter is read but not computed.
-/

namespace Scaffold

namespace Shell

namespace Arithmetic

/-- A token of an expression. -/
inductive Token where
  | number (n : Int)
  | name (s : String)
  | symbol (s : String)
deriving DecidableEq, Repr, Inhabited

/-- Symbols, a longer one before those it starts with. -/
def symbols : List String :=
  ["<<=", ">>=", "<<", ">>", "<=", ">=", "==", "!=", "&&", "||", "*=", "/=", "%=", "+=", "-=", "&=",
   "|=", "^=", "<", ">", "=", "!", "&", "|", "*", "/", "%", "+", "-", "^", "~", "?", ":", "(", ")"]

/-- The tokens of an expression. What is no token at all is a symbol of its own. -/
def tokens : (fuel : Nat) → List Char → List Token
  | 0, _ => []
  | _ + 1, [] => []
  | fuel + 1, c :: cs =>
    if c == ' ' || c == '\t' || c == '\n' then tokens fuel cs
    else if c.isDigit then
      let r := Integer.scan 0 (c :: cs)
      .number (Integer.clamp r.value).1 :: tokens fuel r.rest
    else if isNameStart c then
      let name := (c :: cs).takeWhile isNameChar
      .name (String.ofList name) :: tokens fuel ((c :: cs).drop name.length)
    else
      match symbols.find? fun s => (Chars.stripPrefix? s.toList (c :: cs)).isSome with
      | some s => .symbol s :: tokens fuel ((c :: cs).drop s.length)
      | none => .symbol (String.singleton c) :: tokens fuel cs

/-- What is wrong with an expression. -/
inductive Mistake where
  | expression (reason : String)
  /-- A variable whose value is no number. -/
  | value (text : String)
  /-- A quotient that is no word, which the processor refuses. -/
  | trapped
deriving DecidableEq, Repr, Inhabited

/-- What is left of an expression, and the assignments so far, the latest first. -/
structure State where
  rest : List Token
  assigned : List (String × Int) := []
deriving Inhabited

/-- A step of evaluation. -/
abbrev Calculation := ExceptT Mistake (StateM State)

/-- Give up an expression. -/
def refuse {α : Type} (reason : String) : Calculation α := throw (.expression reason)

/-- Take a symbol if it comes next. -/
def accept (s : String) : Calculation Bool := do
  match (← get).rest with
  | .symbol t :: rest =>
    if t = s then
      modify fun st => { st with rest }
      return true
    else return false
  | _ => return false

/-- Numbers as truth values. -/
def truth (b : Bool) : Int := if b then 1 else 0

/-- Shift to the left; only the low six bits of the amount count. -/
def shiftLeft (a b : Int) : Int := Integer.wrap (a * (Nat.pow 2 (b % 64).toNat : Nat))

/-- Shift to the right, keeping the sign; only the low six bits of the amount count. -/
def shiftRight (a b : Int) : Int := Int.fdiv a (Nat.pow 2 (b % 64).toNat : Nat)

/-- Apply an operation to the bits of two words. -/
def bitwise (f : Nat → Nat → Nat) (a b : Int) : Int :=
  Integer.wrap (f (Integer.unsigned a) (Integer.unsigned b) : Nat)

/-- How strongly a binary operator binds; the strongest have the smallest number. -/
def strength? : String → Option Nat
  | "*" => some 0
  | "/" => some 0
  | "%" => some 0
  | "+" => some 1
  | "-" => some 1
  | "<<" => some 2
  | ">>" => some 2
  | "<" => some 3
  | "<=" => some 3
  | ">" => some 3
  | ">=" => some 3
  | "==" => some 4
  | "!=" => some 4
  | "&" => some 5
  | "^" => some 6
  | "|" => some 7
  | _ => none

/-- Divide. -/
def divide (f : Int → Int → Int) (a b : Int) : Calculation Int :=
  if b = 0 then refuse "division by zero"
  else if b = -1 && a = Integer.smallest then throw .trapped
  else return f a b

/-- Apply a binary operator. -/
def apply (op : String) (a b : Int) : Calculation Int :=
  match op with
  | "*" => return Integer.wrap (a * b)
  | "/" => divide Int.tdiv a b
  | "%" => divide Int.tmod a b
  | "+" => return Integer.wrap (a + b)
  | "-" => return Integer.wrap (a - b)
  | "<<" => return shiftLeft a b
  | ">>" => return shiftRight a b
  | "<" => return truth (a < b)
  | "<=" => return truth (a ≤ b)
  | ">" => return truth (b < a)
  | ">=" => return truth (b ≤ a)
  | "==" => return truth (a == b)
  | "!=" => return truth (a != b)
  | "&" => return bitwise Nat.land a b
  | "^" => return bitwise Nat.xor a b
  | _ => return bitwise Nat.lor a b

/-- The operator that an assignment applies first; a plain one applies none. -/
def assignment? (s : String) : Option String :=
  if s = "=" then some ""
  else
    match (Text.stripSuffix? "=" s) with
    | some op =>
      if ["*", "/", "%", "+", "-", "<<", ">>", "&", "^", "|"].contains op then some op else none
    | none => none

section Values

variable (value? : String → Option String)

/-- The number that a variable stands for. -/
def valueOf (name : String) : Calculation Int := do
  match List.lookup name (← get).assigned with
  | some n => return n
  | none =>
    let text := (value? name).getD ""
    let r := Integer.scan 0 text.toList
    let (n, outside) := Integer.clamp r.value
    if outside || !r.rest.all Integer.isSpace then throw (.value text) else return n

mutual

/-- An assignment, or an expression that is none. What is not `live` is read only. -/
def assignment : (fuel : Nat) → (live : Bool) → Calculation Int
  | 0, _ => refuse "expecting primary"
  | fuel + 1, live => do
    match (← get).rest with
    | .name name :: .symbol s :: rest =>
      match assignment? s with
      | none => condition fuel live
      | some op =>
        modify fun st => { st with rest }
        let b ← assignment fuel live
        if !live then return b
        let n ← if op.isEmpty then pure b else do apply op (← valueOf value? name) b
        modify fun st => { st with assigned := (name, n) :: st.assigned }
        return n
    | _ => condition fuel live

/-- A choice between two expressions. -/
def condition : (fuel : Nat) → (live : Bool) → Calculation Int
  | 0, _ => refuse "expecting primary"
  | fuel + 1, live => do
    let a ← disjunction fuel live
    if ← accept "?" then
      let b ← assignment fuel (live && a != 0)
      if !(← accept ":") then refuse "expecting ':'"
      let c ← condition fuel (live && a == 0)
      return if a != 0 then b else c
    else return a

/-- Expressions of which one has to be true. -/
def disjunction : (fuel : Nat) → (live : Bool) → Calculation Int
  | 0, _ => refuse "expecting primary"
  | fuel + 1, live => do
    let a ← conjunction fuel live
    if ← accept "||" then
      let b ← disjunction fuel (live && a == 0)
      return truth (a != 0 || b != 0)
    else return a

/-- Expressions that all have to be true. -/
def conjunction : (fuel : Nat) → (live : Bool) → Calculation Int
  | 0, _ => refuse "expecting primary"
  | fuel + 1, live => do
    let a ← primary fuel live
    let a ← operators fuel live 8 a
    if ← accept "&&" then
      let b ← conjunction fuel (live && a != 0)
      return truth (a != 0 && b != 0)
    else return a

/-- Go on with binary operators that bind more strongly than a limit. -/
def operators : (fuel : Nat) → (live : Bool) → (limit : Nat) → Int → Calculation Int
  | 0, _, _, a => return a
  | fuel + 1, live, limit, a => do
    match (← get).rest with
    | .symbol op :: rest =>
      match strength? op with
      | none => return a
      | some strength =>
        if strength ≥ limit then return a
        modify fun st => { st with rest }
        let b ← primary fuel live
        let b ← operators fuel live strength b
        let a ← if live then apply op a b else pure b
        operators fuel live limit a
    | _ => return a

/-- A number, a variable, an expression in parentheses, or one of them behind a sign. -/
def primary : (fuel : Nat) → (live : Bool) → Calculation Int
  | 0, _ => refuse "expecting primary"
  | fuel + 1, live => do
    match (← get).rest with
    | .number n :: rest =>
      modify fun st => { st with rest }
      return n
    | .name name :: rest =>
      modify fun st => { st with rest }
      if live then valueOf value? name else return 0
    | .symbol s :: rest =>
      modify fun st => { st with rest }
      match s with
      | "(" =>
        let a ← assignment fuel live
        if !(← accept ")") then refuse "expecting ')'"
        return a
      | "+" => primary fuel live
      | "-" => return Integer.wrap (-(← primary fuel live))
      | "!" => return truth ((← primary fuel live) == 0)
      | "~" => return Integer.wrap (-(← primary fuel live) - 1)
      | _ => refuse "expecting primary"
    | [] => refuse "expecting primary"

end

/-- The value of an expression, or what is wrong with it, and the assignments it makes, in order. -/
def evaluate (text : String) : Except Mistake Int × List (String × Int) :=
  let all := tokens (text.length + 1) text.toList
  let go : Calculation Int := do
    let n ← assignment value? (8 * all.length + 8) true
    if !(← get).rest.isEmpty then refuse "expecting EOF"
    return n
  let (n, st) := (ExceptT.run go).run { rest := all }
  (n, st.assigned.reverse)

end Values

/-- The message about a mistake in an expression. -/
def Mistake.message (text : String) : Mistake → String
  | .expression reason => "arithmetic expression: " ++ reason ++ ": \"" ++ text ++ "\""
  | .value v => "Illegal number: " ++ v
  | .trapped => ""

end Arithmetic

end Shell

end Scaffold
