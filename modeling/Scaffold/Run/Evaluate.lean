import Scaffold.Run.Shell

/-!
# Evaluation

Expressions have a logical result, which conditions use, and a value, which assignments and loops
use. A shell command that fails is a false result with the output as value, never an error.

* `Run.evaluate` evaluates an expression.
* `Run.assign` gives the result to one variable, or its logical part and its value to two.
* `Run.expandLoop` gives the bindings of each round of a loop.
-/

namespace Scaffold

/-- The result of an expression. -/
structure Evaluated where
  logical : Bool
  value : Value
deriving DecidableEq, Repr, Inhabited

/-- What a variable reads as in an expression: false and empty unless its value counts as true. -/
def Evaluated.ofVariable (v : Option Value) : Evaluated :=
  match v with
  | some v => if v.truthy then ⟨true, v⟩ else ⟨false, .text ""⟩
  | none => ⟨false, .text ""⟩

/-- Whether a variable is set, and its value. -/
def Evaluated.ofDefined (v : Option Value) : Evaluated :=
  match v with
  | some v => ⟨true, v⟩
  | none => ⟨false, .text ""⟩

/-- Variables and the values they get in one round of a loop. -/
abbrev Bindings := List (String × Value)

/-- The rounds of a loop over a value. -/
def LoopHeader.rounds (h : LoopHeader) (v : Value) : Except SyntaxError (List Bindings) :=
  match h.second with
  | some second =>
    match v with
    | .mapping entries => .ok (entries.map fun e => [(h.first, e.1), (second, e.2)])
    | other => .error (.notAMapping other.kindName)
  | none =>
    match v with
    | .text s => .ok ((Text.words s).map fun w => [(h.first, .text w)])
    | .list items => .ok (items.map fun item => [(h.first, item)])
    | _ => .ok []

/-- The names on the left of an assignment: one, or two with a comma between them. -/
def assignedNames (target : String) : Except SyntaxError (String × Option String) :=
  match Text.split ',' target with
  | [name] => (variableName name).map fun name => (name, none)
  | [first, second] => do
    let first ← variableName first
    let second ← variableName second
    return (first, some second)
  | _ => .error (.tooManyVariables target)

namespace Run

variable {W : Type} (host : Host W)

/-- Run a command for its result. -/
def evaluateCommand (command : String) : Run W Evaluated := fun s =>
  match runShell host (s.context.format command) .quiet s with
  | (.ok output, s) => (.ok ⟨true, .text output⟩, s)
  | (.error (.error (.execution (.commandFailed _ _ output))), s) =>
    (.ok ⟨false, .text output⟩, s)
  | (.error (.error (.execution _)), s) => (.ok ⟨false, .text ""⟩, s)
  | (.error e, s) => (.error e, s)

/-- Answer a query. -/
def ask : Query → Run W Evaluated
  | .command line => evaluateCommand host line
  | .variable name => do return .ofVariable ((← context).vars.get? name)
  | .defined name => do return .ofDefined ((← context).vars.get? name)

/-- Evaluate an expression; anything but a text is its own value. -/
def evaluate (expression : Value) : Run W Evaluated := do
  record (.evaluated expression)
  match expression with
  | .text raw =>
    let e ← ofSyntax (Expr.read raw)
    let result ← ask host e.query
    return { result with logical := result.logical != e.negated }
  | other => return ⟨other.truthy, other⟩

/-- Assign the result of an expression to the variables of a target. -/
def assign (target : String) (expression : Value) : Run W Unit := do
  let (first, second) ← ofSyntax (assignedNames target)
  let result ← evaluate host expression
  match second with
  | none => setVar first result.value
  | some second =>
    setVar first (.bool result.logical)
    setVar second result.value

/-- The logical result of the condition of an `if` tag. -/
def condition (tag : String) : Run W Bool := do
  let text := Text.trim ((Text.stripPrefix? "if" tag).getD tag)
  return (← evaluate host (.text text)).logical

/-- The rounds of the loop of a `for` tag. -/
def expandLoop (tag : String) : Run W (List Bindings) := do
  let header ← ofSyntax (LoopHeader.read tag)
  let result ← evaluate host (.text header.expression)
  ofSyntax (header.rounds result.value)

/-- Set the variables of a round. -/
def bindAll : Bindings → Run W Unit
  | [] => pure ()
  | (name, v) :: rest => do
    setVar name v
    bindAll rest

end Run

end Scaffold
