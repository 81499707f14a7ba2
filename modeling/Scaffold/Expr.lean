import Scaffold.Error
import Scaffold.Text.Word

/-!
# Expressions and loop headers

The small texts that conditions, loops and assignments are written with.

* `variableName` reads the name out of `$name`, `${name}` and their quoted spellings.
* `Expr.read` reads a condition or right-hand side: a variable, `defined` and a variable, or a
  shell command in `$(…)`, each with an optional `not` in front.
* `LoopHeader.read` reads `for $x in …` and `for $k, $v in …`.
-/

namespace Scaffold

/-! ### Variable references -/

/-- The inside of a text in matching quotes `q`. -/
def insideQuotes? (q : Char) (cs : List Char) : Option (List Char) :=
  (Chars.stripPrefix? [q] cs).bind (Chars.stripSuffix? [q])

/-- A text without matching double or single quotes around it. -/
def unquoted (cs : List Char) : List Char :=
  ((insideQuotes? '"' cs).or (insideQuotes? '\'' cs)).getD cs

/-- A name without braces around it. -/
def unbraced (cs : List Char) : List Char :=
  ((Chars.stripPrefix? ['{'] cs).bind (Chars.stripSuffix? ['}'])).getD cs

/-- The variable that `$name`, `${name}` or a quoted form of either refers to. -/
def variableName (reference : String) : Except SyntaxError String :=
  match Chars.stripPrefix? ['$'] (unquoted (Chars.trim reference.toList)) with
  | none => .error (.invalidVariable reference)
  | some rest =>
    let name := unbraced rest
    if name.isEmpty then .error (.invalidVariable reference) else .ok (String.ofList name)

/-! ### Expressions -/

/-- What an expression asks for. -/
inductive Query where
  /-- Run a shell command. -/
  | command (text : String)
  /-- Read a variable; an unset or false one reads as the empty text. -/
  | variable (name : String)
  /-- Whether a variable is set at all. -/
  | defined (name : String)
deriving DecidableEq, Repr, Inhabited

/-- An expression: a query whose logical result may be inverted. -/
structure Expr where
  negated : Bool
  query : Query
deriving DecidableEq, Repr, Inhabited

/-- Take one `not` and the blanks after it off the front. -/
def stripNot (cs : List Char) : Bool × List Char :=
  match Chars.stripPrefix? "not ".toList cs with
  | some rest => (true, Chars.trimStart rest)
  | none => (false, cs)

/-- The query that a text, without blanks around it and without `not`, asks. -/
def Query.read (raw : String) (cs : List Char) : Except SyntaxError Query :=
  match Chars.stripPrefix? "$(".toList cs with
  | some rest =>
    match Chars.stripSuffix? [')'] rest with
    | some line => .ok (.command (String.ofList line))
    | none => .error (.invalidExpression raw)
  | none =>
    if (Chars.stripPrefix? ['$'] cs).isSome || (Chars.stripPrefix? ['"', '$'] cs).isSome then
      (variableName (String.ofList cs)).map .variable
    else match Chars.stripPrefix? "defined ".toList cs with
      | some rest => (variableName (String.ofList rest)).map .defined
      | none => .error (.invalidExpression raw)

/-- Read an expression. -/
def Expr.read (raw : String) : Except SyntaxError Expr :=
  let (negated, rest) := stripNot (Chars.trim raw.toList)
  (Query.read raw rest).map fun query => { negated, query }

/-! ### Loop headers -/

/-- The control variables of a loop, one or two, and the expression it goes over. -/
structure LoopHeader where
  first : String
  second : Option String
  expression : String
deriving DecidableEq, Repr, Inhabited

/-- The control variables in order. -/
def LoopHeader.names (h : LoopHeader) : List String := h.first :: h.second.toList

namespace LoopHeader

/-- Skip at least one blank. -/
def blanks? (cs : List Char) : Option (List Char) :=
  match cs with
  | c :: rest => if isBlank c then some (Chars.trimStart rest) else none
  | [] => none

/-- Take a character if it comes next. -/
def optional (c : Char) (cs : List Char) : List Char × List Char :=
  match Chars.stripPrefix? [c] cs with
  | some rest => ([c], rest)
  | none => ([], cs)

/-- A control variable as written: a dollar sign, a word, and on each side of the word a brace that
may or may not be there. -/
def control? (cs : List Char) : Option (List Char × List Char) :=
  (Chars.stripPrefix? ['$'] cs).bind fun rest =>
    let (opening, rest) := optional '{' rest
    let word := rest.takeWhile isWord
    let (closing, rest) := optional '}' (rest.dropWhile isWord)
    if word.isEmpty then none
    else some ('$' :: (opening ++ word ++ closing), rest)

/-- The second control variable, if a comma follows the first. -/
def second? (cs : List Char) : Option (Option (List Char) × List Char) :=
  match Chars.stripPrefix? [','] (Chars.trimStart cs) with
  | some rest => (control? (Chars.trimStart rest)).map fun (v, rest) => (some v, rest)
  | none => some (none, cs)

/-- The parts of a header without blanks around it: control variables and expression. -/
def parts? (cs : List Char) : Option (List Char × Option (List Char) × List Char) :=
  (Chars.stripPrefix? "for".toList cs).bind fun cs =>
  (blanks? cs).bind fun cs =>
  (control? cs).bind fun (first, cs) =>
  (second? cs).bind fun (second, cs) =>
  (blanks? cs).bind fun cs =>
  (Chars.stripPrefix? "in".toList cs).bind fun cs =>
  (blanks? cs).bind fun expression =>
    if expression.isEmpty || expression.contains '\n' then none
    else some (first, second, expression)

/-- Read a loop header. -/
def read (header : String) : Except SyntaxError LoopHeader :=
  match parts? (Chars.trim header.toList) with
  | none => .error (.invalidFor header)
  | some (first, second, expression) => do
    let first ← variableName (String.ofList first)
    let second ← match second with
      | some v => (variableName (String.ofList v)).map some
      | none => .ok none
    return { first, second, expression := Text.trim (String.ofList expression) }

end LoopHeader

end Scaffold
