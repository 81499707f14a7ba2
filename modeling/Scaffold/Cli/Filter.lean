import Scaffold.Cli.FieldPattern
import Scaffold.Run.Context
import Scaffold.Text.Alphanumeric

/-!
# Message filters

The environment can say which messages are shown, in directives with commas between them. A
directive is a level, the name of a part of the program, or such a name with an equals sign and a
level behind it; a name may be followed by a span and fields in brackets. A directive counts for the
parts whose names start with its own, and of several that count for a message the longest name wins.

* `Directive.read?` reads one directive, `Filter.read?` a whole filter.
* `Filter.shows` decides whether a message is shown.
-/

namespace Scaffold

/-- Name of the program. -/
def toolName : String := "devassist"

/-- What filters call a part of the program. -/
def Origin.name : Origin → String
  | .application => toolName ++ "::cli::app"
  | .invocation => toolName ++ "::runner::path"
  | .running => toolName ++ "::runner::section"
  | .collecting => toolName ++ "::runner::deps"
  | .calling => toolName ++ "::runner::call"
  | .shell => toolName ++ "::runner::command"
  | .logging => toolName ++ "::runner::log"
  | .marking => toolName ++ "::runner::marker"
  | .installing => toolName ++ "::runner::install"
  | .publishing => toolName ++ "::runner::github"

/-- How much must be shown for a level to be seen. -/
def Level.rank : Level → Nat
  | .debug => 4
  | .info => 3
  | .warn => 2
  | .error => 1

/-- The rank that shows everything. -/
def fullRank : Nat := 5

/-- The names of the ranks, from none to all. -/
def rankNames : List String := ["off", "error", "warn", "info", "debug", "trace"]

/-- A number in digits, behind a plus sign if there is one. -/
def number? (s : String) : Option Nat :=
  let cs := s.toList
  let digits := (Chars.stripPrefix? ['+'] cs).getD cs
  if digits.isEmpty || !digits.all Char.isDigit then none
  else some (digits.foldl (fun n d => n * 10 + (d.toNat - 48)) 0)

/-- The greatest rank that a level shows; a name in any case, or a number. -/
def filterRank? (s : String) : Option Nat :=
  match (number? s).filter (· ≤ fullRank) with
  | some n => some n
  | none =>
    let i := rankNames.idxOf (String.ofList (s.toList.map Char.toLower))
    if i < rankNames.length then some i else none

/-- A directive: the names it counts for, the greatest rank it shows, whether it names a span, and
fields, each with whether it asks for a value. -/
structure Directive where
  target : Option String := none
  rank : Nat := fullRank
  span : Bool := false
  fields : List (String × Bool) := []
deriving DecidableEq, Repr, Inhabited

namespace Directive

/-- How far the reading of a directive is; numbers are where a part of it starts. -/
inductive Stage where
  | start
  | name (first : Nat)
  | span (first : Nat)
  | field (first : Nat)
  | afterField
  | afterSpan
  | level (first : Nat)
deriving DecidableEq, Repr, Inhabited

/-- Whether a directive can start with a character. -/
def startsName (c : Char) : Bool := ['-', ':', '_'].contains c || isAlphanumeric c

/-- The part of a text between two places. -/
def slice (text : List Char) (first last : Nat) : String :=
  String.ofList ((text.drop first).take (last - first))

/-- A field, with or without a value, which ends at a second equals sign and must be one that can be
asked for. -/
def field? (s : String) : Option (String × Bool) :=
  match Text.split '=' s with
  | name :: value :: _ => if FieldPattern.isValue value.toList then some (name, true) else none
  | _ => if s.isEmpty then none else some (s, false)

/-- Go on with the character at place `i`. -/
def step (text : List Char) (i : Nat) (c : Char) : Stage × Directive → Option (Stage × Directive)
  | (.start, d) =>
    if c == '[' then some (.span (i + 1), d)
    else if startsName c then some (.name i, d)
    else none
  | (.name first, d) =>
    if c == '=' then some (.level (i + 1), { d with target := some (slice text first i) })
    else if c == '[' then some (.span (i + 1), { d with target := some (slice text first i) })
    else some (.name first, d)
  | (.span first, d) =>
    if c == ']' then some (.afterSpan, { d with span := true })
    else if c == '\x7b' then some (.field (i + 1), { d with span := first != i })
    else some (.span first, d)
  | (.field first, d) =>
    if c == '\x7d' then
      (field? (slice text first i)).map fun f => (.afterField, { d with fields := d.fields ++ [f] })
    else some (.field first, d)
  | (.afterField, d) => if c == ']' then some (.afterSpan, d) else none
  | (.afterSpan, d) => if c == '=' then some (.level (i + 1), d) else none
  | (.level first, d) => some (.level first, d)

/-- Go on with characters from place `i` on. -/
def steps (text : List Char) : Nat → List Char → Stage × Directive → Option (Stage × Directive)
  | _, [], s => some s
  | i, c :: cs, s => (step text i c s).bind (steps text (i + 1) cs)

/-- Read a directive. Blanks around it are not looked at, but its parts are taken as if there were
none in front of it. -/
def read? (s : String) : Option Directive := do
  let text := s.toList
  let (stage, d) ← steps text 0 (Chars.trim text) (.start, {})
  match stage with
  | .name first =>
    let name := slice text first text.length
    match filterRank? name with
    | some rank => return { d with rank }
    | none => return { d with target := some name }
  | .level first =>
    let level := slice text first text.length
    if level.isEmpty then return d
    return { d with rank := ← filterRank? level }
  | .afterSpan => return d
  | _ => none

/-- Whether a directive can show messages outside of spans. -/
def isFixed (d : Directive) : Bool := !d.span && d.fields.all fun f => !f.2

/-- Whether a directive counts for messages of an origin. Their only field is the message. -/
def countsFor (d : Directive) (o : Origin) : Bool :=
  d.isFixed && d.target.all (fun t => Text.startsWith t o.name) &&
    d.fields.all fun f => f.1 == "message"

/-- How special a directive is. -/
def weight (d : Directive) : Nat × Nat :=
  ((d.target.map fun t => t.utf8ByteSize + 1).getD 0, d.fields.length)

/-- Whether a directive is at least as special as another. -/
def outweighs (d e : Directive) : Bool :=
  d.weight.1 > e.weight.1 || (d.weight.1 == e.weight.1 && d.weight.2 ≥ e.weight.2)

end Directive

/-- Directives in the order they were given. -/
abbrev Filter := List Directive

namespace Filter

/-- Read a filter; nothing if a directive is malformed. Without any directive only errors are
shown. -/
def read? (s : String) : Option Filter := do
  let parts := (Text.split ',' s).filter fun part => !part.isEmpty
  if parts.isEmpty then return [{ rank := Level.rank .error }]
  parts.mapM Directive.read?

/-- The directive that decides on messages of an origin: the most special one, of equals the
last. -/
def decisive? (f : Filter) (o : Origin) : Option Directive :=
  f.foldl (fun best d =>
    if d.countsFor o && best.all d.outweighs then some d else best) none

/-- Whether messages of an origin and a level are shown. -/
def shows (f : Filter) (o : Origin) (l : Level) : Bool :=
  (f.decisive? o).any fun d => l.rank ≤ d.rank

end Filter

end Scaffold
