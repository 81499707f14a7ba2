import Scaffold.Machine.Shell.Script
import Scaffold.Table

/-!
# Readers of shell scripts

The state of reading a script, the tokens it is made of, and how single characters are taken. A
backslash in front of a line break joins two lines; `peek` and `take` do not see it.
-/

namespace Scaffold

namespace Shell

/-! ### Tokens -/

/-- A token of a script. -/
inductive Token where
  | fileEnd
  | newline
  | semicolon
  | ampersand
  | both
  | either
  | pipe
  | opening
  | closing
  /-- The end of a case, two semicolons. -/
  | caseEnd
  | redirection
  | word
  | keyword (text : String)
deriving DecidableEq, Repr, Inhabited

namespace Token

/-- How messages name a token. -/
def name : Token → String
  | .fileEnd => "end of file"
  | .newline => "newline"
  | .semicolon => "\";\""
  | .ampersand => "\"&\""
  | .both => "\"&&\""
  | .either => "\"||\""
  | .pipe => "\"|\""
  | .opening => "\"(\""
  | .closing => "\")\""
  | .caseEnd => "\";;\""
  | .redirection => "redirection"
  | .word => "word"
  | .keyword text => "\"" ++ text ++ "\""

/-- Keywords that end a list of commands. -/
def enders : List String := ["do", "done", "elif", "else", "esac", "fi", "then", "\x7d"]

/-- All keywords. -/
def keywords : List String := ["!", "case", "for", "if", "in", "until", "while", "\x7b"] ++ enders

/-- Whether a token ends a list of commands. -/
def endsList : Token → Bool
  | .fileEnd => true
  | .closing => true
  | .caseEnd => true
  | .keyword text => enders.contains text
  | _ => false

end Token

/-! ### The state of reading -/

/-- A text that a redirection waits for. -/
structure Awaited where
  id : Nat
  delimiter : String
  stripTabs : Bool
  quoted : Bool
deriving Inhabited

/-- The text of an abbreviation that is being read: its name, how much of the script is behind it,
and whether it ends in a blank. -/
structure Abbreviated where
  name : String
  behind : Nat
  blank : Bool
deriving Inhabited

/-- What is left of a script and what is known from the part before. -/
structure Reader where
  rest : List Char
  line : Nat := 1
  /-- Whether the text behind a command that is being read is over. -/
  closed : Bool := false
  /-- Whether the last token is to be read again. -/
  pushed : Bool := false
  token : Token := .fileEnd
  /-- The last word. -/
  word : Word := []
  /-- Whether some of the last word was quoted. -/
  quoted : Bool := false
  /-- The last redirection; its target is still to be read. -/
  redirect : Redirect := default
  /-- Whether tabs are to be taken from the text of the last redirection. -/
  stripTabs : Bool := false
  awaited : List Awaited := []
  texts : List (Nat × HereText) := []
  count : Nat := 0
  abbreviations : Table String := ∅
  active : List Abbreviated := []
deriving Inhabited

/-- Why a script is refused, and in which line. -/
structure Refusal where
  line : Nat
  reason : String
deriving Inhabited

/-- A reading step. -/
abbrev Reading := StateT Reader (Except Refusal)

namespace Reading

variable {α : Type}

/-- Refuse a script. -/
def refuse (reason : String) : Reading α := do throw { line := (← get).line, reason }

/-- Refuse the last token. -/
def unexpected : Reading α := do refuse ((← get).token.name ++ " unexpected")

/-- Refuse the last token in place of another. -/
def expecting (t : Token) : Reading α := do
  refuse ((← get).token.name ++ " unexpected (expecting " ++ t.name ++ ")")

/-- Drop characters, counting lines. -/
def advance (n : Nat) : Reading Unit :=
  modify fun r => { r with rest := r.rest.drop n, line := r.line + (r.rest.take n).count '\n' }

/-- How many characters at the front of a text only join lines. -/
def joints : List Char → Nat
  | '\\' :: '\n' :: cs => joints cs + 2
  | _ => 0

/-- The next character, without taking it. -/
def peek : Reading (Option Char) := do
  let r ← get
  if r.closed then return none
  let n := joints r.rest
  if n > 0 then advance n
  return (← get).rest.head?

/-- The next character, which is taken. -/
def take : Reading (Option Char) := do
  let c ← peek
  if c.isSome then advance 1
  return c

/-- Take a character if it comes next. -/
def accept (c : Char) : Reading Bool := do
  if (← peek) == some c then
    advance 1
    return true
  else return false

/-- How often something is repeated at most while reading. Scripts are far shorter. -/
def repetitions : Nat := 1000000

/-- The characters of a kind that come next. -/
def takeWhile (p : Char → Bool) : (fuel : Nat) → Reading (List Char)
  | 0 => return []
  | fuel + 1 => do
    match ← peek with
    | some c =>
      if p c then
        advance 1
        return c :: (← takeWhile p fuel)
      else return []
    | none => return []

/-- Read another text, and go on with this one behind it. -/
def within (text : List Char) (x : Reading α) : Reading α := do
  let outer ← get
  set { outer with
    rest := text, line := 1, closed := false, awaited := [], active := [] }
  let a ← x
  modify fun inner => { outer with texts := inner.texts, count := inner.count, pushed := false }
  return a

end Reading

end Shell

end Scaffold
