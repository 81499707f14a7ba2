import Scaffold.Text.Basic

/-!
# Shell scripts

The constructs of the command language: words made of parts that are expanded, redirections and
commands. All texts are texts of bytes.
-/

namespace Scaffold

namespace Shell

/-- What is done with the value of a parameter. -/
inductive Treatment where
  /-- The value itself. -/
  | value
  /-- Its length. -/
  | length
  /-- Another word where the value is missing; `orEmpty` counts an empty value as missing. -/
  | fallback (orEmpty : Bool)
  /-- Another word where the value is missing, which is also assigned. -/
  | assigned (orEmpty : Bool)
  /-- A failure where the value is missing. -/
  | demanded (orEmpty : Bool)
  /-- Another word where the value is there. -/
  | replaced (orEmpty : Bool)
  /-- Without a pattern at its end, the longest one or the shortest. -/
  | withoutEnd (longest : Bool)
  /-- Without a pattern at its start, the longest one or the shortest. -/
  | withoutStart (longest : Bool)
  /-- Something that makes no sense, which is noticed when it is expanded. -/
  | malformed
deriving DecidableEq, Repr, Inhabited

/-- Whether a treatment compares with a pattern. -/
def Treatment.hasPattern : Treatment → Bool
  | .withoutEnd _ => true
  | .withoutStart _ => true
  | _ => false

/-- How a file is opened for a channel. -/
inductive Mode where
  | read
  | readWrite
  /-- Write a file anew, unless that is forbidden for files that are there. -/
  | write
  /-- Write a file anew in any case. -/
  | clobber
  | append
deriving DecidableEq, Repr, Inhabited

mutual

/-- A part of a word. `quoted` parts are neither split nor matched with file names. -/
inductive Part where
  | literal (quoted : Bool) (text : String)
  /-- A quotation mark, which keeps a field alive that is empty otherwise. -/
  | mark
  | parameter (quoted : Bool) (name : String) (how : Treatment) (other : List Part)
  /-- The output of commands. -/
  | output (quoted : Bool) (script : Option Command)
  | arithmetic (quoted : Bool) (expression : List Part)

/-- A connection of a channel. -/
inductive Redirect where
  | file (channel : Nat) (mode : Mode) (target : List Part)
  /-- The channel of a number that a word gives, or none for a dash. -/
  | copy (channel : Nat) (target : List Part)
  /-- The text that follows in the script. -/
  | here (channel : Nat) (id : Nat)

/-- A command. -/
inductive Command where
  | simple (line : Nat) (assignments : List (String × List Part)) (words : List (List Part))
      (redirects : List Redirect)
  | pipeline (background : Bool) (commands : List Command)
  | negation (body : Command)
  | both (first second : Command)
  | either (first second : Command)
  | sequence (first second : Command)
  | redirected (line : Nat) (body : Command) (redirects : List Redirect)
  | subshell (line : Nat) (body : Command) (redirects : List Redirect)
  | background (body : Command) (redirects : List Redirect)
  | branch (condition body : Command) (other : Option Command)
  | loop (positive : Bool) (condition body : Command)
  | iterate (line : Nat) (name : String) (words : List (List Part)) (body : Command)
  | choose (line : Nat) (subject : List Part)
      (cases : List (List (List Part) × Option Command))
  | define (name : String) (body : Command)

end

/-- A word. -/
abbrev Word := List Part

instance : Inhabited Command := ⟨.simple 1 [] [] []⟩

instance : Inhabited Redirect := ⟨.here 0 0⟩

/-- A text that follows a command: what it is expanded from. -/
structure HereText where
  quoted : Bool
  body : Word
deriving Inhabited

/-! ### Names -/

/-- Whether a character can start a name. -/
def isNameStart (c : Char) : Bool := c.isAlpha || c == '_'

/-- Whether a character can be in a name. -/
def isNameChar (c : Char) : Bool := c.isAlphanum || c == '_'

/-- Whether a text is a name. -/
def isName (s : String) : Bool :=
  match s.toList with
  | [] => false
  | c :: cs => isNameStart c && cs.all isNameChar

/-- Split a text of the form `name=value`. -/
def splitAssignment? (s : String) : Option (String × String) :=
  let cs := s.toList
  let name := String.ofList (cs.takeWhile isNameChar)
  match cs.drop name.length with
  | '=' :: value => if isName name then some (name, String.ofList value) else none
  | _ => none

/-- Split a word that is an assignment into the name and the word of the value. -/
def assignment? : Word → Option (String × Word)
  | .literal false text :: rest =>
    (splitAssignment? text).map fun (name, value) =>
      (name, if value.isEmpty then rest else .literal false value :: rest)
  | _ => none

/-- The text of a word that is written plainly. -/
def plainWord? : Word → Option String
  | [] => some ""
  | [.literal false text] => some text
  | _ => none

end Shell

end Scaffold
