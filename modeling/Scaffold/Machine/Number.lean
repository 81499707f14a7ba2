import Scaffold.Text.Basic

/-!
# Integers in texts

Programs read an integer from the front of a text and look at what is left. `Integer.scan` reads one
in a base; base zero lets the text choose between decimal, octal (a leading zero) and hexadecimal
(a leading `0x`). Machine integers have 64 bits: `Integer.wrap` keeps the low ones, and
`Integer.clamp` stops at the ends of the range and says so.
-/

namespace Scaffold

namespace Integer

/-- Characters that are skipped in front of a number. -/
def isSpace (c : Char) : Bool := c == ' ' || ('\t' ≤ c && c ≤ '\r')

/-- The value of a digit in a base. -/
def digit? (base : Nat) (c : Char) : Option Nat :=
  let value :=
    if c.isDigit then c.toNat - '0'.toNat
    else if c.isAlpha then c.toLower.toNat - 'a'.toNat + 10
    else base
  if value < base then some value else none

/-- The digits at the front of a text: their value and what follows. -/
def digits (base : Nat) : (value : Nat) → List Char → Nat × List Char
  | value, [] => (value, [])
  | value, c :: cs =>
    match digit? base c with
    | some d => digits base (value * base + d) cs
    | none => (value, c :: cs)

/-- Whether a text starts with a digit. -/
def startsDigit (base : Nat) (cs : List Char) : Bool := (cs.head?.bind (digit? base)).isSome

/-- What was read: the number, whether there was one, and what follows it. -/
structure Scanned where
  value : Int := 0
  found : Bool := false
  rest : List Char
deriving Inhabited

/-- The base that a text chooses, and its digits. -/
def baseOf (base : Nat) (cs : List Char) : Nat × List Char :=
  let hex : Option (List Char) := match cs with
    | '0' :: x :: rest =>
      if (x == 'x' || x == 'X') && startsDigit 16 rest then some rest else none
    | _ => none
  match base, hex with
  | 0, some rest => (16, rest)
  | 16, some rest => (16, rest)
  | 0, none => (if cs.head? == some '0' then 8 else 10, cs)
  | base, _ => (base, cs)

/-- Read a number at the front of a text, behind blanks and a sign. Where there is none, all of the
text is left. -/
def scan (base : Nat) (cs : List Char) : Scanned :=
  let inner := cs.dropWhile isSpace
  let (negative, inner) : Bool × List Char := match inner with
    | '-' :: rest => (true, rest)
    | '+' :: rest => (false, rest)
    | rest => (false, rest)
  let (base, inner) := baseOf base inner
  if startsDigit base inner then
    let (n, rest) := digits base 0 inner
    { value := if negative then -(n : Int) else n, found := true, rest }
  else { rest := cs }

/-- One more than the largest word. -/
def wordCount : Int := 18446744073709551616

/-- The largest signed word. -/
def largest : Int := 9223372036854775807

/-- The smallest signed word. -/
def smallest : Int := -9223372036854775808

/-- The signed word with the same low bits. -/
def wrap (n : Int) : Int := Int.bmod n 18446744073709551616

/-- The unsigned word with the same low bits. -/
def unsigned (n : Int) : Nat := (n % wordCount).toNat

/-- The nearest signed word, and whether it is another number. -/
def clamp (n : Int) : Int × Bool :=
  if n > largest then (largest, true) else if n < smallest then (smallest, true) else (n, false)

/-- The nearest unsigned word, and whether it is another number; a small negative number wraps. -/
def clampUnsigned (n : Int) : Nat × Bool :=
  if n ≥ wordCount || n ≤ -wordCount then ((wordCount - 1).toNat, true) else (unsigned n, false)

theorem smallest_le_wrap (n : Int) : smallest ≤ wrap n := by
  have := Int.le_bmod (x := n) (m := 18446744073709551616) (by decide)
  simpa [wrap, smallest] using this

theorem wrap_le_largest (n : Int) : wrap n ≤ largest := by
  have := Int.bmod_lt (x := n) (m := 18446744073709551616) (by decide)
  simp only [wrap, largest]
  omega

/-- A whole text as a decimal number with a sign, without blanks. -/
def decimal? (s : String) : Option Int :=
  let r := scan 10 s.toList
  if r.found && r.rest.isEmpty && !(s.toList.head?.any isSpace) then some r.value else none

/-- A whole text of digits as a number. -/
def natural? (s : String) : Option Nat :=
  if s.isEmpty || !s.toList.all Char.isDigit then none else some (digits 10 0 s.toList).1

/-- The text of a natural number in a base up to sixteen. -/
def textIn (base n : Nat) : String := String.ofList (Nat.toDigits base n)

/-- The text of a natural number with leading zeros up to a width. -/
def padded (base width n : Nat) : String :=
  let s := textIn base n
  String.ofList (List.replicate (width - s.length) '0') ++ s

end Integer

end Scaffold
