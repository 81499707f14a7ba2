import Scaffold.Decimal.Binary64
import Scaffold.Machine.Number

/-!
# Floating point numbers in texts

Numbers with a binary mantissa of a fixed size, as programs read and write them. A `Floating.Grid`
says which numbers there are; `Floating.scan` reads the nearest one from the front of a text.
Writing is exact: the value is a ratio of natural numbers, rounded to the wanted digits with ties to
the even neighbour.
-/

namespace Scaffold

/-- A floating point number: a mantissa times a power of two, or none. -/
inductive Floating where
  | finite (negative : Bool) (mantissa : Nat) (exponent : Int)
  | infinite (negative : Bool)
  | nan (negative : Bool)
deriving DecidableEq, Repr, Inhabited

namespace Floating

/-- Which numbers there are: the bits of a mantissa, the least exponent of its last bit, and the
first power of two that is too large. -/
structure Grid where
  bits : Nat
  least : Int
  bound : Int
deriving DecidableEq, Repr, Inhabited

/-- Mantissas of 53 bits. -/
def Grid.double : Grid := { bits := 53, least := -1074, bound := 1024 }

/-- Mantissas of 64 bits. -/
def Grid.extended : Grid := { bits := 64, least := -16445, bound := 16384 }

/-- A number that was read, and whether it is out of the range of the grid. -/
structure Rounded where
  number : Floating
  outside : Bool := false
deriving Inhabited

/-- The nearest number to a ratio. -/
def ofRatio (g : Grid) (negative : Bool) (num den : Nat) : Rounded :=
  if num = 0 then { number := .finite negative 0 0 }
  else
    let wanted := (Nat.log2 num : Int) - Nat.log2 den - g.bits
    let rounded (q : Int) : Nat :=
      let (a, b) := Binary64.scaled num den q
      Binary64.roundDiv a b
    -- The estimate is at most one too low.
    let q := max g.least wanted
    let q := if rounded q ≥ Nat.pow 2 g.bits then q + 1 else q
    let q := if rounded q ≥ Nat.pow 2 g.bits then q + 1 else q
    let m := rounded q
    let (a, b) := Binary64.scaled num den q
    if m ≥ 1 && (Nat.log2 m : Int) + q ≥ g.bound then
      { number := .infinite negative, outside := true }
    else
      { number := .finite negative m q
        outside := m < Nat.pow 2 (g.bits - 1) && a % b != 0 }

/-- The nearest number to `m` times a power of ten. Powers far out of range are not computed. -/
def ofDecimal (g : Grid) (negative : Bool) (m : Nat) (e : Int) : Rounded :=
  let size := e + Binary64.digitCount m
  if m = 0 then { number := .finite negative 0 0 }
  else if size > 6000 then { number := .infinite negative, outside := true }
  else if size < -6000 then { number := .finite negative 0 0, outside := true }
  else if e ≥ 0 then ofRatio g negative (m * Nat.pow 10 e.toNat) 1
  else ofRatio g negative m (Nat.pow 10 (-e).toNat)

/-- The nearest number to `m` times a power of two. -/
def ofBinary (g : Grid) (negative : Bool) (m : Nat) (e : Int) : Rounded :=
  if m = 0 then { number := .finite negative 0 0 }
  else if e + Nat.log2 m > 20000 then { number := .infinite negative, outside := true }
  else if e + Nat.log2 m < -20000 then { number := .finite negative 0 0, outside := true }
  else if e ≥ 0 then ofRatio g negative (m * Nat.pow 2 e.toNat) 1
  else ofRatio g negative m (Nat.pow 2 (-e).toNat)

/-! ### Reading -/

/-- What was read from the front of a text. -/
structure Scanned where
  result : Rounded
  found : Bool
  rest : List Char
deriving Inhabited

/-- The digits around a point: their value, how many stand behind the point, whether there are any,
and what follows. -/
def pointed (base : Nat) (cs : List Char) : Nat × Nat × Bool × List Char :=
  let (whole, rest) := Integer.digits base 0 cs
  let hasWhole := Integer.startsDigit base cs
  match rest with
  | '.' :: behind =>
    if hasWhole || Integer.startsDigit base behind then
      let (all, after) := Integer.digits base whole behind
      (all, behind.length - after.length, true, after)
    else (whole, 0, false, cs)
  | _ => (whole, 0, hasWhole, rest)

/-- An exponent behind one of two letters, if there is one. -/
def exponentAfter (small large : Char) (cs : List Char) : Int × List Char :=
  match cs with
  | c :: rest =>
    if c == small || c == large then
      let (negative, ds) : Bool × List Char := match rest with
        | '-' :: ds => (true, ds)
        | '+' :: ds => (false, ds)
        | ds => (false, ds)
      if Integer.startsDigit 10 ds then
        let (n, after) := Integer.digits 10 0 ds
        (if negative then -(n : Int) else n, after)
      else (0, cs)
    else (0, cs)
  | [] => (0, cs)

/-- What follows a word at the front of a text, in any case of letters. -/
def word? (word : String) (cs : List Char) : Option (List Char) :=
  if (cs.take word.length).map Char.toLower = word.toList then some (cs.drop word.length) else none

/-- Read a number at the front of a text, behind blanks and a sign. -/
def scan (g : Grid) (cs : List Char) : Scanned :=
  let inner := cs.dropWhile Integer.isSpace
  let (negative, inner) : Bool × List Char := match inner with
    | '-' :: rest => (true, rest)
    | '+' :: rest => (false, rest)
    | rest => (false, rest)
  let special : Option (Floating × List Char) :=
    match word? "infinity" inner, word? "inf" inner, word? "nan" inner with
    | some rest, _, _ => some (.infinite negative, rest)
    | none, some rest, _ => some (.infinite negative, rest)
    | none, none, some rest =>
      let named := match rest with
        | '(' :: more =>
          let after := more.dropWhile fun c => c.isAlphanum || c == '_'
          if after.head? == some ')' then after.drop 1 else rest
        | _ => rest
      some (.nan negative, named)
    | none, none, none => none
  match special with
  | some (number, rest) => { result := { number }, found := true, rest }
  | none =>
    let hex : Option (Nat × Nat × List Char) := match inner with
      | '0' :: x :: rest =>
        let (m, behind, found, after) := pointed 16 rest
        if (x == 'x' || x == 'X') && found then some (m, behind, after) else none
      | _ => none
    match hex with
    | some (m, behind, after) =>
      let (e, rest) := exponentAfter 'p' 'P' after
      { result := ofBinary g negative m (e - 4 * behind), found := true, rest }
    | none =>
      let (m, behind, found, after) := pointed 10 inner
      if found then
        let (e, rest) := exponentAfter 'e' 'E' after
        { result := ofDecimal g negative m (e - behind), found := true, rest }
      else { result := { number := .finite false 0 0 }, found := false, rest := cs }

/-! ### Writing -/

/-- A mantissa and an exponent as a ratio. -/
def ratio (m : Nat) (e : Int) : Nat × Nat :=
  if e ≥ 0 then (m * Nat.pow 2 e.toNat, 1) else (m, Nat.pow 2 (-e).toNat)

/-- Digits with a point before the last `places` ones; `always` keeps a point with none behind. -/
def withPoint (places : Nat) (always : Bool) (digits : String) : String :=
  let cs := digits.toList
  let cs := List.replicate (places + 1 - cs.length) '0' ++ cs
  let whole := cs.take (cs.length - places)
  let behind := cs.drop (cs.length - places)
  String.ofList (if behind.isEmpty && !always then whole else whole ++ '.' :: behind)

/-- Positional notation with so many places. -/
def positional (m : Nat) (e : Int) (places : Nat) (always : Bool) : String :=
  let (num, den) := ratio m e
  withPoint places always (Integer.textIn 10 (Binary64.roundDiv (num * Nat.pow 10 places) den))

/-- A ratio divided by a power of ten and rounded. -/
def overTen (num den : Nat) (k : Int) : Nat :=
  if k ≥ 0 then Binary64.roundDiv num (den * Nat.pow 10 k.toNat)
  else Binary64.roundDiv (num * Nat.pow 10 (-k).toNat) den

/-- The power of ten at or below a ratio that is not zero. -/
def magnitude (num den : Nat) : Int :=
  let guess := (Binary64.digitCount num : Int) - Binary64.digitCount den
  let reaches (k : Int) : Bool :=
    if k ≥ 0 then num ≥ den * Nat.pow 10 k.toNat else num * Nat.pow 10 (-k).toNat ≥ den
  if reaches guess then guess else guess - 1

/-- The digits and the decimal exponent for scientific notation with so many places. -/
def scientificDigits (m : Nat) (e : Int) (places : Nat) : String × Int :=
  if m = 0 then (String.ofList (List.replicate (places + 1) '0'), 0)
  else
    let (num, den) := ratio m e
    let k := magnitude num den
    let n := overTen num den (k - places)
    if n ≥ Nat.pow 10 (places + 1) then (Integer.textIn 10 (n / 10), k + 1)
    else (Integer.textIn 10 n, k)

/-- An exponent with its sign and at least two digits. -/
def exponentText (least : Nat) (k : Int) : String :=
  (if k < 0 then "-" else "+") ++ Integer.padded 10 least k.natAbs

/-- Scientific notation with so many places. -/
def scientific (m : Nat) (e : Int) (places : Nat) (always : Bool) : String :=
  let (digits, k) := scientificDigits m e places
  withPoint places always digits ++ "e" ++ exponentText 2 k

/-- Drop the zeros at the end of what stands behind a point, and a point that is last. -/
def withoutZeros (s : String) : String :=
  if Text.contains '.' s then
    let cs := s.toList.reverse.dropWhile (· == '0')
    String.ofList (if cs.head? == some '.' then cs.drop 1 else cs).reverse
  else s

/-- The shorter of both notations with so many digits. -/
def general (m : Nat) (e : Int) (digits : Nat) (always : Bool) : String :=
  let digits := max digits 1
  let (ds, k) := scientificDigits m e (digits - 1)
  if k < -4 || k ≥ digits then
    let front := withPoint (digits - 1) always ds
    (if always then front else withoutZeros front) ++ "e" ++ exponentText 2 k
  else
    let s := positional m e (digits - 1 - k).toNat always
    if always then s else withoutZeros s

/-- Hexadecimal notation. The digit in front of the point has the highest `lead` bits of the
mantissa. -/
def hexadecimal (g : Grid) (lead : Nat) (m : Nat) (e : Int) (places : Option Nat) (always : Bool) :
    String :=
  let count := (g.bits - lead + 3) / 4
  let shift := 4 * count + lead - g.bits
  -- The mantissa moved so that a number of full length has its highest bit in front.
  let full := if m = 0 then 0 else Nat.log2 m + 1
  let up := min (g.bits - full) (e - g.least).toNat
  let m' := if m = 0 then 0 else m * Nat.pow 2 up * Nat.pow 2 shift
  let exponent : Int := if m = 0 then 0 else e - up - shift + 4 * count
  let (digits, kept) : Nat × Nat := match places with
    | some p =>
      if p < count then (Binary64.roundDiv m' (Nat.pow 16 (count - p)), p)
      else (m' * Nat.pow 16 (p - count), p)
    | none => (m', count)
  let text := withPoint kept always (Integer.padded 16 (kept + 1) digits)
  let text := if places.isNone then withoutZeros text else text
  let text := if always && !Text.contains '.' text then text ++ "." else text
  "0x" ++ text ++ "p" ++ exponentText 1 exponent

/-- How a number is written. -/
inductive Style where
  | positional
  | scientific
  | general
  | hexadecimal
deriving DecidableEq, Repr, Inhabited

/-- A number without its sign. `lead` is how many bits stand in front of a hexadecimal point. -/
def body (g : Grid) (lead : Nat) (how : Style) (precision : Option Nat) (always : Bool) :
    Floating → String
  | .infinite _ => "inf"
  | .nan _ => "nan"
  | .finite _ m e =>
    match how with
    | .positional => positional m e (precision.getD 6) always
    | .scientific => scientific m e (precision.getD 6) always
    | .general => general m e (precision.getD 6) always
    | .hexadecimal => hexadecimal g lead m e precision always

/-- Whether a number has a minus sign. -/
def isNegative : Floating → Bool
  | .finite n _ _ => n
  | .infinite n => n
  | .nan n => n

/-- Whether a number is finite. -/
def isFinite : Floating → Bool
  | .finite _ _ _ => true
  | _ => false

end Floating

end Scaffold
