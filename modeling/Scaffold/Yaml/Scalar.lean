import Scaffold.Value

/-!
# Plain scalars

Which value a plain scalar stands for. `Plain.resolve` tries null, booleans, integers in four bases
and decimals, in this order; everything else is text. An integer beyond 64 bits that fits in 128
stands for no value at all.
-/

namespace Scaffold.Yaml

/-- What a plain scalar stands for. -/
inductive Plain where
  | null
  | bool (b : Bool)
  | int (n : Int)
  | wide
  | float (x : Binary64)
  | text
deriving DecidableEq, Repr, Inhabited

namespace Plain

/-- Spellings of null, the empty one aside. -/
def isNull (s : String) : Bool := ["null", "Null", "NULL", "~"].contains s

/-- Spellings of the booleans. -/
def bool? (s : String) : Option Bool :=
  if ["true", "True", "TRUE"].contains s then some true
  else if ["false", "False", "FALSE"].contains s then some false
  else none

/-- Value of a digit in a base of up to sixteen. -/
def digit? (base : Nat) (c : Char) : Option Nat :=
  let n :=
    if c.isDigit then c.toNat - 48
    else if 'a' ≤ c ∧ c ≤ 'f' then c.toNat - 87
    else if 'A' ≤ c ∧ c ≤ 'F' then c.toNat - 55
    else 16
  if n < base then some n else none

/-- A run of digits, at least one. -/
def digits? (base : Nat) (cs : List Char) : Option Nat :=
  if cs.isEmpty then none
  else cs.foldl (fun acc c => acc.bind fun n => (digit? base c).map (n * base + ·)) (some 0)

/-- The text after a sign, if there is one. -/
def unsigned : List Char → List Char
  | '-' :: rest | '+' :: rest => rest
  | cs => cs

/-- A zero followed by more digits is text, not a number. -/
def isPadded (cs : List Char) : Bool :=
  match unsigned cs with
  | '0' :: c :: rest => (c :: rest).all Char.isDigit
  | _ => false

/-- Whether a text starts with a sign. -/
def hasSign : List Char → Bool
  | '-' :: _ | '+' :: _ => true
  | _ => false

/-- The bases an integer can be written in, with the mark in front of the digits. -/
def bases : List (List Char × Nat) := [("0x".toList, 16), ("0o".toList, 8), ("0b".toList, 2)]

/-- A natural number below `limit`, with an optional plus sign. -/
def natural? (limit : Nat) (cs : List Char) : Option Nat :=
  let body := (Chars.stripPrefix? ['+'] cs).getD cs
  let marked := bases.findSome? fun (mark, base) =>
    (Chars.stripPrefix? mark body).map fun rest => (rest, base)
  let fits (n : Option Nat) : Option Nat := n.filter (· < limit)
  match marked with
  | some (rest, base) => if hasSign rest then none else fits (digits? base rest)
  | none => if hasSign body || isPadded cs then none else fits (digits? 10 body)

/-- A negative number not below `-limit`. -/
def negative? (limit : Nat) (cs : List Char) : Option Int :=
  (Chars.stripPrefix? ['-'] cs).bind fun body =>
    let marked := bases.findSome? fun (mark, base) =>
      (Chars.stripPrefix? mark body).map fun rest => (rest, base)
    let n := match marked with
      | some (rest, base) => digits? base rest
      | none => if isPadded cs then none else digits? 10 body
    (n.filter (· ≤ limit)).map fun n => -(n : Int)

/-- A decimal, or one of the spellings of infinity and not-a-number. -/
def float? (cs : List Char) : Option Binary64 :=
  match Chars.stripPrefix? ['+'] cs with
  | some rest =>
    if hasSign rest then none
    else if [".inf", ".Inf", ".INF"].contains (String.ofList rest) then some (.infinity false)
    else Binary64.readDecimal? rest
  | none =>
    let s := String.ofList cs
    if [".inf", ".Inf", ".INF"].contains s then some (.infinity false)
    else if ["-.inf", "-.Inf", "-.INF"].contains s then some (.infinity true)
    else if [".nan", ".NaN", ".NAN"].contains s then some .nan
    else Binary64.readDecimal? cs

/-- An integer of 64 bits, or a mark that the integer needs 128. -/
def int? (cs : List Char) : Option Plain :=
  match natural? (Nat.pow 2 64) cs, negative? (Nat.pow 2 63) cs with
  | some n, _ => some (.int n)
  | none, some n => some (.int n)
  | none, none =>
    if (natural? (Nat.pow 2 128) cs).isSome || (negative? (Nat.pow 2 127) cs).isSome then some .wide
    else none

/-- What a plain scalar stands for. -/
def resolve (s : String) : Plain :=
  if s.isEmpty || isNull s then .null
  else match bool? s with
    | some b => .bool b
    | none =>
      let cs := s.toList
      match int? cs with
      | some p => p
      | none =>
        if isPadded cs then .text
        else match float? cs with
          | some x => .float x
          | none => .text

/-- The value of a resolved scalar with text `s`. -/
def value? (s : String) : Plain → Option Value
  | .null => some .null
  | .bool b => some (.bool b)
  | .int n => some (.int n)
  | .wide => none
  | .float x => some (.float x)
  | .text => some (.text s)

end Plain

end Scaffold.Yaml
