import Scaffold.Text.Basic

/-!
# Double precision numbers

A `Binary64` is the 64-bit pattern of a double precision number. All arithmetic here is exact
arithmetic on natural numbers, so each definition can be evaluated and reasoned about.

* `Binary64.ofDecimal` rounds `± m · 10^e` to the nearest double, a tie to the even one.
* `Binary64.shortest` gives the fewest decimal digits that read back as the same double.
* `Binary64.read?` reads a decimal text, `Binary64.text` writes one.
-/

namespace Scaffold

/-- A double precision number, by its bit pattern. -/
structure Binary64 where
  bits : UInt64
deriving DecidableEq, Repr, Inhabited

namespace Binary64

/-- A power of two. -/
def pow2 (n : Nat) : Nat := Nat.pow 2 n

/-- A power of ten. -/
def pow10 (n : Nat) : Nat := Nat.pow 10 n

/-! ### Parts of a pattern -/

/-- The sign bit. -/
def negative (x : Binary64) : Bool := x.bits.toNat ≥ pow2 63

/-- The eleven exponent bits. -/
def exponentField (x : Binary64) : Nat := x.bits.toNat / pow2 52 % pow2 11

/-- The fifty-two fraction bits. -/
def fraction (x : Binary64) : Nat := x.bits.toNat % pow2 52

/-- A pattern from its parts. -/
def ofParts (neg : Bool) (exponentField fraction : Nat) : Binary64 :=
  ⟨UInt64.ofNat ((if neg then pow2 63 else 0) + exponentField * pow2 52 + fraction)⟩

/-- Infinity of a sign. -/
def infinity (neg : Bool) : Binary64 := ofParts neg 2047 0

/-- The one not-a-number pattern in use. -/
def nan : Binary64 := ofParts false 2047 (pow2 51)

def isNaN (x : Binary64) : Bool := x.exponentField == 2047 && x.fraction != 0

def isInfinite (x : Binary64) : Bool := x.exponentField == 2047 && x.fraction == 0

/-- Both zeros, whatever their sign. -/
def isZero (x : Binary64) : Bool := x.exponentField == 0 && x.fraction == 0

/-- A finite number as `m · 2^q`, sign aside. -/
def significand (x : Binary64) : Nat × Int :=
  if x.exponentField == 0 then (x.fraction, -1074)
  else (pow2 52 + x.fraction, (x.exponentField : Int) - 1075)

/-! ### Rounding -/

/-- `num / den` rounded to the nearest natural number, a tie to the even one. -/
def roundDiv (num den : Nat) : Nat :=
  let n := num / den
  let r := num % den
  if 2 * r < den then n else if 2 * r > den then n + 1 else n + n % 2

/-- `num / den` over `2^q`, as a quotient of natural numbers. -/
def scaled (num den : Nat) (q : Int) : Nat × Nat :=
  if q ≥ 0 then (num, den * pow2 q.toNat) else (num * pow2 (-q).toNat, den)

/-- The double nearest to `num / den`, for positive `num` and `den`. -/
def ofRatio (neg : Bool) (num den : Nat) : Binary64 :=
  let guess : Int := max ((num.log2 : Int) - den.log2 - 53) (-1074)
  let q : Int :=
    let (a, b) := scaled num den guess
    if a / b ≥ pow2 53 then guess + 1 else guess
  let (a, b) := scaled num den q
  let m := roundDiv a b
  let (m, q) := if m = pow2 53 then (pow2 52, q + 1) else (m, q)
  if m < pow2 52 then ofParts neg 0 m
  else if q + 1075 ≥ 2047 then infinity neg
  else ofParts neg (q + 1075).toNat (m - pow2 52)

/-- The number of decimal digits of a positive number. -/
def digitCount (n : Nat) : Nat := (Nat.toDigits 10 n).length

/-- The double nearest to `± m · 10^e`. -/
def ofDecimal (neg : Bool) (m : Nat) (e : Int) : Binary64 :=
  if m = 0 then ofParts neg 0 0
  else if e + digitCount m > 310 then infinity neg
  else if e + digitCount m < -330 then ofParts neg 0 0
  else if e ≥ 0 then ofRatio neg (m * pow10 e.toNat) 1
  else ofRatio neg m (pow10 (-e).toNat)

/-! ### Fewest digits -/

/-- The least `k` with `num / den < 10^k`, searched from `k` upwards. -/
def magnitudeFrom (num den : Nat) : Nat → Int → Int
  | 0, k => k
  | fuel + 1, k =>
    let below := if k ≥ 0 then num < den * pow10 k.toNat else num * pow10 (-k).toNat < den
    if below then k else magnitudeFrom num den fuel (k + 1)

/-- Digits on the decimal grid of `n` digits that lie in the interval of reals rounding to
`m · 2^q`, the nearer of two. -/
def onGrid (m : Nat) (q : Int) (k : Int) (n : Nat) : Option (Nat × Int) :=
  let step : Int := k - n
  -- everything in quarters of the unit `2^q`, over a common denominator
  let (two, den) := if q ≥ 2 then (pow2 (q - 2).toNat, 1) else (1, pow2 (2 - q).toNat)
  let (stepNum, stepDen) := if step ≥ 0 then (pow10 step.toNat, 1) else (1, pow10 (-step).toNat)
  let unit := two * stepDen
  let grid := stepNum * den
  let value := 4 * m * unit
  let lowGap := if m = pow2 52 ∧ q > -1074 then 1 else 2
  let low := (4 * m - lowGap) * unit
  let high := (4 * m + 2) * unit
  let inside (d : Nat) : Bool :=
    if m % 2 = 0 then low ≤ d * grid && d * grid ≤ high else low < d * grid && d * grid < high
  let d := value / grid
  let below := inside d && d > 0
  let above := inside (d + 1)
  let rest := value % grid
  if below && (!above || 2 * rest < grid || (2 * rest = grid && d % 2 = 0)) then some (d, step)
  else if above then some (d + 1, step)
  else none

/-- Drop trailing zeros of `d · 10^e`. -/
def dropZeros : Nat → Nat → Int → Nat × Int
  | 0, d, e => (d, e)
  | fuel + 1, d, e => if d ≠ 0 ∧ d % 10 = 0 then dropZeros fuel (d / 10) (e + 1) else (d, e)

/-- The fewest digits `d` and the exponent `e` with `d · 10^e` reading back as `m · 2^q`. -/
def shortest (m : Nat) (q : Int) : Nat × Int :=
  let (num, den) := if q ≥ 0 then (m * pow2 q.toNat, 1) else (m, pow2 (-q).toNat)
  let k := magnitudeFrom num den 700 (-330)
  match (List.range 17).findSome? fun i => onGrid m q k (i + 1) with
  | some (d, e) => dropZeros 17 d e
  | none => (0, 0)

/-! ### Text -/

/-- A positive decimal `digits · 10^exponent`: positional for a decimal exponent from -5 to 15, with
a fraction in every case, and scientific elsewhere. -/
def positive (digits : Nat) (exponent : Int) : String :=
  let ds := Nat.toDigits 10 digits
  let point : Int := ds.length + exponent
  if 0 ≤ exponent ∧ point ≤ 16 then
    String.ofList (ds ++ List.replicate exponent.toNat '0' ++ ['.', '0'])
  else if 0 < point ∧ point ≤ 16 then
    String.ofList (ds.take point.toNat ++ ['.'] ++ ds.drop point.toNat)
  else if -5 < point ∧ point ≤ 0 then
    String.ofList (['0', '.'] ++ List.replicate (-point).toNat '0' ++ ds)
  else
    let mantissa := match ds with
      | [d] => [d]
      | d :: rest => d :: '.' :: rest
      | [] => []
    String.ofList (mantissa ++ ['e']) ++ toString (point - 1)

/-- The text of a number: the fewest digits that read back, `.inf` and `.nan` for the rest. -/
def text (x : Binary64) : String :=
  if x.isNaN then ".nan"
  else
    let sign := if x.negative then "-" else ""
    if x.isInfinite then sign ++ ".inf"
    else if x.isZero then sign ++ "0.0"
    else
      let (m, q) := x.significand
      let (d, e) := shortest m q
      sign ++ positive d e

/-- A run of digits as a number. -/
def digitsValue (cs : List Char) : Nat :=
  cs.foldl (fun n c => n * 10 + (c.toNat - 48)) 0

/-- An optional exponent part, `some 0` when there is none. -/
def readExponent? (cs : List Char) : Option Int :=
  match cs with
  | [] => some 0
  | e :: rest =>
    if e = 'e' ∨ e = 'E' then
      let (neg, ds) := match rest with
        | '-' :: ds => (true, ds)
        | '+' :: ds => (false, ds)
        | ds => (false, ds)
      if ds.isEmpty || !ds.all Char.isDigit then none
      else
        let n : Int := digitsValue ds
        some (if neg then -n else n)
    else none

/-- Read an unsigned decimal: digits with an optional point, at least one digit, and an optional
exponent. -/
def readUnsigned? (neg : Bool) (cs : List Char) : Option Binary64 :=
  let whole := cs.takeWhile Char.isDigit
  let rest := cs.dropWhile Char.isDigit
  let (frac, rest) := match rest with
    | '.' :: r => (r.takeWhile Char.isDigit, r.dropWhile Char.isDigit)
    | r => ([], r)
  if whole.isEmpty && frac.isEmpty then none
  else (readExponent? rest).map fun e =>
    ofDecimal neg (digitsValue (whole ++ frac)) (e - frac.length)

/-- Read a finite decimal with an optional sign. -/
def readDecimal? (cs : List Char) : Option Binary64 :=
  let x := match cs with
    | '-' :: r => readUnsigned? true r
    | '+' :: r => readUnsigned? false r
    | r => readUnsigned? false r
  x.bind fun x => if x.isInfinite then none else some x

/-- Read the text of a number as `text` writes it. -/
def read? (s : String) : Option Binary64 :=
  if s == ".nan" then some nan
  else if s == ".inf" then some (infinity false)
  else if s == "-.inf" then some (infinity true)
  else readDecimal? s.toList

end Binary64

end Scaffold
