import Scaffold.Machine.Floating
import Scaffold.Machine.Octets

/-!
# Escapes and formats

The backslash escapes of `echo` and `printf`, and the conversions of `printf`, on texts of bytes.
The command of the shell and the program of that name have rules of their own; both share
`Format.Spec`, which writes one value.
-/

namespace Scaffold

namespace Format

/-! ### Escapes -/

/-- Up to `n` octal digits and what follows them. -/
def readOctal : (n : Nat) → (value : Nat) → List Char → Nat × List Char
  | 0, value, cs => (value, cs)
  | _ + 1, value, [] => (value, [])
  | n + 1, value, c :: cs =>
    match Integer.digit? 8 c with
    | some d => readOctal n (value * 8 + d) cs
    | none => (value, c :: cs)

/-- The byte of a code, without what is too high. -/
def byte (n : Nat) : Char := Char.ofNat (n % 256)

/-- The byte a letter behind a backslash stands for. -/
def letter? (c : Char) : Option Char :=
  match c with
  | '\\' => some '\\'
  | 'a' => some '\x07'
  | 'b' => some '\x08'
  | 'e' => some '\x1b'
  | 'f' => some '\x0c'
  | 'n' => some '\n'
  | 'r' => some '\r'
  | 't' => some '\t'
  | 'v' => some '\x0b'
  | _ => none

/-- An escape behind its backslash: its byte and what follows. What is no escape is the backslash
itself. -/
def escape (cs : List Char) : Char × List Char :=
  match cs with
  | [] => ('\\', [])
  | c :: rest =>
    match letter? c with
    | some b => (b, rest)
    | none =>
      if Integer.startsDigit 8 cs then
        let (value, rest) := readOctal 3 0 cs
        (byte value, rest)
      else ('\\', cs)

/-- A text with its escapes replaced, and whether it asks for no more output. An octal escape has a
zero in front of its digits, or none. -/
def unescape : (fuel : Nat) → List Char → List Char × Bool
  | 0, _ => ([], false)
  | _ + 1, [] => ([], false)
  | _ + 1, '\\' :: 'c' :: _ => ([], true)
  | fuel + 1, '\\' :: '0' :: rest =>
    let (value, after) := readOctal 3 0 rest
    let (cs, stop) := unescape fuel after
    (byte value :: cs, stop)
  | fuel + 1, '\\' :: rest =>
    let (b, after) := escape rest
    let (cs, stop) := unescape fuel after
    (b :: cs, stop)
  | fuel + 1, c :: rest =>
    let (cs, stop) := unescape fuel rest
    (c :: cs, stop)

/-- A text with its escapes replaced. -/
def unescaped (s : String) : String × Bool :=
  let (cs, stop) := unescape (s.length + 1) s.toList
  (String.ofList cs, stop)

/-! ### One value -/

/-- How a value is written: flags, width and precision. -/
structure Spec where
  left : Bool := false
  zero : Bool := false
  plus : Bool := false
  space : Bool := false
  alternate : Bool := false
  width : Nat := 0
  precision : Option Nat := none
deriving Inhabited

namespace Spec

/-- Fill with blanks up to the width. -/
def pad (s : Spec) (text : String) : String :=
  let fill := Text.repeated (s.width - text.length) " "
  if s.left then text ++ fill else fill ++ text

/-- A width that an argument gives; a negative one means the left side. -/
def withWidth (s : Spec) (n : Int) : Spec :=
  if n < 0 then { s with left := true, width := n.natAbs } else { s with width := n.natAbs }

/-- A precision that an argument gives; a negative one means none. -/
def withPrecision (s : Spec) (n : Int) : Spec :=
  { s with precision := if n < 0 then none else some n.toNat }

/-- The largest width and precision. -/
def limit : Nat := 2147483647

/-- Whether nothing as wide can be written. -/
def isTooWide (s : Spec) : Bool := s.width ≥ limit || s.precision.any (· > limit)

/-- The sign in front of a number. -/
def sign (s : Spec) (negative : Bool) : String :=
  if negative then "-" else if s.plus then "+" else if s.space then " " else ""

/-- A number behind a sign or a mark of its base, filled with zeros where that is asked for. -/
def number (s : Spec) (front digits : String) (zeros : Bool) : String :=
  let missing := s.width - front.length - digits.length
  if zeros && s.zero && !s.left then front ++ Text.repeated missing "0" ++ digits
  else s.pad (front ++ digits)

/-- The digits of an integer, at least as many as the precision asks for. -/
def digits (s : Spec) (base n : Nat) : String :=
  match s.precision with
  | none => Integer.textIn base n
  | some p => if n = 0 && p = 0 then "" else Integer.padded base p n

/-- A signed integer. -/
def signed (s : Spec) (n : Int) : String :=
  s.number (s.sign (n < 0)) (s.digits 10 n.natAbs) s.precision.isNone

/-- An unsigned integer in the base of a letter. -/
def unsigned (s : Spec) (letter : Char) (n : Nat) : String :=
  match letter with
  | 'o' =>
    let ds := s.digits 8 n
    let ds := if s.alternate && !Text.startsWith "0" ds then "0" ++ ds else ds
    s.number "" ds s.precision.isNone
  | 'x' =>
    s.number (if s.alternate && n != 0 then "0x" else "") (s.digits 16 n) s.precision.isNone
  | 'X' =>
    s.number (if s.alternate && n != 0 then "0X" else "") (s.digits 16 n).toUpper s.precision.isNone
  | _ => s.number "" (s.digits 10 n) s.precision.isNone

/-- A floating point number in the notation of a letter. -/
def floating (s : Spec) (g : Floating.Grid) (lead : Nat) (letter : Char) (x : Floating) : String :=
  let style : Floating.Style := match letter.toLower with
    | 'f' => .positional
    | 'e' => .scientific
    | 'g' => .general
    | _ => .hexadecimal
  let text := x.body g lead style s.precision s.alternate
  let front := s.sign x.isNegative
  let (front, text) := match Text.stripPrefix? "0x" text with
    | some rest => if style = .hexadecimal then (front ++ "0x", rest) else (front, text)
    | none => (front, text)
  let written := s.number front text x.isFinite
  if letter.isUpper then written.toUpper else written

/-- A text, cut to the precision. -/
def text (s : Spec) (t : String) : String :=
  s.pad (match s.precision with
    | some p => String.ofList (t.toList.take p)
    | none => t)

/-- One character; the precision does not matter. -/
def char (s : Spec) (c : Char) : String := s.pad (String.singleton c)

end Spec

/-- Read flags. -/
def readFlags : List Char → Spec → Spec × List Char
  | '-' :: cs, s => readFlags cs { s with left := true }
  | '0' :: cs, s => readFlags cs { s with zero := true }
  | '+' :: cs, s => readFlags cs { s with plus := true }
  | ' ' :: cs, s => readFlags cs { s with space := true }
  | '#' :: cs, s => readFlags cs { s with alternate := true }
  | cs, s => (s, cs)

/-- The letters that write floating point numbers. -/
def isFloating (c : Char) : Bool := "aAeEfFgG".toList.contains c

/-! ### The command of the shell -/

/-- What a format left: its output, complaints about arguments, the arguments it did not use, and
the mistake that ended it, or that it asks for no more output. -/
structure Printed where
  output : String := ""
  complaints : List String := []
  rest : List String := []
  stopped : Bool := false
  mistake : Option String := none
deriving Inhabited

/-- What is wrong with an argument that was read as a number up to some rest. -/
def complaint (arg : String) (rest : List Char) (outside : Bool) : List String :=
  if !rest.isEmpty then
    if rest.length = arg.length then [arg ++ ": expected numeric value"]
    else [arg ++ ": not completely converted"]
  else if outside then [arg ++ ": Numerical result out of range"]
  else []

/-- The code of the character behind a quote. -/
def quotedCode? (arg : String) : Option Nat :=
  match arg.toList with
  | q :: rest => if q == '"' || q == '\x27' then some ((rest.head?.map Char.toNat).getD 0) else none
  | [] => none

/-- The integer an argument stands for. -/
def integerOf (signed : Bool) (arg : Option String) : Int × List String :=
  match arg with
  | none => (0, [])
  | some s =>
    match quotedCode? s with
    | some n => (n, [])
    | none =>
      let r := Integer.scan 0 s.toList
      let (value, outside) : Int × Bool :=
        if signed then Integer.clamp r.value
        else
          let (n, outside) := Integer.clampUnsigned r.value
          (n, outside)
      (value, complaint s r.rest outside)

/-- The floating point number an argument stands for. -/
def floatingOf (g : Floating.Grid) (arg : Option String) : Floating × List String :=
  match arg with
  | none => (.finite false 0 0, [])
  | some s =>
    match quotedCode? s with
    | some n => (.finite false n 0, [])
    | none =>
      let r := Floating.scan g s.toList
      (r.result.number, complaint s r.rest r.result.outside)

/-- Width or precision: digits, or a star for the next argument, of which the lower half of its word
counts. The measure is missing where nothing stands. -/
def readMeasure (cs : List Char) (args : List String) :
    Option Int × List Char × List String × List String :=
  match cs with
  | '*' :: rest =>
    let (n, complaints) := integerOf true args.head?
    (some (Int.bmod n 4294967296), rest, args.drop 1, complaints)
  | _ =>
    let ds := cs.takeWhile Char.isDigit
    if ds.isEmpty then (none, cs, args, [])
    else (some ((Integer.digits 10 0 ds).1 : Nat), cs.drop ds.length, args, [])

/-- Write one argument. -/
def convert (s : Spec) (letter : Char) (arg : Option String) : Printed :=
  if letter == 's' then { output := s.text (arg.getD "") }
  else if letter == 'b' then
    let (t, stopped) := unescaped (arg.getD "")
    { output := s.text t, stopped }
  else if letter == 'c' then
    { output := s.char ((arg.getD "").toList.headD '\x00') }
  else if letter == 'd' || letter == 'i' then
    let (n, complaints) := integerOf true arg
    { output := s.signed n, complaints }
  else if "ouxX".toList.contains letter then
    let (n, complaints) := integerOf false arg
    { output := s.unsigned letter n.toNat, complaints }
  else
    let (x, complaints) := floatingOf .double arg
    { output := s.floating .double 1 letter x, complaints }

/-- Whether a letter is a conversion of the shell. -/
def isConversion (c : Char) : Bool := "bcsdiouxX".toList.contains c || isFloating c

/-- Go through a format once. -/
def once : (fuel : Nat) → List Char → List String → Printed
  | 0, _, rest => { rest }
  | _ + 1, [], rest => { rest }
  | fuel + 1, '\\' :: cs, args =>
    let (b, cs) := escape cs
    let p := once fuel cs args
    { p with output := String.singleton b ++ p.output }
  | fuel + 1, '%' :: '%' :: cs, args =>
    let p := once fuel cs args
    { p with output := "%" ++ p.output }
  | fuel + 1, '%' :: cs, args =>
    let start := cs
    let (s, cs) := readFlags cs {}
    let (width, cs, args, early) := readMeasure cs args
    let s := s.withWidth (width.getD 0)
    let (s, cs, args, late) := match cs with
      | '.' :: cs =>
        let (n, cs, args, late) := readMeasure cs args
        (s.withPrecision (n.getD 0), cs, args, late)
      | _ => (s, cs, args, [])
    let complaints := early ++ late
    match cs with
    | [] =>
      { rest := args, complaints, stopped := true, mistake := some "missing format character" }
    | letter :: cs =>
      if !isConversion letter then
        let shown := String.ofList ('%' :: start.take (start.length - cs.length))
        { complaints, stopped := true, mistake := some (shown ++ ": invalid directive") }
      else if s.isTooWide then
        let complaints := complaints ++ (convert {} letter args.head?).complaints
        { complaints, stopped := true, mistake := some "xvsnprintf failed" }
      else
        let here := convert s letter args.head?
        let complaints := complaints ++ here.complaints
        if here.stopped then { here with complaints }
        else
          let p := once fuel cs (args.drop 1)
          { p with output := here.output ++ p.output, complaints := complaints ++ p.complaints }
  | fuel + 1, c :: cs, args =>
    let p := once fuel cs args
    { p with output := String.singleton c ++ p.output }

/-- Use a format again and again while it uses up arguments. -/
def again (format : List Char) : (fuel : Nat) → List String → Printed
  | 0, rest => { rest }
  | fuel + 1, args =>
    let p := once (format.length + 1) format args
    if p.stopped || p.rest.isEmpty || p.rest.length = args.length then p
    else
      let q := again format fuel p.rest
      { q with output := p.output ++ q.output, complaints := p.complaints ++ q.complaints }

/-- Print arguments by a format. -/
def print (format : String) (args : List String) : Printed :=
  again format.toList (args.length + 1) args

/-- The words of `echo`, with their escapes replaced, up to the one that asks for no more. -/
def echoed : List String → String × Bool
  | [] => ("", false)
  | [word] => unescaped word
  | word :: rest =>
    let (text, stop) := unescaped word
    if stop then (text, true)
    else
      let (more, stop) := echoed rest
      (text ++ " " ++ more, stop)

/-- What `echo` writes. -/
def echo (args : List String) : String :=
  match args with
  | "-n" :: rest => (echoed rest).1
  | rest =>
    let (text, stop) := echoed rest
    if stop then text else text ++ "\n"

end Format

end Scaffold
