import Scaffold.Machine.Format
import Scaffold.Machine.Tool.Basic

/-!
# Printing arguments

The programs `echo` and `printf`. They know more escapes than the commands of the shell, and
complain about arguments in the middle of their output.
-/

namespace Scaffold

namespace Tool

/-! ### Words -/

namespace Echo

/-- A word with its escapes replaced, and whether it asks for no more output. -/
def unescape : (fuel : Nat) → List Char → List Char × Bool
  | 0, _ => ([], false)
  | _ + 1, [] => ([], false)
  | _ + 1, ['\\'] => (['\\'], false)
  | fuel + 1, '\\' :: c :: cs =>
    let go (out : List Char) (rest : List Char) : List Char × Bool :=
      let (more, stop) := unescape fuel rest
      (out ++ more, stop)
    if c == 'c' then ([], true)
    else if c == 'x' && Integer.startsDigit 16 cs then
      let ds := (cs.take 2).takeWhile fun d => (Integer.digit? 16 d).isSome
      go [Format.byte (Integer.digits 16 0 ds).1] (cs.drop ds.length)
    else if c == '0' then
      let (value, rest) := Format.readOctal 3 0 cs
      go [Format.byte value] rest
    else if Integer.startsDigit 8 [c] then
      let (value, rest) := Format.readOctal 3 0 (c :: cs)
      go [Format.byte value] rest
    else match Format.letter? c with
      | some b => go [b] cs
      | none => go ['\\', c] cs
  | fuel + 1, c :: cs =>
    let (more, stop) := unescape fuel cs
    (c :: more, stop)

/-- Write words with their escapes replaced, and a line break unless it is not wanted. -/
def escaped (lineBreak : Bool) : List String → String
  | [] => if lineBreak then "\n" else ""
  | word :: rest =>
    let (cs, stop) := unescape (word.length + 1) word.toList
    if stop then String.ofList cs
    else String.ofList cs ++ (if rest.isEmpty then "" else " ") ++ escaped lineBreak rest

/-- Options in front of the words: whether a line break ends them, and whether escapes are
replaced. -/
def options : (lineBreak escapes : Bool) → List String → Bool × Bool × List String
  | lineBreak, escapes, arg :: rest =>
    match arg.toList with
    | '-' :: c :: cs =>
      if (c :: cs).all fun c => c == 'n' || c == 'e' || c == 'E' then
        let escapes := (c :: cs).foldl
          (fun on c => if c == 'e' then true else if c == 'E' then false else on) escapes
        options (lineBreak && !(c :: cs).contains 'n') escapes rest
      else (lineBreak, escapes, arg :: rest)
    | _ => (lineBreak, escapes, arg :: rest)
  | lineBreak, escapes, [] => (lineBreak, escapes, [])

end Echo

/-- Write words. -/
def echo (args : List String) : Tool Nat := do
  standardOption args
  let (lineBreak, escapes, words) := Echo.options true false args
  if escapes then say (Echo.escaped lineBreak words)
  else say (Text.join " " words ++ if lineBreak then "\n" else "")
  return 0

/-! ### Formats -/

namespace Print

/-- Whether a complaint was made about an argument. -/
abbrev Printing := StateT Bool Tool

/-- Complain about an argument. -/
def fault (message : String) : Printing Unit := do
  complain message
  set true

/-- The code of the character behind a quote, and what follows it. -/
def quoted? (arg : String) : Option (Char × List Char) :=
  match arg.toList with
  | q :: c :: rest => if q == '"' || q == '\x27' then some (c, rest) else none
  | _ => none

/-- Warn about what follows the character behind a quote. -/
def warnRest (rest : List Char) : Printing Unit :=
  if rest.isEmpty then return
  else complain ("warning: " ++ String.ofList rest ++
    ": character(s) following character constant have been ignored")

/-- Complain about an argument that was read as a number up to some rest. -/
def verify (arg : String) (rest : List Char) (outside : Bool) : Printing Unit :=
  if outside then fault (Quote.plain arg ++ ": Numerical result out of range")
  else if rest.isEmpty then return
  else if rest.length = arg.length then fault (Quote.plain arg ++ ": expected a numeric value")
  else fault (Quote.plain arg ++ ": value not completely converted")

/-- The integer an argument stands for. -/
def integer (signed : Bool) (arg : String) : Printing Int := do
  match quoted? arg with
  | some (c, rest) =>
    warnRest rest
    return c.toNat
  | none =>
    let r := Integer.scan 0 arg.toList
    let (value, outside) : Int × Bool :=
      if signed then Integer.clamp r.value
      else
        let (n, outside) := Integer.clampUnsigned r.value
        (n, outside)
    verify arg r.rest outside
    return value

/-- The floating point number an argument stands for. -/
def floating (arg : String) : Printing Floating := do
  match quoted? arg with
  | some (c, rest) =>
    warnRest rest
    return .finite false c.toNat 0
  | none =>
    let r := Floating.scan .extended arg.toList
    verify arg r.rest r.result.outside
    return r.result.number

/-- An escape behind its backslash: the bytes, what follows, and whether it asks for no more output.
`leadingZero` says that an octal escape may have a zero more in front. -/
def escape (leadingZero : Bool) (cs : List Char) : Tool (List Char × List Char × Bool) := do
  match cs with
  | [] => return (['\\'], [], false)
  | 'c' :: rest => return ([], rest, true)
  | '"' :: rest => return (['"'], rest, false)
  | 'x' :: rest =>
    let ds := (rest.take 2).takeWhile fun d => (Integer.digit? 16 d).isSome
    if ds.isEmpty then die 1 "missing hexadecimal number in escape"
    else return ([Format.byte (Integer.digits 16 0 ds).1], rest.drop ds.length, false)
  | 'u' :: rest => unicode 4 rest
  | 'U' :: rest => unicode 8 rest
  | c :: rest =>
    match Format.letter? c with
    | some b => return ([b], rest, false)
    | none =>
      if Integer.startsDigit 8 cs then
        let cs := if leadingZero && c == '0' then rest else cs
        let (value, rest) := Format.readOctal 3 0 cs
        return ([Format.byte value], rest, false)
      else return (['\\', c], rest, false)
where
  /-- A character given by so many digits. Control characters and those that every file can hold as
  they are cannot be given; of the others only ASCII can be written. -/
  unicode (n : Nat) (rest : List Char) : Tool (List Char × List Char × Bool) := do
    let ds := (rest.take n).takeWhile fun d => (Integer.digit? 16 d).isSome
    if ds.length < n then die 1 "missing hexadecimal number in escape"
    let code := (Integer.digits 16 0 ds).1
    let isAllowed := code > 0x9F || code == 0x24 || code == 0x40 || code == 0x60
    if !isAllowed || (0xD800 ≤ code && code ≤ 0xDFFF) then
      die 1 ("invalid universal character name \\" ++ (if n = 4 then "u" else "U") ++
        Integer.padded 16 n code)
    let shown := if code < 128 then [Char.ofNat code]
      else '\\' :: (if code < 65536 then 'u' else 'U') ::
        ((Integer.padded 16 (if code < 65536 then 4 else 8) code).toList.map Char.toUpper)
    return (shown, rest.drop n, false)

/-- Write an argument with its escapes replaced. -/
def escaped : (fuel : Nat) → List Char → Tool Unit
  | 0, _ => return
  | _ + 1, [] => return
  | fuel + 1, '\\' :: cs => do
    let (out, rest, stop) ← escape true cs
    say (String.ofList out)
    if stop then exit 0
    escaped fuel rest
  | fuel + 1, c :: cs => do
    say (String.singleton c)
    escaped fuel cs

/-- Letters that flags, width or precision forbid. -/
def forbidden (start : List Char) (precise : Bool) : List Char :=
  (if start.contains '#' then "cdisu".toList else []) ++
  (if start.contains '0' then "cs".toList else []) ++
  (if start.contains '\x27' then "aAceEosxX".toList else []) ++
  (if precise then ['c'] else [])

/-- A measure of some name that an argument gives, or that stands in the format. -/
def measure (name : String) (isAllowed : Int → Bool) (cs : List Char) (args : List String) :
    Printing (Option Int × List Char × List String) := do
  match cs with
  | '*' :: rest =>
    match args with
    | arg :: args =>
      let n ← integer true arg
      if !isAllowed n then die 1 ("invalid " ++ name ++ ": " ++ Quote.plain arg)
      return (some n, rest, args)
    | [] => return (some 0, rest, [])
  | _ =>
    let ds := cs.takeWhile Char.isDigit
    return (if ds.isEmpty then none else some ((Integer.digits 10 0 ds).1 : Nat),
      cs.drop ds.length, args)

/-- Write a value, unless nothing as wide can be written. -/
def write (s : Format.Spec) (text : Format.Spec → String) : Printing Unit :=
  if s.isTooWide then
    die 1 "cannot perform formatted output: Value too large for defined data type"
  else say (text s)

/-- Write one argument. -/
def convert (s : Format.Spec) (letter : Char) (arg : String) : Printing Unit := do
  if letter == 's' then write s (·.text arg)
  else if letter == 'c' then write s (·.char (arg.toList.headD '\x00'))
  else if letter == 'd' || letter == 'i' then
    let n ← integer true arg
    write s (·.signed n)
  else if "ouxX".toList.contains letter then
    let n ← integer false arg
    write s (·.unsigned letter n.toNat)
  else
    let x ← floating arg
    write s (·.floating .extended 4 letter x)

/-- Go through a format once; the result has the arguments left. -/
def once : (fuel : Nat) → List Char → List String → Printing (List String)
  | 0, _, args => return args
  | _ + 1, [], args => return args
  | fuel + 1, '\\' :: cs, args => do
    let (out, rest, stop) ← escape false cs
    say (String.ofList out)
    if stop then exit 0
    once fuel rest args
  | fuel + 1, '%' :: '%' :: cs, args => do
    say "%"
    once fuel cs args
  | fuel + 1, '%' :: 'b' :: cs, args => do
    if let some arg := args.head? then escaped (arg.length + 1) arg.toList
    once fuel cs (args.drop 1)
  | fuel + 1, '%' :: 'q' :: cs, args => do
    if let some arg := args.head? then
      say (if Quote.isSpecial arg && !(arg.toList.all fun c => c == ':' || c.isAlphanum)
        then Quote.always arg else arg)
    once fuel cs (args.drop 1)
  | fuel + 1, '%' :: cs, args => do
    let start := cs
    let flags := cs.takeWhile fun c => "-+ #0'I".toList.contains c
    let (s, _) := Format.readFlags (flags.filter fun c => c != '\x27' && c != 'I') {}
    let limit : Int := Format.Spec.limit
    let (width, cs, args) ← measure "field width" (fun n => -limit - 1 ≤ n && n ≤ limit)
      (cs.drop flags.length) args
    let s := s.withWidth (width.getD 0)
    let (s, cs, args) ← match cs with
      | '.' :: cs => do
        let (n, cs, args) ← measure "precision" (· ≤ limit) cs args
        pure (s.withPrecision (n.getD 0), cs, args)
      | _ => pure (s, cs, args)
    let precise := (start.take (start.length - cs.length)).contains '.'
    let cs := cs.dropWhile fun c => "lLhjtz".toList.contains c
    let letter := cs.headD '\x00'
    let known := "diouxXcs".toList.contains letter || Format.isFloating letter
    if !known || (forbidden flags precise).contains letter then
      let shown := String.ofList ('%' :: start.take (start.length - (cs.drop 1).length))
      die 1 (shown ++ ": invalid conversion specification")
    convert s letter (args.headD "")
    once fuel (cs.drop 1) (args.drop 1)
  | fuel + 1, c :: cs, args => do
    say (String.singleton c)
    once fuel cs args

/-- Use a format again and again while it uses up arguments. -/
def again (format : List Char) : (fuel : Nat) → List String → Printing Unit
  | 0, _ => return
  | fuel + 1, args => do
    let rest ← once (format.length + 1) format args
    if rest.isEmpty then return
    else if rest.length = args.length then
      complain ("warning: ignoring excess arguments, starting with " ++ Quote.plain (rest.headD ""))
    else again format fuel rest

end Print

/-- Print arguments by a format. -/
def printf (args : List String) : Tool Nat := do
  standardOption args
  let args := if args.head? == some "--" then args.drop 1 else args
  match args with
  | [] => misuse 1 "missing operand"
  | format :: rest =>
    let ((), faulty) ← (Print.again format.toList (rest.length + 1) rest).run false
    return if faulty then 1 else 0

end Tool

end Scaffold
