import Scaffold.Machine.Number

/-!
# Names in messages

How tools show a name in a message. `Quote.always` quotes it as a shell reads it, `Quote.needed`
does so only where a shell would read the bare name otherwise, and `Quote.plain` puts it between
quotes with backslash escapes.
-/

namespace Scaffold

namespace Quote

/-- Bytes that can be shown. -/
def isPrintable (c : Char) : Bool := ' ' ≤ c && c ≤ '~'

/-- The letter of an escape for a control byte. -/
def controlLetter? (c : Char) : Option Char :=
  match c with
  | '\x07' => some 'a'
  | '\x08' => some 'b'
  | '\x0c' => some 'f'
  | '\n' => some 'n'
  | '\r' => some 'r'
  | '\t' => some 't'
  | '\x0b' => some 'v'
  | _ => none

/-- A byte that cannot be shown, as an escape. -/
def escapeOf (c : Char) : List Char :=
  match controlLetter? c with
  | some letter => ['\\', letter]
  | none => '\\' :: (Integer.padded 8 3 c.toNat).toList

/-- Bytes that mean the same between either kind of quotes. -/
def isHarmless (c : Char) : Bool :=
  c.isAlphanum || "%+,-./:]_ '".toList.contains c

/-- The text between single quotes, where control bytes stand in parts of their own. `escaping` says
whether such a part is open. -/
def shellBody : (escaping : Bool) → List Char → List Char
  | _, [] => []
  | escaping, c :: cs =>
    if c == '\x27' then ['\x27', '\\', '\x27', '\x27'] ++ shellBody false cs
    else if isPrintable c then
      (if escaping then ['\x27', '\x27'] else []) ++ c :: shellBody false cs
    else (if escaping then [] else ['\x27', '$', '\x27']) ++ escapeOf c ++ shellBody true cs

/-- A name as a shell reads it, always between quotes. -/
def always (s : String) : String :=
  let cs := s.toList
  if cs.contains '\x27' && cs.all isHarmless then "\"" ++ s ++ "\""
  else "'" ++ String.ofList (shellBody false cs) ++ "'"

/-- Whether a shell would read the bare name otherwise. A colon counts, because messages have one
behind a name. -/
def isSpecial (s : String) : Bool :=
  let special (c : Char) : Bool :=
    !isPrintable c || " !\"$&()*;<=>?[\\^\x60|':".toList.contains c
  match s.toList with
  | [] => true
  | [c] => special c || c == '#' || c == '~' || c == '\x7b' || c == '\x7d'
  | c :: cs => special c || c == '#' || c == '~' || cs.any special

/-- A name as a shell reads it, between quotes where that is needed. -/
def needed (s : String) : String := if isSpecial s then always s else s

/-- A name between quotes, with backslash escapes. -/
def plain (s : String) : String :=
  "'" ++ String.ofList (s.toList.flatMap fun c =>
    if c == '\x27' || c == '\\' then ['\\', c]
    else if isPrintable c then [c]
    else escapeOf c) ++ "'"

end Quote

end Scaffold
