import Scaffold.Machine.Glob
import Scaffold.Machine.Tool.Basic

/-!
# Replacing bytes

`tr` replaces, deletes or squeezes the bytes of its input. Its sets are written as texts with
escapes, ranges, classes and repetitions; where a set is replaced by another, classes of letters in
the second one change case.
-/

namespace Scaffold

namespace Tool

namespace Translate

/-! ### Writing of sets -/

/-- A byte of a set as it is written, and whether a backslash stood before it. -/
abbrev Written := List (Char × Bool)

/-- The byte a letter behind a backslash stands for. -/
def letter? : Char → Option Char
  | '\\' => some '\\'
  | 'a' => some '\x07'
  | 'b' => some '\x08'
  | 'f' => some '\x0c'
  | 'n' => some '\n'
  | 'r' => some '\r'
  | 't' => some '\t'
  | 'v' => some '\x0b'
  | _ => none

/-- Take the escapes out of a text, with the warnings on the way. -/
def unescape : (fuel : Nat) → List Char → Written × List String
  | 0, _ => ([], [])
  | _ + 1, [] => ([], [])
  | _ + 1, ['\\'] =>
    ([('\\', false)], ["warning: an unescaped backslash at end of string is not portable"])
  | fuel + 1, '\\' :: c :: cs =>
    let digits := ((c :: cs).take 3).takeWhile fun d => (Integer.digit? 8 d).isSome
    let value := (Integer.digits 8 0 digits).1
    if digits.isEmpty then
      let (rest, warnings) := unescape fuel cs
      (((letter? c).getD c, true) :: rest, warnings)
    else if value ≥ 256 then
      let (rest, warnings) := unescape fuel ((c :: cs).drop 2)
      let shown := String.ofList digits
      let third := String.ofList (digits.drop 2)
      ((Char.ofNat (value / 8), true) :: rest,
       ("warning: the ambiguous octal escape \\" ++ shown ++ " is being\n\tinterpreted as the " ++
         "2-byte sequence \\0" ++ String.ofList (digits.take 2) ++ ", " ++ third) :: warnings)
    else
      let (rest, warnings) := unescape fuel ((c :: cs).drop digits.length)
      ((Char.ofNat value, true) :: rest, warnings)
  | fuel + 1, c :: cs =>
    let (rest, warnings) := unescape fuel cs
    ((c, false) :: rest, warnings)

/-- An element of a set. -/
inductive Element where
  | byte (c : Char)
  | range (lo hi : Char)
  | named (name : String)
  | equal (c : Char)
  /-- A byte so many times; none means as many as are needed. -/
  | repeated (c : Char) (count : Nat)
deriving DecidableEq, Repr, Inhabited

/-- A byte in a message about a range. -/
def shownByte (c : Char) : String :=
  match Quote.controlLetter? c with
  | some letter => "\\" ++ String.singleton letter
  | none =>
    if c == '\\' then "\\\\"
    else if Quote.isPrintable c then String.singleton c
    else "\\" ++ Integer.padded 8 3 c.toNat

/-- What stands before a mark and a closing bracket, and what follows them. -/
def upToMark (mark : Char) : Written → Option (Written × Written)
  | [] => none
  | (c, q) :: rest =>
    if c == mark && !q && rest.head? == some (']', false) then some ([], rest.drop 1)
    else (upToMark mark rest).map fun (inside, after) => ((c, q) :: inside, after)

/-- The plain text of what is written. -/
def textOf (w : Written) : String := String.ofList (w.map Prod.fst)

/-- A repetition behind its opening bracket: nothing where none stands there. -/
def repetition? (w : Written) : Except String (Option (Element × Written)) :=
  match w with
  | (c, _) :: ('*', false) :: rest =>
    let inside := rest.takeWhile fun e => !e.2 && e.1 != ']'
    match rest.drop inside.length with
    | (']', false) :: after =>
      let text := textOf inside
      if text.isEmpty then .ok (some (.repeated c 0, after))
      else
        let base := if Text.startsWith "0" text then 8 else 10
        let (n, left) := Integer.digits base 0 text.toList
        if left.isEmpty then .ok (some (.repeated c n, after))
        else
          .error ("invalid repeat count " ++ Quote.plain text ++ " in [c*n] construct")
    | _ => .ok none
  | _ => .ok none

/-- Whether a star, digits and a closing bracket come next. -/
def starDigits (w : Written) : Bool :=
  match w with
  | ('*', false) :: rest =>
    (rest.dropWhile fun e => e.1.isDigit && !e.2).head? == some (']', false)
  | _ => false

/-- A class or equivalence behind its opening bracket: nothing where none stands there. -/
def class? (w : Written) : Except String (Option (Element × Written)) :=
  match w with
  | (mark, false) :: rest =>
    if mark == ':' || mark == '=' then
      match upToMark mark rest with
      | none => .ok none
      | some (inside, after) =>
        let text := textOf inside
        if text.isEmpty then
          .error (if mark == ':' then "missing character class name '[::]'"
            else "missing equivalence class character '[==]'")
        else if mark == ':' then
          if (ByteSet.class? text).isSome then .ok (some (.named text, after))
          else if starDigits rest then .ok none
          else .error ("invalid character class " ++ Quote.plain text)
        else
          match inside with
          | [(c, _)] => .ok (some (.equal c, after))
          | _ =>
            if starDigits rest then .ok none
            else .error (text ++ ": equivalence class operand must be a single character")
    else .ok none
  | _ => .ok none

/-- Read the elements of a set. -/
def elements : (fuel : Nat) → Written → Except String (List Element)
  | 0, _ => .ok []
  | _ + 1, [] => .ok []
  | fuel + 1, (c, q) :: rest => do
    if rest.length < 2 then return .byte c :: (← elements fuel rest)
    let bracketed ←
      if c == '[' && !q then
        match ← class? rest with
        | some r => pure (some r)
        | none => repetition? rest
      else pure none
    match bracketed, rest with
    | some (e, after), _ => return e :: (← elements fuel after)
    | none, ('-', false) :: (hi, _) :: after =>
      if c > hi then
        .error ("range-endpoints of '" ++ shownByte c ++ "-" ++ shownByte hi ++
          "' are in reverse collating sequence order")
      else return .range c hi :: (← elements fuel after)
    | none, _ => return .byte c :: (← elements fuel rest)

/-! ### Sets -/

/-- The bytes between two. -/
def between (lo hi : Char) : List Char :=
  (List.range (hi.toNat + 1 - lo.toNat)).map fun i => Char.ofNat (lo.toNat + i)

/-- All bytes. -/
def allBytes : List Char := between '\x00' '\xff'

/-- The bytes of an element. -/
def Element.bytes : Element → List Char
  | .byte c => [c]
  | .range lo hi => between lo hi
  | .named name =>
    let set : ByteSet := { ranges := (ByteSet.class? name).getD [] }
    allBytes.filter set.contains
  | .equal c => [c]
  | .repeated c count => List.replicate count c

/-- Whether an element is one of the classes that change case. -/
def Element.isCase (e : Element) : Bool := e == .named "upper" || e == .named "lower"

/-- Whether an element is a class that does not change case. -/
def Element.isOtherClass : Element → Bool
  | .named name => name != "upper" && name != "lower"
  | _ => false

/-- Whether an element is a class. -/
def Element.isClass : Element → Bool
  | .named _ => true
  | _ => false

/-- Whether an element repeats a byte as often as is needed. -/
def Element.isOpen : Element → Bool
  | .repeated _ 0 => true
  | _ => false

/-- How many bytes elements have. -/
def size (es : List Element) : Nat := es.foldl (fun n e => n + e.bytes.length) 0

/-- Elements with an open repetition that takes up what is missing. -/
def filled (wanted : Nat) (es : List Element) : List Element :=
  es.map fun
    | .repeated c 0 => .repeated c (wanted - size es)
    | e => e

/-- The next byte of elements: which class that changes case it starts, and what is left. -/
structure Next where
  byte : Char
  /-- Whether the byte is the first of its element. -/
  isNew : Bool
  case : Option String
  /-- The bytes left of the element, and the elements behind it. -/
  left : List Char
  after : List Element
deriving Inhabited

/-- The next byte of elements; those without bytes are passed over. -/
def next? (left : List Char) (current : Option String) : List Element → Option Next
  | [] =>
    match left with
    | c :: left => some { byte := c, isNew := false, case := current, left, after := [] }
    | [] => none
  | e :: es =>
    match left with
    | c :: left => some { byte := c, isNew := false, case := current, left, after := e :: es }
    | [] =>
      let case := match e with
        | .named name => if e.isCase then some name else none
        | _ => none
      match e.bytes with
      | c :: left => some { byte := c, isNew := true, case, left, after := es }
      | [] => next? [] none es

/-- The pairs of bytes that two sets stand for. Classes that change case give pairs of letters. -/
def pairs : (fuel : Nat) → (left₁ : List Char) → (case₁ : Option String) → List Element →
    (left₂ : List Char) → (case₂ : Option String) → List Element →
    Except String (List (Char × Char))
  | 0, _, _, _, _, _, _ => .ok []
  | fuel + 1, l₁, k₁, es₁, l₂, k₂, es₂ => do
    match next? l₁ k₁ es₁, next? l₂ k₂ es₂ with
    | some a, some b =>
      if b.isNew && b.case.isSome && !(a.isNew && a.case.isSome) then
        .error "misaligned [:upper:] and/or [:lower:] construct"
      if b.case.isSome then
        let here : List (Char × Char) := match a.case, b.case with
          | some "lower", some "upper" => (between 'a' 'z').map fun c => (c, c.toUpper)
          | some "upper", some "lower" => (between 'A' 'Z').map fun c => (c, c.toLower)
          | _, _ => [(a.byte, b.byte)]
        return here ++ (← pairs fuel [] none a.after [] none b.after)
      else
        return (a.byte, b.byte) :: (← pairs fuel a.left a.case a.after b.left b.case b.after)
    | _, _ => return []

/-- How many bytes elements have, where a class that changes case counts once. -/
def caseSize (es : List Element) : Nat :=
  es.foldl (fun n e => if e.isCase then n + 1 else n + e.bytes.length) 0

/-- What a byte is replaced by: the last pair for it decides. -/
def replaced (ps : List (Char × Char)) (c : Char) : Char :=
  match ps.reverse.find? fun p => p.1 == c with
  | some p => p.2
  | none => c

/-- Drop repetitions of the bytes of a set. -/
def squeezed (set : List Char) : Option Char → List Char → List Char
  | _, [] => []
  | before, c :: cs =>
    if before == some c && set.contains c then squeezed set before cs
    else c :: squeezed set (some c) cs

/-! ### Settings -/

/-- What is done. -/
structure Settings where
  complement : Bool := false
  delete : Bool := false
  squeeze : Bool := false
  truncate : Bool := false
deriving Inhabited

/-- The options. -/
def grammar : Options.Grammar :=
  { short := Options.flags "AcCdst"
    long :=
      [("complement", .none, "c"), ("delete", .none, "d"), ("squeeze-repeats", .none, "s"),
       ("truncate-set1", .none, "t"), ("help", .none, "help"), ("version", .none, "version")]
    mixed := false }

/-- Apply an option. -/
def apply (s : Settings) (code : String) (_ : Option String) : Tool Settings :=
  match code with
  | "c" => return { s with complement := true }
  | "C" => return { s with complement := true }
  | "d" => return { s with delete := true }
  | "s" => return { s with squeeze := true }
  | "t" => return { s with truncate := true }
  | _ => return s

/-- Read a set, with its warnings. -/
def setOf (text : String) : Tool (List Element) := do
  let (written, warnings) := unescape (text.length + 1) text.toList
  warnings.forM complain
  match elements (written.length + 1) written with
  | .ok es => return es
  | .error message => die 1 message

/-- The bytes that are meant by a set. -/
def members (complement : Bool) (es : List Element) : List Char :=
  let bytes := es.flatMap Element.bytes
  allBytes.filter fun c => bytes.contains c != complement

/-- Which byte becomes which. -/
def exchanges (s : Settings) (first second : List Element) : Tool (List (Char × Char)) := do
  let size₁ := if s.complement then (members true first).length else size first
  let opens := second.filter Element.isOpen
  if opens.length > 1 then die 1 "only one [c*] repeat construct may appear in string2"
  let second := if size₁ ≥ size second then filled size₁ second else second
  let isEqual : Element → Bool
    | .equal _ => true
    | _ => false
  if second.any isEqual then
    die 1 "[=c=] expressions may not appear in string2 when translating"
  if second.any Element.isOtherClass then
    die 1 ("when translating, the only character classes that may appear in\n" ++
      "string2 are 'upper' and 'lower'")
  let fuel := size first + size second + 2
  if !s.complement && second.any Element.isClass then
    if let .error message := pairs fuel [] none first [] none second then die 1 message
  let cased := !s.complement && second.any Element.isClass
  let length₁ := if cased then caseSize first else size₁
  let length₂ := if cased then caseSize second else size second
  let second ←
    if length₁ > length₂ && !s.truncate then do
      match second.getLast? with
      | none => die 1 "when not truncating set1, string2 must be non-empty"
      | some (.named _) =>
        die 1 ("when translating with string1 longer than string2,\n" ++
          "the latter string must not end with a character class")
      | some e =>
        match e.bytes.getLast? with
        | some c => pure (second ++ [.repeated c (length₁ - length₂)])
        | none => die 1 "when not truncating set1, string2 must be non-empty"
    else pure second
  let targets := second.flatMap Element.bytes
  if s.complement then
    let domain := members true first
    if first.any Element.isClass &&
        (targets.eraseDups.length > 1 || targets.length != domain.length)
    then
      die 1 ("when translating with complemented character classes,\n" ++
        "string2 must map all characters in the domain to one")
    return domain.zip targets
  else
    match pairs (fuel + size₁ + 2) [] none first [] none second with
    | .ok ps => return ps
    | .error message => die 1 message

end Translate

/-- Replace, delete or squeeze bytes of the input. -/
def tr (args : List String) : Tool Nat := do
  let line := Options.read Translate.grammar args
  let s ← eachOption 1 Translate.apply line.steps {}
  let least := if s.delete == s.squeeze then 2 else 1
  let most := if s.delete && !s.squeeze then 1 else 2
  let operands := line.operands
  if operands.length < least then
    match operands.getLast? with
    | none => misuse 1 "missing operand"
    | some last =>
      complain ("missing operand after " ++ Quote.plain last)
      mutter (if s.squeeze then
        "Two strings must be given when both deleting and squeezing repeats."
        else "Two strings must be given when translating.")
      pointToHelp 1
  if operands.length > most then
    complain ("extra operand " ++ Quote.plain (operands.getD most ""))
    if operands.length = 2 then
      mutter "Only one string may be given when deleting without squeezing repeats."
    pointToHelp 1
  let first ← Translate.setOf (operands.headD "")
  let second ← match operands[1]? with
    | some text => do pure (some (← Translate.setOf text))
    | none => pure none
  if first.any Translate.Element.isOpen then
    die 1 "the [c*] repeat construct may not appear in string1"
  let members := Translate.members s.complement first
  let translates := second.isSome && !s.delete
  if let some es := second then
    if !translates && es.any Translate.Element.isOpen then
      die 1 "the [c*] construct may appear in string2 only when translating"
  let ps ← if translates then Translate.exchanges s first (second.getD []) else pure []
  match ← content "-" with
  | .error e => die 1 ("read error: " ++ e.reason)
  | .ok text =>
    let cs := text.toList
    let targets := (second.getD []).flatMap Translate.Element.bytes
    let result :=
      if s.delete then
        let kept := cs.filter fun c => !members.contains c
        if s.squeeze then Translate.squeezed targets none kept else kept
      else if translates then
        let changed := cs.map (Translate.replaced ps)
        if s.squeeze then Translate.squeezed (ps.map Prod.snd ++ targets) none changed else changed
      else Translate.squeezed members none cs
    say (String.ofList result)
    return 0

end Tool

end Scaffold
