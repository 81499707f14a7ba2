import Scaffold.Machine.Ordered.Basic
import Scaffold.Machine.Ordered.Fault
import Scaffold.Machine.Ordered.Set

/-!
# Reading ordered expressions

`Ordered.Pattern.read` reads an expression from left to right, up to the first mistake. Groups are
read by what they are given for their inside, so that nesting is bounded by `nestingLimit`. What can
only be told of the whole expression comes last: whether looks behind have a width, and whether all
groups exist that are referred to.
-/

namespace Scaffold

namespace Ordered

/-- Settings that can change inside of an expression. -/
structure Flags where
  ignoreCase : Bool := false
  /-- Lines start and end at line feeds. -/
  anyLine : Bool := false
  /-- A dot also stands for a line feed. -/
  anyByte : Bool := false
  /-- Blanks and comments are passed over. -/
  spaced : Bool := false
  /-- Blanks are passed over in sets too. -/
  spacedSets : Bool := false
  /-- Groups without a name take nothing. -/
  plainGroups : Bool := false
  repeatedNames : Bool := false
  /-- Repetitions are lazy unless said otherwise. -/
  isLazy : Bool := false
deriving DecidableEq, Repr, Inhabited

/-- What has to be looked at when the whole expression is known. -/
inductive Owed where
  | group (r : Reference)
  | fault (f : Fault)
deriving DecidableEq, Inhabited

/-- What is left of an expression, and what was seen so far. -/
structure Reader where
  rest : List Char
  flags : Flags := {}
  /-- Whether characters are quoted up to the end of the quotation. -/
  quoting : Bool := false
  groups : Nat := 0
  names : List (String × Nat) := []
  /-- How many looks the reader is inside of. -/
  looks : Nat := 0
  owed : List Owed := []
deriving Inhabited

/-- A reading step. -/
abbrev Reading := StateT Reader (Except Fault)

namespace Reading

/-- How deep groups are nested at most. -/
def nestingLimit : Nat := 250

/-- The largest count of a repetition. -/
def countLimit : Nat := 65535

/-- The largest number of a group, and the largest width of a look behind. -/
def groupLimit : Nat := 65535

/-! ### Steps -/

/-- What is left. -/
def rest : Reading (List Char) := return (← get).rest

/-- Go on with what is left behind something. -/
def goTo (cs : List Char) : Reading Unit := modify fun r => { r with rest := cs }

/-- Keep for later what can only be told of the whole expression. -/
def owe (o : Owed) : Reading Unit := modify fun r => { r with owed := r.owed ++ [o] }

/-- A reference whose group is looked for later. -/
def referred (r : Reference) : Reading Reference := do
  owe (.group r)
  return r

/-- Pass over a text, if it comes next. -/
def accept (text : String) : Reading Bool := do
  match Text.stripPrefix? text (String.ofList ((← rest).take text.length)) with
  | some _ => do
    goTo ((← rest).drop text.length)
    return true
  | none => return false

/-- The longest start of what is left whose characters pass a test. -/
def takeWhile (p : Char → Bool) : Reading (List Char) := do
  let cs ← rest
  goTo (cs.dropWhile p)
  return cs.takeWhile p

/-- The value of digits in a base. A value above the limit is one more than the limit. -/
def valueOf (base limit : Nat) (cs : List Char) : Nat :=
  cs.foldl (fun n c => min (limit + 1) (n * base + digit c)) 0
where
  digit (c : Char) : Nat :=
    if c.isDigit then c.toNat - '0'.toNat else c.toLower.toNat - 'a'.toNat + 10

/-- Whether a character is a hexadecimal digit. -/
def isHex (c : Char) : Bool := c.isDigit || ('a' ≤ c.toLower && c.toLower ≤ 'f')

/-- Whether a character is an octal digit. -/
def isOctal (c : Char) : Bool := '0' ≤ c && c ≤ '7'

/-- Whether a character is of a word. -/
def isNameChar (c : Char) : Bool := c.isAlphanum || c == '_'

/-- Whether a character is a blank. -/
def isBlank (c : Char) : Bool := c == ' ' || ('\t' ≤ c && c ≤ '\r')

/-- Pass over what is nothing: the marks of quotations, comments, and blanks where they do not
count. -/
def skip : (fuel : Nat) → Reading Unit
  | 0 => return
  | fuel + 1 => do
    let r ← get
    match r.quoting, r.rest with
    | true, '\\' :: 'E' :: cs => do
      set { r with rest := cs, quoting := false }
      skip fuel
    | true, _ => return
    | false, '\\' :: 'Q' :: cs => do
      set { r with rest := cs, quoting := true }
      skip fuel
    | false, '\\' :: 'E' :: cs => do
      goTo cs
      skip fuel
    | false, '(' :: '?' :: '#' :: cs =>
      match cs.dropWhile (· != ')') with
      | _ :: cs => do
        goTo cs
        skip fuel
      | [] => throw .unclosedComment
    | false, c :: cs =>
      if r.flags.spaced && isBlank c then do
        goTo cs
        skip fuel
      else if r.flags.spaced && c == '#' then do
        goTo ((cs.dropWhile (· != '\n')).drop 1)
        skip fuel
      else return
    | false, [] => return

/-- Pass over all that is nothing. -/
def skipAll : Reading Unit := do skip ((← rest).length + 1)

/-- A number of a group, which may be relative; `none` without digits. -/
def groupNumber? : Reading (Option Nat) := do
  let r ← get
  let (sign, cs) : Option Char × List Char := match r.rest with
    | '+' :: cs => (some '+', cs)
    | '-' :: cs => (some '-', cs)
    | cs => (none, cs)
  let ds := cs.takeWhile Char.isDigit
  if ds.isEmpty then return none
  goTo (cs.drop ds.length)
  let n := valueOf 10 groupLimit ds
  if n > groupLimit then throw .groupNumberTooBig
  match sign with
  | none => return some n
  | some '+' =>
    if n = 0 then throw .relativeZero
    if r.groups + n > groupLimit then throw .groupNumberTooBig
    return some (r.groups + n)
  | some _ =>
    if n = 0 then throw .relativeZero
    if n > r.groups then throw .noSuchGroup
    return some (r.groups + 1 - n)

/-- A name up to what closes it. -/
def name (close : Char) : Reading String := do
  match ← rest with
  | [] => throw .nameExpected
  | c :: _ =>
    if c.isDigit then throw .nameStartsWithDigit
    let cs ← takeWhile isNameChar
    if cs.length > 32 then throw .nameTooLong
    if cs.isEmpty then throw .nameExpected
    match ← rest with
    | c :: rest =>
      if c != close then throw .unclosedName
      goTo rest
      return String.ofList cs
    | [] => throw .unclosedName

/-- Pass over a closing parenthesis. -/
def close (fault : Fault) : Reading Unit := do
  match ← rest with
  | ')' :: cs => goTo cs
  | _ => throw fault

/-! ### Repetitions -/

/-- The counts of a repetition in braces, behind the opening one. -/
def counts? (cs : List Char) : Except Fault (Option (Nat × Option Nat × List Char)) := do
  let ds := cs.takeWhile Char.isDigit
  if ds.isEmpty then return none
  let least := valueOf 10 countLimit ds
  match cs.drop ds.length with
  | '\x7d' :: after =>
    if least > countLimit then throw .countTooBig
    return some (least, some least, after)
  | ',' :: '\x7d' :: after =>
    if least > countLimit then throw .countTooBig
    return some (least, none, after)
  | ',' :: more =>
    let es := more.takeWhile Char.isDigit
    match es.isEmpty, more.drop es.length with
    | false, '\x7d' :: after =>
      let most := valueOf 10 countLimit es
      if least > countLimit || most > countLimit then throw .countTooBig
      if most < least then throw .countsOutOfOrder
      return some (least, some most, after)
    | _, _ => return none
  | _ => return none

/-- A repetition, if one comes next. -/
def repetition? : Reading (Option (Nat × Option Nat)) := do
  let r ← get
  if r.quoting then return none
  match r.rest with
  | '*' :: cs => goTo cs; return some (0, none)
  | '+' :: cs => goTo cs; return some (1, none)
  | '?' :: cs => goTo cs; return some (0, some 1)
  | '\x7b' :: cs =>
    match ← counts? cs with
    | some (least, most, after) => goTo after; return some (least, most)
    | none => return none
  | _ => return none

/-- An expression with the repetition that follows it, if one does. -/
def repeated (a : Ordered) (canRepeat : Bool) : Reading Ordered := do
  skipAll
  match ← repetition? with
  | none => return a
  | some (least, most) =>
    if !canRepeat then throw .nothingToRepeat
    let r ← get
    match r.rest with
    | '+' :: cs => goTo cs; return .atomic (.times a least most false)
    | '?' :: cs => goTo cs; return .times a least most (!r.flags.isLazy)
    | _ => return .times a least most r.flags.isLazy

/-! ### Escapes -/

/-- A byte that an escape stands for. `cs` starts behind the backslash; the letter is no reference
to a group. `none` if the escape is no byte. -/
def byteEscape? (cs : List Char) : Except Fault (Option (Char × List Char)) :=
  let byte (n : Nat) (rest : List Char) : Except Fault (Option (Char × List Char)) :=
    .ok (some (Char.ofNat n, rest))
  let octal (cs : List Char) : Except Fault (Option (Char × List Char)) :=
    let ds := (cs.take 3).takeWhile isOctal
    let n := valueOf 8 511 ds
    if n > 255 then .error .octalTooLarge else byte n (cs.drop ds.length)
  match cs with
  | [] => .error .endsInBackslash
  | 'a' :: rest => byte 7 rest
  | 'e' :: rest => byte 27 rest
  | 'f' :: rest => byte 12 rest
  | 'n' :: rest => byte 10 rest
  | 'r' :: rest => byte 13 rest
  | 't' :: rest => byte 9 rest
  | 'c' :: [] => .error .endsInControl
  | 'c' :: c :: rest =>
    if c < ' ' || c > '~' then .error .badControl
    else byte ((c.toUpper.toNat) ^^^ 64) rest
  | 'o' :: '\x7b' :: rest =>
    let ds := rest.takeWhile isOctal
    match ds.isEmpty, rest.drop ds.length with
    | true, '\x7d' :: _ => .error .noDigits
    | true, [] => .error .noDigits
    | true, _ => .error .notOctal
    | false, after =>
      if valueOf 8 255 ds > 255 then .error .valueTooLarge
      else match after with
        | '\x7d' :: after => byte (valueOf 8 255 ds) after
        | _ => .error .notOctal
  | 'o' :: _ => .error .noBraceAfterOctal
  | 'x' :: '\x7b' :: rest =>
    let ds := rest.takeWhile isHex
    match ds.isEmpty, rest.drop ds.length with
    | true, '\x7d' :: _ => .error .noDigits
    | true, [] => .error .noDigits
    | true, _ => .error .notHexadecimal
    | false, after =>
      if valueOf 16 255 ds > 255 then .error .valueTooLarge
      else match after with
        | '\x7d' :: after => byte (valueOf 16 255 ds) after
        | _ => .error .notHexadecimal
  | 'x' :: rest =>
    let ds := (rest.take 2).takeWhile isHex
    byte (valueOf 16 255 ds) (rest.drop ds.length)
  | c :: rest =>
    if isOctal c then octal (c :: rest)
    else if c == '8' || c == '9' then .ok (some (c, rest))
    else if "FLlUu".toList.contains c then .error .unsupportedEscape
    else if "ABbCDdEGgHhKkNPpQRSsVvWwXZz".toList.contains c then .ok none
    else if c.isAlphanum then .error .unknownEscape
    else .ok (some (c, rest))

/-- A property behind its letter, and what follows it. -/
def property (negated : Bool) (cs : List Char) : Except Fault (Ranges × List Char) := do
  let (inner, negated, after) ← match cs with
    | [] => throw .malformedProperty
    | '\x7b' :: rest =>
      let (flipped, rest) : Bool × List Char := match rest with
        | '^' :: rest => (!negated, rest)
        | _ => (negated, rest)
      let inner := rest.takeWhile fun c =>
        isNameChar c || c == ' ' || c == '-' || c == '&' || c == ':' || c == '=' || c == '\t'
      match rest.drop inner.length with
      | '\x7d' :: after => pure (inner, flipped, after)
      | _ => throw .malformedProperty
    | c :: rest => if c.isAlpha then pure ([c], negated, rest) else throw .malformedProperty
  match property? (propertyName inner) with
  | some found =>
    let ranges := Ranges.ofNumbers found
    return (if negated then ranges.others else ranges, after)
  | none => throw .unknownProperty

/-- The set of an escape, and what follows it. `cs` starts behind the backslash. -/
def setEscape? (cs : List Char) : Except Fault (Option (Ranges × List Char)) :=
  match cs with
  | 'p' :: rest => (property false rest).map some
  | 'P' :: rest => (property true rest).map some
  | c :: rest => .ok ((escape? c).map fun rs => (rs, rest))
  | [] => .ok none

/-! ### Sets -/

/-- What a hyphen would mean next in a set. -/
inductive Hyphen where
  /-- Itself. -/
  | plain
  /-- A range from a byte. -/
  | opens (c : Char)
  /-- It was read already, and the range waits for its end. -/
  | opened (c : Char)
deriving DecidableEq, Inhabited

/-- The end of a class with a name, behind its opening bracket: the inside and what follows. -/
def classEnd? : (fuel : Nat) → (mark : Char) → List Char → Option (List Char × List Char)
  | 0, _, _ => none
  | fuel + 1, mark, c :: d :: rest =>
    let go (taken : List Char) (cs : List Char) : Option (List Char × List Char) :=
      (classEnd? fuel mark cs).map fun (inner, after) => (taken ++ inner, after)
    if c == '\\' && (d == ']' || d == '\\') then go [c, d] rest
    else if (c == '[' && d == mark) || c == ']' then none
    else if c == mark && d == ']' then some ([], rest)
    else go [c] (d :: rest)
  | _ + 1, _, _ => none

/-- A class with a name at the start of a text: its mark, its inside and what follows. -/
def named? (cs : List Char) : Option (Char × List Char × List Char) :=
  match cs with
  | mark :: rest =>
    if mark == ':' || mark == '.' || mark == '=' then
      (classEnd? (rest.length + 1) mark rest).map fun (inner, after) => (mark, inner, after)
    else none
  | [] => none

/-- Whether a hyphen comes next that does not end a set. -/
def startsRange : List Char → Bool
  | '-' :: c :: _ => c != ']'
  | _ => false

/-- The elements of a set up to its closing bracket. -/
def elements : (fuel : Nat) → (isFirst : Bool) → Hyphen → Ranges → Reading Ranges
  | 0, _, _, _ => throw .unclosedSet
  | fuel + 1, isFirst, hyphen, found => do
    let r ← get
    let literal (c : Char) (after : List Char) (hyphen : Hyphen) : Reading Ranges := do
      goTo after
      match hyphen with
      | .opened lo =>
        if lo > c then throw .rangeOutOfOrder
        elements fuel false .plain (found ++ [(lo, c)])
      | _ => elements fuel false (.opens c) (found ++ [(c, c)])
    match r.rest with
    | [] => throw .unclosedSet
    | c :: after =>
      if r.quoting then
        match c, after with
        | '\\', 'E' :: after => do
          set { r with rest := after, quoting := false }
          elements fuel isFirst hyphen found
        | _, _ => literal c after hyphen
      else if c == ']' && !isFirst then
        goTo after
        match hyphen with
        | .opened _ => return found ++ [('-', '-')]
        | _ => return found
      else if r.flags.spacedSets && (c == ' ' || c == '\t') then
        goTo after
        elements fuel isFirst hyphen found
      else match if c == '[' then named? after else none with
        | some (mark, inner, after) =>
          if mark != ':' then throw .collatingElement
          if let .opened _ := hyphen then throw .invalidRange
          let (negated, inner) : Bool × List Char := match inner with
            | '^' :: inner => (true, inner)
            | _ => (false, inner)
          match class? r.flags.ignoreCase (String.ofList inner) with
          | none => throw .unknownClass
          | some ranges =>
            if startsRange after then throw .invalidRange
            goTo after
            elements fuel false .plain (found ++ if negated then ranges.others else ranges)
        | none =>
          match c, hyphen with
          | '-', .opens lo => do
            goTo after
            elements fuel false (.opened lo) found
          | '\\', _ =>
            match after with
            | 'b' :: after => literal '\x08' after hyphen
            | 'Q' :: after => do
              set { r with rest := after, quoting := true }
              elements fuel isFirst hyphen found
            | 'E' :: after => do
              goTo after
              elements fuel isFirst hyphen found
            | 'g' :: after => literal 'g' after hyphen
            | _ =>
              match ← byteEscape? after with
              | some (b, after) => literal b after hyphen
              | none =>
                let letter := after.head?
                if letter.any "BRX".toList.contains then throw .escapeInSet
                if let .opened _ := hyphen then throw .invalidRange
                if letter == some 'N' then throw .anyInSet
                match ← setEscape? after with
                | some (ranges, after) =>
                  if startsRange after then throw .invalidRange
                  goTo after
                  elements fuel false .plain (found ++ ranges)
                | none => throw .escapeInSet
          | _, _ => literal c after hyphen

/-- What may stand in front of the elements of a set: a mark that negates it, and nothing. -/
def setFront : (fuel : Nat) → (negated : Bool) → Reading Bool
  | 0, negated => return negated
  | fuel + 1, negated => do
    let r ← get
    match r.rest with
    | '\\' :: 'E' :: cs => do
      goTo cs
      setFront fuel negated
    | '\\' :: 'Q' :: '\\' :: 'E' :: cs => do
      goTo cs
      setFront fuel negated
    | '^' :: cs =>
      if negated then return negated
      goTo cs
      setFront fuel true
    | c :: cs =>
      if r.flags.spacedSets && (c == ' ' || c == '\t') then
        goTo cs
        setFront fuel negated
      else return negated
    | [] => return negated

/-- A set behind its opening bracket. -/
def bracket : Reading Ordered := do
  let r ← get
  if ← accept "[:<:]]" then return .border .wordStart
  if ← accept "[:>:]]" then return .border .wordEnd
  match named? r.rest with
  | some (mark, _, _) => throw (if mark == ':' then .classOutsideSet else .collatingElement)
  | none =>
    let fuel := r.rest.length + 1
    let negated ← setFront fuel false
    let ranges ← elements fuel true .plain []
    return .one (setOf r.flags.ignoreCase negated ranges)

/-! ### Escapes outside of sets -/

/-- A byte itself. -/
def literal (c : Char) : Reading Ordered := do
  return .one (setOf ((← get).flags.ignoreCase && c.isAlpha) false [(c, c)])

/-- A reference to a group by name, behind the letter that announces it. -/
def nameEscape : Reading Ordered := do
  let r ← get
  let refer (close : Char) (cs : List Char) : Reading Ordered := do
    goTo cs
    return .taken (← referred (.name (← name close))) r.flags.ignoreCase
  match r.rest with
  | '\x7b' :: cs => refer '\x7d' cs
  | '<' :: cs => refer '>' cs
  | '\'' :: cs => refer '\'' cs
  | _ => throw .badNameEscape

/-- A reference to a group or a call of one, behind the letter that announces it. -/
def groupEscape : Reading Ordered := do
  let r ← get
  let call (close : Char) (cs : List Char) : Reading Ordered := do
    goTo cs
    match ← groupNumber? with
    | some n =>
      match ← rest with
      | c :: after =>
        if c != close then throw .badGroupEscape
        goTo after
        return .call (← referred (.number n))
      | [] => throw .badGroupEscape
    | none =>
      goTo cs
      return .call (← referred (.name (← name close)))
  let refer (n : Nat) : Reading Ordered := do
    if n = 0 then throw .noSuchGroup
    return .taken (← referred (.number n)) r.flags.ignoreCase
  match r.rest with
  | '<' :: cs => call '>' cs
  | '\'' :: cs => call '\'' cs
  | '\x7b' :: cs => do
    goTo cs
    match ← groupNumber? with
    | some n =>
      match ← rest with
      | '\x7d' :: after => do
        goTo after
        refer n
      | _ => throw .badGroupEscape
    | none => do
      goTo r.rest
      nameEscape
  | _ =>
    match ← groupNumber? with
    | some n => refer n
    | none => throw .badGroupEscape

/-- Every byte but a line feed. -/
def anyButFeed : ByteSet := { negated := true, ranges := [('\n', '\n')] }

/-- The two bytes that end a line together, or one of some bytes. -/
def pairOr (s : ByteSet) : Ordered :=
  .atomic (.alt (.seq (.one (.single '\r')) (.one (.single '\n'))) (.one s))

/-- An escape behind its backslash, and whether it can be repeated. -/
def escape : Reading (Ordered × Bool) := do
  let r ← get
  let after := r.rest.drop 1
  let border (b : Border) : Reading (Ordered × Bool) := do
    goTo after
    return (.border b, false)
  let item (a : Ordered) : Reading (Ordered × Bool) := do
    goTo after
    return (a, true)
  match r.rest with
  | 'b' :: _ => border (.word true)
  | 'B' :: _ => border (.word false)
  | 'A' :: _ => border (.lineStart false)
  | 'Z' :: _ => border .lastLineEnd
  | 'z' :: _ => border (.lineEnd false)
  | 'G' :: _ => border .searchStart
  | 'K' :: _ => do
    goTo after
    if r.looks > 0 then owe (.fault .keepInLook)
    return (.keep, false)
  | 'C' :: _ => item (.one .all)
  | 'R' :: _ => item (pairOr { ranges := (escape? 'v').getD [] })
  | 'X' :: _ => item (pairOr .all)
  | 'N' :: '\x7b' :: cs =>
    match ← counts? cs with
    | some _ => item (.one anyButFeed)
    | none =>
      match cs with
      | 'U' :: '+' :: _ => throw .codePointByNumber
      | _ => throw .unsupportedEscape
  | 'N' :: _ => item (.one anyButFeed)
  | 'g' :: _ => do
    goTo after
    return (← groupEscape, true)
  | 'k' :: _ => do
    goTo after
    return (← nameEscape, true)
  | cs =>
    let ds := cs.takeWhile Char.isDigit
    let n := valueOf 10 (10 * groupLimit) ds
    let first := ds.head?.getD '0'
    let refers := first != '0' &&
      (n < 10 || (first ≥ '8' && n ≤ 10 * groupLimit) || n ≤ r.groups)
    if refers then
      if n > groupLimit then throw .groupNumberTooBig
      goTo (cs.drop ds.length)
      return (.taken (← referred (.number n)) r.flags.ignoreCase, true)
    else match ← byteEscape? cs with
      | some (c, after) => do
        goTo after
        return (← literal c, true)
      | none =>
        match ← setEscape? cs with
        | some (ranges, after) => do
          goTo after
          return (.one { ranges }, true)
        | none => throw .unknownEscape

/-! ### Groups -/

/-- The inside of a group: its branches, up to what closes it. For a group whose branches number
their groups alike, the argument is true. -/
abbrev Inside := Bool → Reading (List Ordered)

/-- Branches as one expression. -/
def joined : List Ordered → Ordered
  | [] => .empty
  | [a] => a
  | a :: rest => .alt a (joined rest)

/-- The branches of a group up to the parenthesis that closes it. Settings that were changed inside
end with it. -/
def closed (inside : Inside) (alike : Bool) : Reading (List Ordered) := do
  let flags := (← get).flags
  let branches ← inside alike
  close .unclosedGroup
  modify fun r => { r with flags }
  return branches

/-- A group that takes what it matches, with or without a name. -/
def capture (inside : Inside) (title : Option String) : Reading Ordered := do
  let r ← get
  let n := r.groups + 1
  if let some title := title then
    let isOther := r.names.any fun (t, m) => t = title && m != n
    if isOther && !r.flags.repeatedNames then throw .repeatedName
    if r.names.any fun (t, m) => m = n && t != title then throw .severalNames
    set { r with groups := n, names := r.names ++ [(title, n)] }
  else set { r with groups := n }
  return .group n (joined (← closed inside false))

/-- A look ahead or behind. -/
def looking (inside : Inside) (isWanted isBehind : Bool) : Reading Ordered := do
  modify fun r => { r with looks := r.looks + 1 }
  let branches ← closed inside false
  modify fun r => { r with looks := r.looks - 1 }
  return .look isWanted (joined (if isBehind then branches.map .behind else branches))

/-- The letters of settings, up to what ends them. -/
def settings : (fuel : Nat) → (canNegate on : Bool) → Flags → Reading Flags
  | 0, _, _, flags => return flags
  | fuel + 1, canNegate, on, flags => do
    match ← rest with
    | [] => throw .unclosedGroup
    | ')' :: _ => return flags
    | ':' :: _ => return flags
    | '-' :: cs => do
      goTo cs
      if !canNegate then throw .secondHyphen
      settings fuel false false flags
    | 'x' :: 'x' :: cs => do
      goTo cs
      settings fuel canNegate on { flags with spaced := on, spacedSets := on }
    | c :: cs => do
      goTo cs
      let flags ← match c with
        | 'i' => pure { flags with ignoreCase := on }
        | 'm' => pure { flags with anyLine := on }
        | 's' => pure { flags with anyByte := on }
        | 'x' => pure { flags with spaced := on, spacedSets := false }
        | 'n' => pure { flags with plainGroups := on }
        | 'J' => pure { flags with repeatedNames := on }
        | 'U' => pure { flags with isLazy := on }
        | _ => throw .unknownGroupKind
      settings fuel canNegate on flags

/-- A group or settings for the rest of a group, behind the question mark. -/
def withSettings (inside : Inside) : Reading (Ordered × Bool) := do
  let r ← get
  let fuel := r.rest.length + 1
  let flags ← match r.rest with
    | '^' :: cs => do
      goTo cs
      settings fuel false true
        { r.flags with
          ignoreCase := false, anyLine := false, anyByte := false, spaced := false,
          spacedSets := false, plainGroups := false }
    | _ => settings fuel true true r.flags
  match ← rest with
  | ')' :: cs => do
    modify fun r => { r with rest := cs, flags }
    return (.empty, false)
  | cs => do
    modify fun r => { r with rest := cs.drop 1, flags }
    let a := joined (← closed inside false)
    modify fun s => { s with flags := r.flags }
    return (a, true)

/-- A call of a group by number. -/
def numberedCall : Reading (Ordered × Bool) := do
  match ← groupNumber? with
  | some n => do
    close .unclosedGroup
    return (.call (← referred (.number n)), true)
  | none => throw .digitExpected

/-- What a choice depends on, behind the parenthesis that opens it. -/
def condition : Reading Test := do
  let cs ← rest
  match ← groupNumber? with
  | some n => do
    if n = 0 then throw .noSuchGroup
    close .unclosedCondition
    return .taken (← referred (.number n))
  | none =>
    if ← accept "VERSION" then
      let isLeast ← accept ">"
      if !(← accept "=") then throw .badVersion
      let version ← takeWhile fun c => c.isDigit || c == '.'
      close .badVersion
      let parts := (Text.split '.' (String.ofList version)).map fun p => valueOf 10 1000 p.toList
      let value := 100 * parts.headD 0 + (parts.drop 1).headD 0
      return .constant (if isLeast then 1042 ≥ value else 1042 = value)
    match cs with
    | 'R' :: ')' :: after => do
      goTo after
      return .inside none
    | 'R' :: '&' :: after => do
      goTo after
      return .inside (some (← referred (.name (← name ')'))))
    | '<' :: after => do
      goTo after
      let n ← name '>'
      close .unclosedCondition
      return .taken (← referred (.name n))
    | '\'' :: after => do
      goTo after
      let n ← name '\''
      close .unclosedCondition
      return .taken (← referred (.name n))
    | cs =>
      let ds := (cs.drop 1).takeWhile Char.isDigit
      if cs.head? == some 'R' && !ds.isEmpty && (cs.drop (1 + ds.length)).head? == some ')' then
        goTo (cs.drop (2 + ds.length))
        return .inside (some (← referred (.number (valueOf 10 groupLimit ds))))
      let n ← name ')'
      if n = "DEFINE" then return .constant false
      return .taken (← referred (.name n))

/-- A choice behind the parenthesis that opens its condition. `look` reads a group. -/
def choice (inside : Inside) (group : Reading (Ordered × Bool)) : Reading (Ordered × Bool) := do
  let cs ← rest
  let finish (isDefinition : Bool) (make : Ordered → Ordered → Ordered) :
      Reading (Ordered × Bool) := do
    match ← closed inside false with
    | [yes] => return (make yes .empty, true)
    | yes :: no :: more => do
      if isDefinition then owe (.fault .tooManyDefined)
      else if !more.isEmpty then owe (.fault .tooManyBranches)
      return (make yes (joined (no :: more)), true)
    | [] => return (.empty, true)
  match cs with
  | [] => throw .unclosedGroup
  | c :: _ =>
    if c == '?' || c == '*' then
      let isLook := ["?=", "?!", "?*", "?<=", "?<!", "?<*", "?C"].any fun t =>
        Text.startsWith t (String.ofList (cs.take 3))
      if c == '?' && !isLook then throw .assertionExpected
      match ← group with
      | (.look isWanted a, _) => finish false (.chooseLook (.look isWanted a))
      | _ => throw .assertionExpected
    else
      let isDefinition := Text.startsWith "DEFINE)" (String.ofList (cs.take 7))
      let t ← condition
      finish isDefinition (.choose t)

/-- A mark that calls something outside, which is nobody here. -/
def callout : Reading (Ordered × Bool) := do
  match ← rest with
  | ')' :: cs => do
    goTo cs
    return (.empty, false)
  | c :: cs =>
    if c.isDigit then
      let ds ← takeWhile Char.isDigit
      if valueOf 10 255 ds > 255 then throw .calloutTooBig
      close .unclosedCallout
      return (.empty, false)
    else if "\x60'\"^%#$\x7b".toList.contains c then
      let last := if c == '\x7b' then '\x7d' else c
      match cs.dropWhile (· != last) with
      | _ :: after => do
        goTo after
        close .unclosedCallout
        return (.empty, false)
      | [] => throw .unclosedCalloutText
    else throw .badCalloutText
  | [] => throw .unclosedGroup

/-- The verb of a name; `none` for a mark. -/
def verb? : String → Option (Option Verb)
  | "" => some none
  | "MARK" => some none
  | "ACCEPT" => some (some .accept)
  | "F" => some (some .fail)
  | "FAIL" => some (some .fail)
  | "COMMIT" => some (some .commit)
  | "PRUNE" => some (some .prune)
  | "SKIP" => some (some .skip)
  | "THEN" => some (some .next)
  | _ => none

/-- A verb, or a group whose kind is written out, behind the star. -/
def starred (inside : Inside) : Reading (Ordered × Bool) := do
  let cs ← rest
  if cs.head?.any Char.isLower then
    let kind := String.ofList (← takeWhile isNameChar)
    if kind.length > 32 then throw .nameTooLong
    if !(← accept ":") then throw .unknownAssertion
    let look (isWanted isBehind : Bool) : Reading (Ordered × Bool) := do
      return (← looking inside isWanted isBehind, true)
    match kind with
    | "pla" => look true false
    | "positive_lookahead" => look true false
    | "napla" => look true false
    | "non_atomic_positive_lookahead" => look true false
    | "nla" => look false false
    | "negative_lookahead" => look false false
    | "plb" => look true true
    | "positive_lookbehind" => look true true
    | "naplb" => look true true
    | "non_atomic_positive_lookbehind" => look true true
    | "nlb" => look false true
    | "negative_lookbehind" => look false true
    | "atomic" => return (.atomic (joined (← closed inside false)), true)
    | "asr" => return (.atomic (joined (← closed inside false)), true)
    | "atomic_script_run" => return (.atomic (joined (← closed inside false)), true)
    | "sr" => return (joined (← closed inside false), true)
    | "script_run" => return (joined (← closed inside false), true)
    | _ => throw .unknownAssertion
  else
    let title := String.ofList (← takeWhile isNameChar)
    if title.length > 32 then throw .nameTooLong
    let next := (← rest).head?
    match if next == some ':' || next == some ')' then verb? title else none with
    | none => throw .unknownVerb
    | some v =>
      let text ← if ← accept ":" then takeWhile (· != ')') else pure []
      if v.isNone && text.isEmpty then throw .markWithoutName
      close .unknownVerb
      return (v.elim .empty .verb, v == some .accept)

/-- A group behind its opening parenthesis, and whether it can be repeated. The fuel bounds how many
conditions are nested without anything between them. -/
def group (inside : Inside) : (fuel : Nat) → Reading (Ordered × Bool)
  | 0 => throw .tooDeep
  | fuel + 1 => do
    let cs ← rest
    let plain (cs : List Char) (make : Ordered → Ordered) (alike : Bool) :
        Reading (Ordered × Bool) := do
      goTo cs
      return (make (joined (← closed inside alike)), true)
    let look (cs : List Char) (isWanted isBehind : Bool) : Reading (Ordered × Bool) := do
      goTo cs
      return (← looking inside isWanted isBehind, true)
    let titled (cs : List Char) (close : Char) : Reading (Ordered × Bool) := do
      goTo cs
      let title ← name close
      return (← capture inside (some title), true)
    match cs with
    | '*' :: [] => throw .nothingToRepeat
    | '*' :: ')' :: _ => throw .nothingToRepeat
    | '*' :: cs => do
      goTo cs
      starred inside
    | '?' :: [] => throw .unclosedGroup
    | '?' :: ':' :: cs => plain cs id false
    | '?' :: '>' :: cs => plain cs .atomic false
    | '?' :: '|' :: cs => plain cs id true
    | '?' :: '=' :: cs => look cs true false
    | '?' :: '*' :: cs => look cs true false
    | '?' :: '!' :: cs => look cs false false
    | '?' :: '<' :: '=' :: cs => look cs true true
    | '?' :: '<' :: '*' :: cs => look cs true true
    | '?' :: '<' :: '!' :: cs => look cs false true
    | '?' :: '<' :: cs => titled cs '>'
    | '?' :: '\'' :: cs => titled cs '\''
    | '?' :: 'P' :: [] => throw .unclosedGroup
    | '?' :: 'P' :: '<' :: cs => titled cs '>'
    | '?' :: 'P' :: '=' :: cs => do
      goTo cs
      let ignoreCase := (← get).flags.ignoreCase
      return (.taken (← referred (.name (← name ')'))) ignoreCase, true)
    | '?' :: 'P' :: '>' :: cs => do
      goTo cs
      return (.call (← referred (.name (← name ')'))), true)
    | '?' :: 'P' :: _ => throw .unknownNamedKind
    | '?' :: '&' :: cs => do
      goTo cs
      return (.call (← referred (.name (← name ')'))), true)
    | '?' :: 'R' :: cs => do
      goTo cs
      close .unclosedCall
      return (.call (.number 0), true)
    | '?' :: 'C' :: cs => do
      goTo cs
      callout
    | '?' :: '(' :: cs => do
      goTo cs
      choice inside (group inside fuel)
    | '?' :: '+' :: cs => do
      goTo ('+' :: cs)
      numberedCall
    | '?' :: c :: cs =>
      if c.isDigit || (c == '-' && cs.head?.any Char.isDigit) then
        goTo (c :: cs)
        numberedCall
      else
        goTo (c :: cs)
        withSettings inside
    | _ =>
      if (← get).flags.plainGroups then plain cs id false
      else return (← capture inside none, true)

/-! ### Branches -/

/-- The next part of a branch, and whether it can be repeated. -/
def atom (inside : Inside) : Reading (Ordered × Bool) := do
  let r ← get
  match r.quoting, r.rest with
  | _, [] => return (.empty, false)
  | true, c :: cs => do
    goTo cs
    return (← literal c, true)
  | false, '\\' :: cs => do
    goTo cs
    escape
  | false, '[' :: cs => do
    goTo cs
    match ← bracket with
    | .border b => return (.border b, false)
    | a => return (a, true)
  | false, '(' :: cs => do
    goTo cs
    group inside (cs.length + 1)
  | false, '.' :: cs => do
    goTo cs
    return (.one (if r.flags.anyByte then .all else anyButFeed), true)
  | false, '^' :: cs => do
    goTo cs
    return (.border (.lineStart r.flags.anyLine), false)
  | false, '$' :: cs => do
    goTo cs
    return (.border (.lineEnd r.flags.anyLine), false)
  | false, c :: cs => do
    if (← repetition?).isSome then throw .nothingToRepeat
    goTo cs
    return (← literal c, true)

/-- Whether a branch goes on. -/
def goesOn : Reading Bool := do
  skipAll
  let r ← get
  match r.rest with
  | [] => return false
  | c :: _ => return r.quoting || (c != '|' && c != ')')

/-- A branch behind what was read of it. -/
def branchFrom (inside : Inside) : (fuel : Nat) → Ordered → Reading Ordered
  | 0, a => return a
  | fuel + 1, a => do
    if ← goesOn then
      let (b, canRepeat) ← atom inside
      branchFrom inside fuel (.seq a (← repeated b canRepeat))
    else return a

/-- Branches up to what closes a group. With `alike`, each numbers its groups from `first` on, and
the groups behind them from `last` on. -/
def branches (inside : Inside) (alike : Bool) (first : Nat) : (fuel last : Nat) →
    Reading (List Ordered)
  | 0, _ => return []
  | fuel + 1, last => do
    let a ← branchFrom inside ((← rest).length + 1) .empty
    let last := max last (← get).groups
    match ← rest with
    | '|' :: cs => do
      goTo cs
      if alike then modify fun r => { r with groups := first }
      return a :: (← branches inside alike first fuel last)
    | _ => do
      modify fun r => { r with groups := last }
      return [a]

/-- The branches of an expression; the fuel bounds how deep groups are nested. -/
def expression : (fuel : Nat) → Inside
  | 0, _ => throw .tooDeep
  | fuel + 1, alike => do
    let r ← get
    branches (expression fuel) alike r.groups (r.rest.length + 1) 0

/-! ### Whole expressions -/

/-- Settings that may stand in front of an expression; they have no effect on lines of bytes. -/
def frontSettings : List String :=
  ["UTF)", "UCP)", "NO_JIT)", "NO_AUTO_POSSESS)", "NO_DOTSTAR_ANCHOR)", "NO_START_OPT)",
   "NOTEMPTY)", "NOTEMPTY_ATSTART)", "CRLF)", "CR)", "LF)", "ANYCRLF)", "ANY)", "NUL)",
   "BSR_ANYCRLF)", "BSR_UNICODE)"]

/-- An expression behind the settings in front of it. -/
def behindSettings : (fuel : Nat) → List Char → List Char
  | 0, cs => cs
  | fuel + 1, cs =>
    match cs with
    | '(' :: '*' :: inner =>
      match frontSettings.find? fun t => Text.startsWith t (String.ofList inner) with
      | some t => behindSettings fuel (inner.drop t.length)
      | none => cs
    | _ => cs

/-- What is wrong with an expression as a whole: a look behind without a width, what was kept for
later, and last of all choices with too many branches. -/
def check (p : Pattern) (owed : List Owed) : Except Fault Unit := do
  for a in p.root.subterms do
    if let .behind b := a then
      if (← p.width b) > groupLimit then throw .widthTooLarge
  let isLast (f : Fault) : Bool := f = .tooManyDefined || f = .tooManyBranches
  for o in owed do
    match o with
    | .fault f => if !isLast f then throw f
    | .group r => if (r.numbers p.names).all (· > p.groups) then throw .noSuchGroup
  for o in owed do
    if let .fault f := o then throw f

end Reading

/-- Read an expression. -/
def Pattern.read (flags : Flags) (text : List Char) : Except Fault Pattern := do
  let cs := Reading.behindSettings text.length text
  let (branches, r) ←
    (Reading.expression (Reading.nestingLimit + 1) false).run { rest := cs, flags }
  if !r.rest.isEmpty then throw .unopenedGroup
  let p : Pattern := { root := Reading.joined branches, groups := r.groups, names := r.names }
  Reading.check p r.owed
  return p

end Ordered

end Scaffold
