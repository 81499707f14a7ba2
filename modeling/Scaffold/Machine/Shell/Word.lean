import Scaffold.Machine.Shell.Reader

/-!
# Reading words

Words are read zone by zone: quotation marks, braces behind a dollar sign, arithmetic and texts
behind a command have rules of their own for which characters are special, what a backslash does and
where they end. Commands inside of words are read by a function that is handed in.
-/

namespace Scaffold

namespace Shell

/-- Where in a word a character stands. -/
inductive Zone where
  | word
  /-- The word that ends a text behind a command; dollar signs and backquotes stand for themselves.
  -/
  | delimiter
  /-- Between quotation marks, inside of braces or not. -/
  | quotes (inBrace : Bool)
  /-- Between braces. -/
  | brace (quoted : Bool)
  /-- Between quotation marks that are inside of quoted braces. -/
  | innerQuotes
  /-- In an arithmetic expression, behind so many open parentheses. -/
  | arithmetic (depth : Nat)
  /-- In a text behind a command. -/
  | here
deriving DecidableEq, Repr, Inhabited

namespace Zone

/-- Whether what stands in a zone is quoted. -/
def quoted : Zone → Bool
  | .word => false
  | .delimiter => false
  | .brace q => q
  | _ => true

/-- Whether a closing brace can be escaped. -/
def inBrace : Zone → Bool
  | .quotes b => b
  | .brace _ => true
  | .innerQuotes => true
  | _ => false

/-- Whether a character ends a zone. -/
def endsAt : Zone → Char → Bool
  | .word, c => "\n<>();&| \t".toList.contains c
  | .delimiter, c => "\n<>();&| \t".toList.contains c
  | .quotes _, c => c == '"'
  | .brace _, c => c == '\x7d'
  | .innerQuotes, c => c == '"'
  | .arithmetic _, _ => false
  | .here, _ => false

/-- What is wrong if a script ends inside of a zone. -/
def unended (inText : Bool) : Zone → String
  | .arithmetic _ => "Missing '))'"
  | .brace false => "Missing '\x7d'"
  | _ => if inText then "Missing '\x7d'" else "Unterminated quoted string"

end Zone

/-- Characters that are never special. -/
def isOrdinary (c : Char) : Bool := !"\n\\'\"\x60$\x7d<>();&| \t".toList.contains c

/-- Parameters that have a character for a name. -/
def isSpecial (c : Char) : Bool := "@*#?-$!".toList.contains c || c.isDigit

/-- Join neighbouring literal parts. -/
def joinLiterals : List Part → List Part
  | .literal q s :: rest =>
    match joinLiterals rest with
    | .literal q' s' :: rest =>
      if q = q' then .literal q (s ++ s') :: rest else .literal q s :: .literal q' s' :: rest
    | rest => .literal q s :: rest
  | p :: rest => p :: joinLiterals rest
  | [] => []

/-- What stands between quotation marks. All arguments alone need no marks. -/
def marked : List Part → List Part
  | [.parameter true "@" .value []] => [.parameter true "@" .value []]
  | inside => .mark :: inside ++ [.mark]

namespace Reading

/-- At the start of a line of a text behind a command, see whether it ends there. -/
def checkEnd (a : Awaited) : Reading Unit := do
  if a.stripTabs then advance ((← get).rest.takeWhile (· == '\t')).length
  let r ← get
  match Chars.stripPrefix? a.delimiter.toList r.rest with
  | some [] => set { r with rest := [], line := r.line + 1, closed := true }
  | some ('\n' :: rest) => set { r with rest, line := r.line + 1, closed := true }
  | _ => pure ()

/-- Note that some of the word was quoted. -/
def noteQuoted : Reading Unit := modify fun r => { r with quoted := true }

/-- The text between single quotes, behind the first one. -/
def singleQuoted (inText : Bool) : Reading String := do
  let cs := (← get).rest
  let text := cs.takeWhile (· != '\x27')
  if text.length = cs.length then
    advance text.length
    refuse (Zone.unended inText (.quotes false))
  else
    advance (text.length + 1)
    noteQuoted
    return String.ofList text

/-- The text between backquotes, behind the first one. -/
def backquoted (quoted : Bool) : (fuel : Nat) → Reading (List Char)
  | 0 => refuse "EOF in backquote substitution"
  | fuel + 1 => do
    match ← take with
    | none => refuse "EOF in backquote substitution"
    | some '\x60' => return []
    | some '\\' =>
      match (← get).rest.head? with
      | none => return '\\' :: (← backquoted quoted fuel)
      | some c =>
        advance 1
        if c == '\\' || c == '\x60' || c == '$' || (quoted && c == '"') then
          return c :: (← backquoted quoted fuel)
        else return '\\' :: c :: (← backquoted quoted fuel)
    | some c => return c :: (← backquoted quoted fuel)

/-- What follows a backslash. -/
def escaped (inText : Bool) (zone : Zone) : Reading (List Part) := do
  match (← get).rest with
  | [] => return [.literal true "\\"]
  | c :: _ =>
    advance 1
    noteQuoted
    let kept := zone.quoted && !"\\\x60$".toList.contains c &&
      (c != '"' || (inText && !zone.inBrace)) && (c != '\x7d' || !zone.inBrace)
    let here := Part.literal true (String.singleton c)
    return if kept then [.literal true "\\", here] else [here]

/-- The name of a parameter that is a name or a number. -/
def parameterName (c : Char) : Reading String := do
  let belongs := if isNameStart c then isNameChar else Char.isDigit
  return String.ofList (← takeWhile belongs repetitions)

/-- The treatment that comes behind the name of a parameter. There is none behind a parameter that
ends there. -/
def treatment? : Reading (Option Treatment) := do
  match ← take with
  | some '\x7d' => return none
  | some '-' => return some (.fallback false)
  | some '+' => return some (.replaced false)
  | some '?' => return some (.demanded false)
  | some '=' => return some (.assigned false)
  | some '%' => return some (.withoutEnd (← accept '%'))
  | some '#' => return some (.withoutStart (← accept '#'))
  | some ':' =>
    match ← take with
    | some '-' => return some (.fallback true)
    | some '+' => return some (.replaced true)
    | some '?' => return some (.demanded true)
    | some '=' => return some (.assigned true)
    | some '\x7d' => return some .value
    | _ => return some .malformed
  | _ => return some .malformed

/-- A parameter behind its opening brace: its name, and its treatment unless it ends there. -/
def bracedParameter : Reading (String × Option Treatment) := do
  match ← peek with
  | some '#' =>
    advance 1
    match ← peek with
    | some c =>
      if isNameChar c then
        let name ← parameterName c
        return (name, some (if (← peek) == some '\x7d' then .length else .malformed))
      else
        -- A special character is measured if nothing stands behind it.
        let r ← get
        advance 1
        let behind ← peek
        if c != '\x7d' && behind == some '\x7d' then
          return (String.singleton c, some (if isSpecial c then .length else .malformed))
        else
          set r
          return ("#", ← treatment?)
    | none => return ("#", some .malformed)
  | some c =>
    if isNameChar c then
      let name ← parameterName c
      return (name, ← treatment?)
    else if c == '\x7d' then return ("", some .malformed)
    else
      advance 1
      if isSpecial c then return (String.singleton c, ← treatment?)
      else return ("", some .malformed)
  | none => return ("", some .malformed)

/-- What is read inside of words: commands, and the parts of a zone. -/
structure Inner where
  /-- Commands up to a closing parenthesis, or up to the end of a text. -/
  commands : (closed : Bool) → Reading (Option Command)
  parts : Zone → Reading (List Part)
  /-- The text behind a command that is being read. -/
  text? : Option Awaited

/-- Read commands inside of a word. -/
def substitution (x : Reading (Option Command)) : Reading (Option Command) := do
  let outer ← get
  set { outer with awaited := [] }
  let c ← x
  modify fun r => { r with awaited := outer.awaited, quoted := outer.quoted, pushed := false }
  return c

/-- The rest of a parameter in braces. -/
def braced (inner : Inner) (zone : Zone) : Reading (List Part) := do
  let (name, how) ← bracedParameter
  match how with
  | none => return [.parameter zone.quoted name .value []]
  | some how =>
    let inside := Zone.brace (zone.quoted && !how.hasPattern)
    let other ← inner.parts inside
    if ← accept '\x7d' then return [.parameter zone.quoted name how (joinLiterals other)]
    else refuse (inside.unended inner.text?.isSome)

/-- What follows a dollar sign. -/
def dollar (inner : Inner) (zone : Zone) : Reading (List Part) := do
  match ← peek with
  | some '(' =>
    advance 1
    if ← accept '(' then
      let expression ← inner.parts (.arithmetic 0)
      if ← accept ')' then return [.arithmetic zone.quoted (joinLiterals expression)]
      else refuse (Zone.unended false (.arithmetic 0))
    else return [.output zone.quoted (← substitution (inner.commands true))]
  | some '\x7b' =>
    advance 1
    braced inner zone
  | some c =>
    if isNameStart c then return [.parameter zone.quoted (← parameterName c) .value []]
    else if isSpecial c then
      advance 1
      return [.parameter zone.quoted (String.singleton c) .value []]
    else return [.literal zone.quoted "$"]
  | none => return [.literal zone.quoted "$"]

/-- What stands between quotation marks, behind the first one. -/
def doubleQuoted (inner : Inner) (inside : Zone) : Reading (List Part) := do
  let parts ← inner.parts inside
  if ← accept '"' then
    noteQuoted
    return marked (joinLiterals parts)
  else refuse (inside.unended inner.text?.isSome)

/-- Go on in a zone behind a special character that was taken: the parts it stands for, and the
zone to go on in; there is none at the end of a zone. -/
def special (inner : Inner) (zone : Zone) (c : Char) : Reading (List Part × Option Zone) := do
  let literal : List Part := [.literal zone.quoted (String.singleton c)]
  match c with
  | '\\' => return (← escaped inner.text?.isSome zone, some zone)
  | '\n' =>
    match inner.text? with
    | some a => checkEnd a
    | none => pure ()
    return (literal, some zone)
  | '$' => return (← if zone = .delimiter then pure literal else dollar inner zone, some zone)
  | '\x60' =>
    if zone = .delimiter then return (literal, some zone)
    let text ← backquoted zone.quoted repetitions
    return ([.output zone.quoted (← within text (inner.commands false))], some zone)
  | '\x27' =>
    if zone.quoted then return (literal, some zone)
    return ([.mark, .literal true (← singleQuoted inner.text?.isSome), .mark], some zone)
  | '"' =>
    match zone with
    | .word => return (← doubleQuoted inner (.quotes false), some zone)
    | .delimiter => return (← doubleQuoted inner (.quotes false), some zone)
    | .brace false => return (← doubleQuoted inner (.quotes true), some zone)
    | .brace true => return (← doubleQuoted inner .innerQuotes, some zone)
    | _ => return (literal, some zone)
  | '(' =>
    match zone with
    | .arithmetic depth => return (literal, some (.arithmetic (depth + 1)))
    | _ => return (literal, some zone)
  | ')' =>
    match zone with
    | .arithmetic 0 => return if (← peek) == some ')' then ([], none) else (literal, some zone)
    | .arithmetic (depth + 1) => return (literal, some (.arithmetic depth))
    | _ => return (literal, some zone)
  | _ => return (literal, some zone)

/-- The parts of a zone up to what ends it, which is left. -/
def parts (commands : Bool → Reading (Option Command)) (text? : Option Awaited) :
    (fuel : Nat) → Zone → Reading (List Part)
  | 0, zone => refuse (zone.unended text?.isSome)
  | fuel + 1, zone => do
    match ← peek with
    | none => return []
    | some c =>
      if zone.endsAt c then return []
      else if isOrdinary c then
        let run := (← get).rest.takeWhile isOrdinary
        advance run.length
        return .literal zone.quoted (String.ofList run) :: (← parts commands text? fuel zone)
      else
        advance 1
        let inner : Inner := { commands, text?, parts := parts commands text? fuel }
        match ← special inner zone c with
        | (here, some zone) => return here ++ (← parts commands text? fuel zone)
        | (here, none) => return here

/-- Read a word or a delimiter, and say whether some of it is quoted. -/
def readWord (commands : Bool → Reading (Option Command)) (zone : Zone) :
    Reading (Word × Bool) := do
  modify fun r => { r with quoted := false }
  let w ← parts commands none repetitions zone
  return (joinLiterals w, (← get).quoted)

/-! ### Texts behind a command -/

/-- The lines of a quoted text up to its delimiter. -/
def quotedLines (a : Awaited) : (fuel : Nat) → Reading (List Char)
  | 0 => return []
  | fuel + 1 => do
    checkEnd a
    let r ← get
    if r.closed || r.rest.isEmpty then return []
    let line := r.rest.takeWhile (· != '\n')
    let line := line ++ (r.rest.drop line.length).take 1
    advance line.length
    return line ++ (← quotedLines a fuel)

/-- Read the texts that a line waits for. -/
def readTexts (commands : Bool → Reading (Option Command)) : List Awaited → Reading Unit
  | [] => pure ()
  | a :: more => do
    let body ←
      if a.quoted then do
        pure [Part.literal true (String.ofList (← quotedLines a repetitions))]
      else do
        checkEnd a
        pure (joinLiterals (← parts commands (some a) repetitions .here))
    modify fun r =>
      { r with closed := false, texts := (a.id, { quoted := a.quoted, body }) :: r.texts }
    readTexts commands more

/-- The text that a delimiter is. -/
def delimiterText (w : Word) : String :=
  Text.join "" (w.map fun
    | .literal _ text => text
    | _ => "")

end Reading

end Shell

end Scaffold
