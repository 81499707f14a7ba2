import Scaffold.Machine.Shell.Word

/-!
# The grammar of shell scripts

A script is read line by line, so what stands before a mistake is still carried out:
`Shell.nextLine` reads the commands of one line and gives the reader to go on with. Tokens are read
on demand, because what a word means depends on where it is expected: a keyword, an abbreviation or
just a word.
-/

namespace Scaffold

namespace Shell

/-- What a token is looked at for. -/
structure Check where
  /-- Line ends are skipped. -/
  newlines : Bool := false
  keywords : Bool := false
  abbreviations : Bool := false
  /-- A word ends a text behind a command. -/
  delimiter : Bool := false
deriving Inhabited

namespace Check

/-- Where a command starts. -/
def command : Check := { keywords := true, abbreviations := true }

/-- Where a command starts, possibly on a later line. -/
def laterCommand : Check := { newlines := true, keywords := true, abbreviations := true }

/-- Where a keyword or a pattern starts, possibly on a later line. -/
def laterWord : Check := { newlines := true, keywords := true }

end Check

/-- How a list of commands ends. -/
inductive Extent where
  /-- With the line. -/
  | line
  /-- With a keyword or a parenthesis, behind at least one command. -/
  | block
  /-- With a keyword or a parenthesis, possibly at once. -/
  | tail
deriving DecidableEq, Repr, Inhabited

namespace Reading

/-! ### Tokens -/

/-- Read the next token again. -/
def pushBack : Reading Unit := modify fun r => { r with pushed := true }

/-- Skip blanks and a comment. -/
def skipBlanks : (fuel : Nat) → Reading Unit
  | 0 => pure ()
  | fuel + 1 => do
    match ← peek with
    | some ' ' =>
      advance 1
      skipBlanks fuel
    | some '\t' =>
      advance 1
      skipBlanks fuel
    | some '#' =>
      advance ((← get).rest.takeWhile (· != '\n')).length
      skipBlanks fuel
    | _ => pure ()

/-- A redirection behind its channel; its target is still to be read. -/
def operator (channel? : Option Nat) : Reading Token := do
  let give (r : Redirect) : Reading Token := do
    modify fun s => { s with redirect := r }
    return .redirection
  if ← accept '>' then
    let channel := channel?.getD 1
    if ← accept '>' then give (.file channel .append [])
    else if ← accept '|' then give (.file channel .clobber [])
    else if ← accept '&' then give (.copy channel [])
    else give (.file channel .write [])
  else
    advance 1
    let channel := channel?.getD 0
    if ← accept '<' then
      let stripTabs ← accept '-'
      modify fun s => { s with stripTabs, count := s.count + 1 }
      give (.here channel (← get).count)
    else if ← accept '&' then give (.copy channel [])
    else if ← accept '>' then give (.file channel .readWrite [])
    else give (.file channel .read [])

section Commands

variable (list : Extent → Reading (Option Command))

/-- A word, or a redirection behind its channel. -/
def wordToken (commands : Bool → Reading (Option Command)) (delimiter : Bool) : Reading Token := do
  let (w, quoted) ← readWord commands (if delimiter then .delimiter else .word)
  let next ← peek
  let atOperator := (next == some '<' || next == some '>') && !quoted
  match if atOperator then plainWord? w else none with
  | some "" => operator none
  | some text =>
    match text.toList with
    | [c] =>
      if c.isDigit then return ← operator (some (c.toNat - '0'.toNat))
    | _ => pure ()
    modify fun r => { r with word := w, quoted }
    return .word
  | none =>
    modify fun r => { r with word := w, quoted }
    return .word

/-- Read a token from the text. -/
def freshToken (commands : Bool → Reading (Option Command)) (delimiter : Bool) : Reading Token := do
  skipBlanks repetitions
  match ← peek with
  | none => return .fileEnd
  | some '\n' =>
    advance 1
    return .newline
  | some '&' =>
    advance 1
    return if ← accept '&' then .both else .ampersand
  | some '|' =>
    advance 1
    return if ← accept '|' then .either else .pipe
  | some ';' =>
    advance 1
    return if ← accept ';' then .caseEnd else .semicolon
  | some '(' =>
    advance 1
    return .opening
  | some ')' =>
    advance 1
    return .closing
  | some _ => wordToken commands delimiter

/-- Whether reading went past abbreviations that end in a blank since so much was left. -/
def passedBlank (before : Nat) : Reading Bool := do
  let r ← get
  let n := r.rest.length
  return r.active.any fun a => a.blank && a.behind < before && n ≤ a.behind

/-- The text that a word abbreviates, unless it is being read already. -/
def abbreviation? (name : String) : Reading (Option String) := do
  let r ← get
  let n := r.rest.length
  if r.active.any fun a => a.name == name && n ≥ a.behind then return none
  return r.abbreviations.get? name

/-- Put the text of an abbreviation in front of what is left. -/
def unfold (name text : String) : Reading Unit :=
  modify fun r =>
    let n := r.rest.length
    let frame : Abbreviated :=
      { name, behind := n, blank := Text.endsWith " " text || Text.endsWith "\t" text }
    { r with rest := text.toList ++ r.rest,
             active := frame :: r.active.filter fun a => a.behind ≤ n }

/-- Commands inside of a word. -/
def innerCommands (token : Check → Reading Token) (closed : Bool) : Reading (Option Command) := do
  let c ← list .tail
  if closed then
    if (← token {}) != .closing then expecting .closing
  return c

/-- The next token, looked at for what it could be. -/
def tokenWithin : (fuel : Nat) → Check → Reading Token
  | 0, _ => return .fileEnd
  | fuel + 1, check => do
    let commands := innerCommands list (tokenWithin fuel)
    let wasPushed := (← get).pushed
    let before := (← get).rest.length
    let fresh : Reading Token := do
      let t ← freshToken commands check.delimiter
      modify fun r => { r with token := t }
      return t
    let t ←
      if wasPushed then do
        modify fun r => { r with pushed := false }
        pure (← get).token
      else fresh
    if check.newlines && t = .newline then
      -- Texts that the line waits for come before the next token.
      let awaited := (← get).awaited
      modify fun r => { r with awaited := [] }
      readTexts commands awaited
      tokenWithin fuel check
    else
      let r ← get
      match t, plainWord? r.word with
      | .word, some text =>
        if r.quoted then return t
        else if check.keywords && Token.keywords.contains text then
          set { r with token := .keyword text }
          return .keyword text
        else if check.abbreviations || (!wasPushed && (← passedBlank before)) then
          match ← abbreviation? text with
          | some replacement =>
            unfold text replacement
            tokenWithin fuel { check with abbreviations := true }
          | none => return t
        else return t
      | _, _ => return t

/-- The next token, looked at for what it could be. -/
def token (check : Check) : Reading Token := tokenWithin list repetitions check

/-- Read the texts that a line waits for. -/
def awaitedTexts : Reading Unit := do
  let awaited := (← get).awaited
  modify fun r => { r with awaited := [] }
  readTexts (innerCommands list (token list)) awaited

/-- Expect a token. -/
def expect (t : Token) : Reading Unit := do
  if (← token list {}) != t then expecting t

/-! ### Redirections -/

/-- The target of the redirection that was read last. -/
def target : Reading Redirect := do
  let r ← get
  let isHere := match r.redirect with
    | .here _ _ => true
    | _ => false
  if (← token list { delimiter := isHere }) != .word then unexpected
  let s ← get
  match r.redirect with
  | .file channel mode _ => return .file channel mode s.word
  | .copy channel _ => return .copy channel s.word
  | .here channel id =>
    let awaited : Awaited :=
      { id, delimiter := delimiterText s.word, stripTabs := r.stripTabs, quoted := s.quoted }
    set { s with awaited := s.awaited ++ [awaited] }
    return .here channel id

/-- The redirections that follow a command. -/
def redirects : (fuel : Nat) → Reading (List Redirect)
  | 0 => return []
  | fuel + 1 => do
    if (← token list Check.command) = .redirection then
      let r ← target list
      return r :: (← redirects fuel)
    else
      pushBack
      return []

/-! ### Simple commands -/

/-- Pieces of a simple command. -/
structure Pieces where
  assignments : List (String × Word) := []
  words : List Word := []
  redirects : List Redirect := []
deriving Inhabited

/-- The commands of the shell that no function can be named after. -/
def reserved : List String :=
  [".", ":", "break", "continue", "eval", "exec", "exit", "export", "local", "readonly", "return",
   "set", "shift", "times", "trap", "unset"]

/-- Read a simple command or the definition of a function. `command` reads the body. -/
def pieces (command : Check → Reading Command) (line : Nat) :
    (fuel : Nat) → Pieces → Reading Command
  | 0, _ => unexpected
  | fuel + 1, p => do
    let isFirst := p.words.isEmpty
    match ← token list { abbreviations := isFirst } with
    | .word =>
      let w := (← get).word
      match if isFirst then assignment? w else none with
      | some a => pieces command line fuel { p with assignments := p.assignments ++ [a] }
      | none => pieces command line fuel { p with words := p.words ++ [w] }
    | .redirection =>
      let r ← target list
      pieces command line fuel { p with redirects := p.redirects ++ [r] }
    | t =>
      match t, p with
      | .opening, { assignments := [], words := [w], redirects := [] } =>
        expect list .closing
        match plainWord? w with
        | some name =>
          if !isName name || reserved.contains name then refuse "Bad function name"
          return .define name (← command Check.laterCommand)
        | none => refuse "Bad function name"
      | _, _ =>
        pushBack
        return .simple line p.assignments p.words p.redirects

/-! ### Compound commands -/

/-- Commands of which there has to be at least one. There is none only at the end of a script, where
what has to follow is missing too. -/
def block : Reading Command := do return (← list .block).getD default

/-- The branches of a condition, behind its first word. -/
def branches : (fuel : Nat) → Reading Command
  | 0 => unexpected
  | fuel + 1 => do
    let condition ← block list
    expect list (.keyword "then")
    let body ← block list
    match ← token list {} with
    | .keyword "elif" => return .branch condition body (some (← branches fuel))
    | .keyword "else" => return .branch condition body (some (← block list))
    | _ =>
      pushBack
      return .branch condition body none

/-- A loop behind its first word. -/
def loop (positive : Bool) : Reading Command := do
  let condition ← block list
  expect list (.keyword "do")
  return .loop positive condition (← block list)

/-- The words of an iteration. -/
def iterationWords : (fuel : Nat) → Reading (List Word)
  | 0 => unexpected
  | fuel + 1 => do
    match ← token list {} with
    | .word =>
      let w := (← get).word
      return w :: (← iterationWords fuel)
    | .newline => return []
    | .semicolon => return []
    | _ => unexpected

/-- An iteration behind its first word. -/
def iteration (line : Nat) : Reading Command := do
  let t ← token list {}
  let r ← get
  match t, plainWord? r.word with
  | .word, some name =>
    if r.quoted || !isName name then refuse "Bad for loop variable"
    let words ←
      match ← token list Check.laterCommand with
      | .keyword "in" => iterationWords list repetitions
      | t => do
        if t != .semicolon then pushBack
        pure [[.parameter true "@" .value []]]
    if (← token list Check.laterCommand) != .keyword "do" then expecting (.keyword "do")
    return .iterate line name words (← block list)
  | _, _ => refuse "Bad for loop variable"

/-- The patterns of a case, from the first one on. -/
def patterns : (fuel : Nat) → Reading (List Word)
  | 0 => unexpected
  | fuel + 1 => do
    let w := (← get).word
    if (← token list {}) = .pipe then
      let _ ← token list {}
      return w :: (← patterns fuel)
    else return [w]

/-- The cases of a choice. -/
def cases : (fuel : Nat) → Reading (List (List Word × Option Command))
  | 0 => unexpected
  | fuel + 1 => do
    match ← token list Check.laterWord with
    | .keyword "esac" => return []
    | t =>
      if t = .opening then
        let _ ← token list {}
      let ps ← patterns list repetitions
      if (← get).token != .closing then expecting .closing
      let body ← list .tail
      match ← token list Check.laterWord with
      | .keyword "esac" => return [(ps, body)]
      | .caseEnd => return (ps, body) :: (← cases fuel)
      | _ => expecting .caseEnd

/-- A choice behind its first word. -/
def choice (line : Nat) : Reading Command := do
  if (← token list {}) != .word then expecting .word
  let subject := (← get).word
  if (← token list Check.laterCommand) != .keyword "in" then expecting (.keyword "in")
  return .choose line subject (← cases list repetitions)

/-- Give a compound command the redirections that follow it. -/
def withRedirects (line : Nat) (c : Command) : Reading Command := do
  match ← redirects list repetitions with
  | [] => return c
  | rs =>
    match c with
    | .subshell line body _ => return .subshell line body rs
    | c => return .redirected line c rs

/-- Read a compound command up to its last word. -/
def compound (line : Nat) (x : Reading Command) (last : Token) : Reading Command := do
  let c ← x
  expect list last
  withRedirects list line c

/-- A command that is no pipeline; the fuel bounds how deep definitions are nested. -/
def command : (fuel : Nat) → Check → Reading Command
  | 0, _ => unexpected
  | fuel + 1, check => do
    let line := (← get).line
    match ← token list check with
    | .keyword "if" => compound list line (branches list repetitions) (.keyword "fi")
    | .keyword "while" => compound list line (loop list true) (.keyword "done")
    | .keyword "until" => compound list line (loop list false) (.keyword "done")
    | .keyword "for" => compound list line (iteration list line) (.keyword "done")
    | .keyword "case" =>
      let c ← choice list line
      withRedirects list line c
    | .opening =>
      compound list line (do return .subshell line (← block list) []) .closing
    | .keyword "\x7b" => compound list line (block list) (.keyword "\x7d")
    | .word =>
      pushBack
      pieces list (command fuel) (← get).line repetitions {}
    | .redirection =>
      pushBack
      pieces list (command fuel) (← get).line repetitions {}
    | _ => unexpected

/-! ### Lists -/

/-- The commands of a pipeline behind the first. -/
def piped : (fuel : Nat) → Reading (List Command)
  | 0 => return []
  | fuel + 1 => do
    if (← token list {}) = .pipe then
      let c ← command list repetitions Check.laterCommand
      return c :: (← piped fuel)
    else
      pushBack
      return []

/-- A pipeline, negated by a leading exclamation mark. -/
def pipeline (check : Check) : Reading Command := do
  let negated := (← token list check) = .keyword "!"
  if !negated then pushBack
  let c ← command list repetitions (if negated then Check.command else {})
  let more ← piped list repetitions
  let c := if more.isEmpty then c else .pipeline false (c :: more)
  return if negated then .negation c else c

/-- Pipelines that follow a first one if it succeeds or fails. -/
def joined : (fuel : Nat) → Command → Reading Command
  | 0, c => return c
  | fuel + 1, c => do
    match ← token list {} with
    | .both => joined fuel (.both c (← pipeline list Check.laterCommand))
    | .either => joined fuel (.either c (← pipeline list Check.laterCommand))
    | _ =>
      pushBack
      return c

/-- Pipelines joined by success or failure. -/
def conditional : Reading Command := do
  let c ← pipeline list {}
  joined list repetitions c

/-- A command that is not waited for. -/
def inBackground : Command → Command
  | .pipeline _ cs => .pipeline true cs
  | .redirected _ body rs => .background body rs
  | c => .background c []

/-- One command behind others. -/
def following : Option Command → Command → Command
  | none, c => c
  | some before, c => .sequence before c

/-- Go on with a list of commands. The second part of the result says that the script is over. -/
def items (extent : Extent) : (fuel : Nat) → Option Command → Reading (Option Command × Bool)
  | 0, _ => unexpected
  | fuel + 1, before => do
    match ← token list { Check.command with newlines := extent != .line } with
    | .newline =>
      awaitedTexts list
      return (before, false)
    | .fileEnd =>
      awaitedTexts list
      pushBack
      return (before, before.isNone)
    | t =>
      pushBack
      if t.endsList && extent != .line && (extent = .tail || before.isSome) then
        return (before, false)
      let c ← conditional list
      let t ← token list {}
      let all := some (following before (if t = .ampersand then inBackground c else c))
      match t with
      | .fileEnd =>
        awaitedTexts list
        pushBack
        return (all, false)
      | .newline =>
        pushBack
        items extent fuel all
      | .ampersand => items extent fuel all
      | .semicolon => items extent fuel all
      | _ =>
        if extent = .line then unexpected
        pushBack
        return (all, false)

end Commands

/-- A list of commands; the fuel bounds how deep lists are nested. -/
def lists : (fuel : Nat) → Extent → Reading (Option Command)
  | 0, _ => unexpected
  | fuel + 1, extent => do return (← items (lists fuel) extent repetitions none).1

/-- The commands of the next line, and whether the script is over. -/
def line : Reading (Option Command × Bool) := do
  modify fun r => { r with pushed := false, awaited := [] }
  items (lists repetitions) .line repetitions none

end Reading

/-- Read the commands of the next line of a script. There is no result behind its end. -/
def nextLine (r : Reader) : Except Refusal (Option (Option Command) × Reader) := do
  let ((c, isOver), r) ← Reading.line.run r
  return (if isOver then none else some c, r)

/-- The word that a whole text is, as one behind a command would be, and whether the end of a script
that was read before it is still there for a command inside of it. -/
def textWord (text : String) (endRead : Bool) (abbreviations : Table String) :
    Except Refusal (Word × Bool) := do
  let list := Reading.lists Reading.repetitions
  let commands := Reading.innerCommands list (Reading.token list)
  -- No text has a zero in it, so this one has no end but its own.
  let a : Awaited := { id := 0, delimiter := "\x00", stripTabs := false, quoted := false }
  let (w, r) ← (Reading.parts commands (some a) Reading.repetitions .here).run
    { rest := text.toList, pushed := endRead, token := .fileEnd, abbreviations }
  return (joinLiterals w, r.pushed)

/-- Whether a reader is at the end of its script. -/
def Reader.atEnd (r : Reader) : Bool := r.rest.isEmpty

end Shell

end Scaffold
