import Scaffold.Machine.Shell.Builtin.Basic

/-!
# Commands on variables, arguments and options
-/

namespace Scaffold

namespace Shell

namespace Builtin

/-! ### Variables -/

/-- Give variables a property, or list those that have it. -/
def declare (command : String) (has : Variable → Bool) (give : Variable → Variable) : Builtin :=
  fun args => do
    let (given, names) ← options "p" args
    if !given.isEmpty || names.isEmpty then
      listVariables (command ++ " ") has
      return 0
    for arg in names do
      match Text.splitFirst? '=' arg, (← get).vars.get? arg with
      | some (name, value), _ =>
        Sh.assign name value false
        modify fun s => { s with vars := s.vars.insert name (give ((s.vars.get? name).getD {})) }
      | none, some v => modify fun s => { s with vars := s.vars.insert arg (give v) }
      | none, none => do
        let name ← Sh.nameIn arg
        modify fun s => { s with vars := s.vars.insert name (give {}) }
    return 0

/-- Export variables to programs. -/
def export' : Builtin :=
  declare "export" Variable.exported fun v => { v with exported := true }

/-- Fix the values of variables. -/
def readonly : Builtin := declare "readonly" Variable.fixed fun v => { v with fixed := true }

/-- Forget variables or functions. -/
def unset : Builtin := fun args => do
  let (given, names) ← options "vf" args
  for name in names do
    if given.getLast?.map Prod.fst == some 'f' then
      modify fun s => { s with functions := s.functions.filter fun k _ => k != name }
    else
      Sh.unsetVar (← Sh.nameIn name)
  return 0

/-- Make variables local to a function. -/
def local' : Builtin := fun args => do
  if (← get).shadows.isEmpty then Sh.fail "not in a function"
  for arg in args do
    if arg = "-" then
      Sh.shadowOptions
    else
      match Text.splitFirst? '=' arg with
      | some (name, value) => do
        Sh.shadow name
        if isName name then Sh.setVar name value
        -- Whether a variable can have the name is found out when it is forgotten.
        else Sh.putVar name { value := some value }
      | none => Sh.shadow (← Sh.nameIn arg)
  return 0

/-! ### Options and arguments -/

/-- List the options of the shell, in words or as commands that set them. -/
def listOptions (inWords : Bool) : Sh Unit := do
  let s ← get
  if inWords then Sh.say "Current option settings\n"
  for (name, _) in optionLetters do
    let isOn := s.has name
    if inWords then
      Sh.say (name ++ Text.repeated (16 - name.length) " " ++ (if isOn then "on\n" else "off\n"))
    else Sh.say ("set " ++ (if isOn then "-o " else "+o ") ++ name ++ "\n")

/-- Switch an option on or off. -/
def switch (on : Bool) (name : String) : Sh Unit :=
  modify fun s =>
    let others := s.options.filter (· != name)
    { s with options := if on then name :: others else others }

/-- Switch the control of jobs off again, because there is no terminal. -/
def checkMonitor : Sh Unit := do
  if (← get).has "monitor" then
    Sh.complain "can't access tty; job control turned off"
    switch false "monitor"

/-- The option of a letter. -/
def optionOf? (c : Char) : Option String :=
  (optionLetters.find? fun e => e.2 == String.singleton c).map Prod.fst

/-- What arguments are about when a shell is started: whether a script was asked for. -/
structure Started where
  script : Bool := false
  rest : List String
deriving Inhabited

/-- The letters of one argument; those that take one go on with the next argument. -/
def switchLetters (starting on : Bool) : List Char → Started → Sh Started
  | [], r => return r
  | c :: cs, r => do
    if starting && c == 'c' then switchLetters starting on cs { r with script := true }
    else if c == 'o' then
      match r.rest with
      | [] =>
        listOptions on
        switchLetters starting on cs r
      | name :: rest =>
        if (optionLetters.map Prod.fst).contains name then switch on name
        else Sh.fail ("Illegal option -o " ++ name)
        switchLetters starting on cs { r with rest }
    else
      match optionOf? c with
      | some name =>
        switch on name
        switchLetters starting on cs r
      | none => Sh.fail ("Illegal option -" ++ String.singleton c)

/-- Read the options of a shell at the front of its arguments. Behind two dashes the arguments are
replaced even if there are none. -/
def readSwitches (starting : Bool) : (fuel : Nat) → Started → Sh (Started × Bool)
  | 0, r => return (r, false)
  | fuel + 1, r => do
    match r.rest with
    | [] => return (r, false)
    | arg :: rest =>
      match arg.toList with
      | ['-'] =>
        if !starting then
          switch false "xtrace"
          switch false "verbose"
        return ({ r with rest }, false)
      | ['-', '-'] => return ({ r with rest }, !starting)
      | '-' :: cs => readSwitches starting fuel (← switchLetters starting true cs { r with rest })
      | '+' :: cs => readSwitches starting fuel (← switchLetters starting false cs { r with rest })
      | _ => return (r, false)

/-- Set options and arguments, or list the variables. -/
def set' : Builtin := fun args => do
  if args.isEmpty then
    listVariables "" fun v => v.value.isSome
    return 0
  let (r, replaces) ← readSwitches false (args.length + 1) { rest := args }
  checkMonitor
  if replaces || !r.rest.isEmpty then modify fun s => { s with args := r.rest, place := {} }
  return 0

/-- Drop arguments at the front. -/
def shift : Builtin := fun args => do
  let n ← match args with
    | [] => pure 1
    | arg :: _ => number arg
  if n > (← get).args.length then Sh.fail "can't shift that many"
  modify fun s => { s with args := s.args.drop n, place := {} }
  return 0

/-! ### Options of arguments -/

/-- What an option of arguments is: its letter, its argument, and a complaint. -/
structure Found where
  letter : String
  argument : Option String
  complaint : Option String := none
  /-- How many arguments are behind it. -/
  index : Nat
  within : Option Nat := none
deriving Inhabited

/-- What is behind a letter in a list of options; a colon behind another letter belongs to it. -/
def behindLetter? (c : Char) : List Char → Option (List Char)
  | [] => none
  | [d] => if d == c then some [] else none
  | d :: e :: rest =>
    if d == c then some (e :: rest)
    else if e == ':' then behindLetter? c rest
    else behindLetter? c (e :: rest)

/-- Look for the next option of arguments. There is none where they end. -/
def nextOption? (spec : String) (args : List String) (place : OptionPlace) :
    Except Nat Found :=
  let silent := Text.startsWith ":" spec
  let previous := args[place.index - 2]?
  let inside : Option (List Char × Nat) := match place.within, previous with
    | some n, some arg =>
      let cs := arg.toList.drop n
      if place.index ≤ 1 || cs.isEmpty then none else some (cs, n)
    | _, _ => none
  -- The letters to go on with, their place in the argument, and the number of the next argument.
  let start : Except Nat (List Char × Nat × Nat) := match inside with
    | some (cs, n) => .ok (cs, n, place.index)
    | none =>
      match (args[place.index - 1]?).map String.toList with
      | some ['-', '-'] => .error (place.index + 1)
      | some ('-' :: c :: cs) => .ok (c :: cs, 1, place.index + 1)
      | _ => .error place.index
  match start with
  | .error index => .error index
  | .ok ([], _, index) => .error index
  | .ok (c :: cs, n, index) =>
    let within := some (n + 1)
    let text := String.singleton c
    match behindLetter? c spec.toList with
    | none =>
      .ok { letter := "?", index, within, argument := if silent then some text else none
            complaint := if silent then none else some ("Illegal option -" ++ text) }
    | some behind =>
      if behind.head? == some ':' then
        match cs, args[index - 1]? with
        | [], none =>
          if silent then .ok { letter := ":", argument := some text, index }
          else .ok { letter := "?", argument := none, index
                     complaint := some ("No arg for -" ++ text ++ " option") }
        | [], some arg => .ok { letter := text, argument := some arg, index := index + 1 }
        | cs, _ => .ok { letter := text, argument := some (String.ofList cs), index }
      else .ok { letter := text, argument := some "", index, within }

/-- Read the next option of arguments into a variable. -/
def getopts : Builtin := fun args => do
  match ← operands args with
  | spec :: target :: others =>
    let s ← get
    let all := if others.isEmpty then s.args else others
    let place := if s.place.index > all.length + 1 then {} else s.place
    match nextOption? spec all place with
    | .ok found =>
      match found.complaint with
      | some text => Sh.tell 2 (text ++ "\n")
      | none => pure ()
      match found.argument with
      | some text => Sh.setVar "OPTARG" text
      | none => Sh.unsetVar "OPTARG"
      Sh.setVar "OPTIND" (toString found.index)
      Sh.setVar target found.letter
      modify fun s => { s with place := { index := found.index, within := found.within } }
      return 0
    | .error index =>
      Sh.setVar "OPTIND" (toString index)
      Sh.setVar target "?"
      modify fun s => { s with place := { index } }
      return 1
  | _ => Sh.fail "Usage: getopts optstring var [arg...]"

/-! ### Input -/

/-- Pieces of a line, the latest first: a character behind a backslash is not divided. `joined` says
that the line goes on with the next one. -/
structure Line where
  pieces : List Piece := []
  joined : Bool := false
deriving Inhabited

/-- Add characters to the last piece. -/
def Line.add (l : Line) (cs : List Char) : Line :=
  let text := String.ofList cs
  match l.pieces with
  | p :: rest => { l with pieces := { p with text := p.text ++ text } :: rest }
  | [] => { l with pieces := [{ text, division := .fields }] }

/-- Go through the characters of a line. -/
def lineFrom (raw : Bool) : (fuel : Nat) → List Char → Line → Line
  | 0, _, l => l
  | fuel + 1, cs, l =>
    let run := cs.takeWhile fun c => c != '\x00' && (raw || c != '\\')
    let l := l.add run
    match cs.drop run.length with
    | [] => l
    | '\x00' :: cs => lineFrom raw fuel cs l
    | [_] => { l with joined := true }
    | _ :: c :: cs =>
      lineFrom raw fuel cs
        { l with pieces :=
            { division := .fields } :: { text := String.singleton c, quoted := true } ::
              l.pieces }

/-- Read a line, with all lines that it is joined to. The second part of the result says that the
input ended. -/
def inputLine (raw : Bool) : (fuel : Nat) → List Piece → Sh (List Piece × Bool)
  | 0, pieces => return (pieces, true)
  | fuel + 1, pieces => do
    let s ← get
    match ← Sh.onMachine fun m => m.readLine s.channels 0 with
    | .error _ => return (pieces, true)
    | .ok (bytes, ended) =>
      let l := lineFrom raw (bytes.length + 1) (Octets.chars bytes) { pieces }
      if l.joined && ended then
        inputLine raw fuel ({ division := .fields } :: l.pieces)
      else return (l.pieces, !ended)

/-- Read a line into variables. -/
def read : Builtin := fun args => do
  let (given, names) ← options "p:r" args
  if names.isEmpty then Sh.fail "arg count"
  let raw := given.any fun o => o.1 == 'r'
  let (pieces, atEnd) ← inputLine raw 100000 [{ division := .fields }]
  let s ← get
  let fields := fieldsOf s.separators (some names.length) pieces.reverse
  let values := fields.map fun f => Marked.plain (Cell.chars f)
  for (name, i) in names.zipIdx do
    Sh.setVar name (values.getD i "")
  return if atEnd then 1 else 0

end Builtin

end Shell

end Scaffold
