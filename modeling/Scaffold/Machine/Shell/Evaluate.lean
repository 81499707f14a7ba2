import Scaffold.Machine.Shell.Builtin.Lookup
import Scaffold.Machine.Shell.Builtin.Place
import Scaffold.Machine.Shell.Builtin.Print
import Scaffold.Machine.Shell.Builtin.Process
import Scaffold.Machine.Shell.Builtin.Variables
import Scaffold.Machine.Shell.Redirection

/-!
# Running shell commands

`Shell.exec` carries out a command. Commands run commands, scripts and further shells, so it
recurses on fuel; each construct is a function of the evaluator for what is inside of it.
-/

namespace Scaffold

namespace Shell

/-- How often a loop runs at most, and how many lines a script has. -/
def roundLimit : Nat := 1000000000

section Constructs

variable (exec : Exec)

/-! ### Scripts -/

/-- Run the commands of a script line by line. The result is the status of the last command, or
zero. `echoed` says that lines are shown as they are read, if that is asked for. -/
def runLines (tested echoed : Bool) : (fuel : Nat) → (status : Nat) → Reader → Sh Nat
  | 0, status, _ => return status
  | fuel + 1, status, r => do
    let s ← get
    match nextLine { r with abbreviations := s.abbreviations } with
    | .error e =>
      modify fun s => { s with line := e.line }
      Sh.fail ("Syntax error: " ++ e.reason)
    | .ok (c, next) =>
      let line := r.rest.take (r.rest.length - next.rest.length)
      if echoed && s.has "verbose" then
        Sh.tell 2 (String.ofList line)
      set { s with
        machine := (← get).machine
        endRead := next.rest.isEmpty && line.getLast? != some '\n'
        texts := next.texts
        textCount := next.count }
      match c with
      | none => return status
      | some none => runLines tested echoed fuel status next
      | some (some c) =>
        exec tested c
        let t ← get
        if t.skip != .nothing then return t.status
        runLines tested echoed fuel t.status next

/-- Run a script. -/
def runText (tested echoed : Bool) (text : String) : Sh Nat := do
  let s ← get
  runLines exec tested echoed roundLimit 0
    { rest := text.toList, texts := s.texts, count := s.textCount }

/-- Run what is chosen for signals that came in; the status stays. -/
def runTraps : (fuel : Nat) → Sh Unit
  | 0 => pure ()
  | fuel + 1 => do
    let s ← get
    match s.caught with
    | [] => pure ()
    | n :: caught =>
      set { s with caught }
      match List.lookup n s.traps with
      | some action =>
        let _ ← runText exec false false action
        if (← get).skip != .returned then Sh.setStatus s.status
      | none => pure ()
      runTraps fuel

/-! ### Processes -/

/-- Run commands, and then what is chosen for the end of a shell. -/
def withExitTrap (x : Sh Unit) : Sh Unit := do
  match ← Sh.attempt x with
  | .error (.killed signal) => throw (.killed signal)
  | _ => pure ()
  let s ← get
  match List.lookup 0 s.traps with
  | none => pure ()
  | some action =>
    set { s with traps := s.traps.filter fun e => e.1 != 0, skip := .nothing }
    match ← Sh.attempt (runText exec false false action) with
    | .ok _ => Sh.setStatus s.status
    | .error .failed => pure ()
    | .error .exited => pure ()
    | .error flow => throw flow

/-- Start the commands that wait in the background; the fuel bounds how they are nested. -/
def startWaiting : (fuel : Nat) → Sh Unit
  | 0 => pure ()
  | fuel + 1 => do
    let s ← get
    set { s with waiting := [] }
    for (process, shell, c) in s.waiting do
      let inside := { shell with machine := (← get).machine }
      let run : Sh Unit := do
        withExitTrap exec (exec false c)
        startWaiting fuel
      let (r, t) := (ExceptT.run run).run inside
      let ended (job : Nat × Option Ending) : Nat × Option Ending :=
        if job.1 = process then (process, some (Sh.ending r t)) else job
      modify fun s => { s with machine := t.machine, jobs := s.jobs.map ended }
    Sh.receive

/-- How deep commands in the background are nested. -/
def waitingDepth : Nat := 1000

/-- Start all commands that wait in the background. -/
def startAll : Sh Unit := do
  if !(← get).waiting.isEmpty then startWaiting exec waitingDepth

/-- Run commands to the end of their shell, and start what still waits. -/
def atExit (x : Sh Unit) : Sh Unit := do
  withExitTrap exec x
  startAll exec

/-- Run commands in a process of their own, and wait for it. -/
def fork (x : Sh Unit) : Sh Ending := do
  startAll exec
  let ending ← Sh.isolated (atExit exec x)
  Sh.receive
  return ending

/-- Run a command in a process of its own, as one whose output is taken. -/
def substitute (c : Command) : Sh Ending := fork exec (exec false c)

/-! ### Programs -/

variable (shell : Start)

/-- Say why a program cannot be started. -/
def notStarted (name : String) (e : IoError) : Sh Unit :=
  Sh.complain (name ++ ": " ++ startReason e)

/-- Start a program that was found, and wait for it. -/
def runProgram (path name : String) (args : List String) : Sh Unit := do
  startAll exec
  let s ← get
  match startScript shell (s.process name) path args s.machine with
  | .ok (ending, machine) =>
    set { s with machine, status := ending.status }
    Sh.report ending
    Sh.receive
  | .error e =>
    notStarted name e
    Sh.setStatus (startStatus e)

/-- Replace the shell by a program. -/
def replaceBy (search name : String) (args : List String) : Sh Nat := do
  startAll exec
  let s ← get
  let leaveWith (e : IoError) : Sh Nat := do
    notStarted name e
    Sh.setStatus (startStatus e)
    Sh.leave
  match ← locate search name with
  | .error e => leaveWith e
  | .ok path =>
    match startScript shell (s.process name) path args s.machine with
    | .error e => leaveWith e
    | .ok (ending, machine) =>
      set { s with machine, status := ending.status, traps := [] }
      match ending with
      | .killed signal => throw (.killed signal)
      | .exited _ => Sh.leave

/-! ### Commands of the shell -/

/-- Read commands from a file. -/
def source : Builtin := fun args => do
  match args with
  | [] => return 0
  | name :: _ =>
    let s ← get
    let dir := Machine.path s.dir
    let path ←
      if Text.contains '/' name then pure name
      else
        match (candidates s.searchPath name).find? fun p =>
          s.machine.files.isFile dir (Machine.path p) with
        | some p => pure p
        | none => Sh.fail (name ++ ": not found")
    let content ← match s.machine.files.read dir (Machine.path path) with
      | .ok content => pure content
      | .error .isDirectory => pure []
      | .error e => Sh.fail ("cannot open " ++ path ++ ": " ++ openReason false e)
    modify fun s => { s with speaker := some path }
    let status ← runText exec false true (Octets.ofBytes (content.filter (· != 0)))
    modify fun s => if s.skip = .returned then { s with skip := .nothing } else s
    return status

/-- The commands of the shell by name. -/
def builtin? (tested : Bool) (name : String) : Option Builtin :=
  match name with
  | "." => some (source exec)
  | ":" => some fun _ => return 0
  | "break" => some (Builtin.leaveLoops .broke)
  | "continue" => some (Builtin.leaveLoops .continued)
  | "eval" => some fun args =>
    if args.isEmpty then return 0 else runText exec tested false (Text.join " " args)
  | "exec" => some fun args => match args with
    | [] => return 0
    | name :: rest => do replaceBy exec shell (← get).searchPath name rest
  | "exit" => some Builtin.exit
  | "export" => some Builtin.export'
  | "local" => some Builtin.local'
  | "readonly" => some Builtin.readonly
  | "return" => some Builtin.return'
  | "set" => some Builtin.set'
  | "shift" => some Builtin.shift
  | "times" => some Builtin.times
  | "trap" => some Builtin.trap
  | "unset" => some Builtin.unset
  | "[" => some (Builtin.test true)
  | "alias" => some Builtin.alias'
  | "bg" => some Builtin.noJob
  | "cd" => some Builtin.cd
  | "chdir" => some Builtin.cd
  | "command" => some Builtin.command
  | "echo" => some Builtin.echo
  | "false" => some fun _ => return 1
  | "fg" => some Builtin.noJob
  | "getopts" => some Builtin.getopts
  | "hash" => some Builtin.hash
  | "jobs" => some Builtin.jobs
  | "kill" => some Builtin.kill
  | "printf" => some Builtin.printf
  | "pwd" => some Builtin.pwd
  | "read" => some Builtin.read
  | "test" => some (Builtin.test false)
  | "true" => some fun _ => return 0
  | "type" => some Builtin.type'
  | "ulimit" => some Builtin.ulimit
  | "umask" => some Builtin.umask
  | "unalias" => some Builtin.unalias
  | "wait" => some fun args => do
    startAll exec
    Builtin.wait args
  | _ => none

/-- Run a command of the shell; `special` says that its errors are errors of the shell. -/
def runBuiltin (special : Bool) (name : String) (run : Sh Nat) : Sh Unit := do
  let outer := (← get).speaker
  modify fun s => { s with speaker := some name }
  let r ← Sh.attempt run
  let written ← Sh.flush
  match r with
  | .ok status =>
    if !written then Sh.complain (name ++ ": I/O error")
    Sh.setStatus (if written then status else Nat.lor status 1)
  | .error _ => pure ()
  modify fun s => { s with speaker := outer }
  match r with
  | .ok _ => pure ()
  | .error .failed => if special then throw .failed
  | .error flow => throw flow

/-- How many functions can be run within each other. -/
def callLimit : Nat := 1000

/-- Run a function with arguments of its own. -/
def callFunction (tested : Bool) (body : Command) (args : List String) : Sh Unit := do
  if (← get).calls ≥ callLimit then
    Sh.fail ("Maximum function recursion depth (" ++ toString callLimit ++ ") reached")
  Sh.bracketed (fun s => { s with args, loops := 0, place := {}, calls := s.calls + 1 })
    (fun old new =>
      { new with
        args := old.args, loops := old.loops, place := old.place, calls := old.calls
        skip := if new.skip = .returned then .nothing else new.skip })
    (exec tested body)

/-! ### Simple commands -/

/-- What the words of a simple command say: all fields, the fields of the command that is run, and
how it is looked for. -/
structure Plan where
  shown : List String := []
  fields : List String := []
  /-- Words that are not expanded yet. -/
  words : List Word := []
  functions : Bool := true
  search : Option String := none
  /-- Whether the first command of the shell is special; there may be none. -/
  special : Option Bool := none
  /-- Whether words that are assignments are expanded as such. -/
  assigning : Bool := false
deriving Inhabited

/-- Expand words until there is another field. -/
def fillFields : List Word → Plan → Sh Plan
  | [], p => return { p with words := [] }
  | w :: words, p => do
    match ← expandFields (substitute exec) w with
    | [] => fillFields words p
    | fields =>
      return { p with shown := p.shown ++ fields, fields := p.fields ++ fields, words }

/-- Look behind the word that stands for "the command of that name": the plan for the command,
unless something else is asked for. -/
def behindCommand : (fuel : Nat) → Plan → Sh (Plan × Bool)
  | 0, p => return (p, false)
  | fuel + 1, p => do
    let skipped := { p with fields := p.fields.drop 1 }
    let next ← if skipped.fields.isEmpty then fillFields exec p.words skipped else pure skipped
    match next.fields with
    | [] => return ({ next with fields := ["command"] }, false)
    | arg :: rest =>
      match arg.toList with
      | ['-', '-'] =>
        let next := { next with fields := rest }
        let next ← if rest.isEmpty then fillFields exec next.words next else pure next
        return if next.fields.isEmpty then ({ next with fields := ["command"] }, false)
          else (next, true)
      | '-' :: c :: cs =>
        if (c :: cs).all (· == 'p') then
          behindCommand fuel { next with search := some Builtin.standardPath }
        else return ({ next with fields := "command" :: next.fields }, false)
      | _ => return (next, true)

/-- Find out which command is run. -/
def planCommand : (fuel : Nat) → Plan → Sh Plan
  | 0, p => return p
  | fuel + 1, p => do
    let name := p.fields.headD ""
    let isFunction := p.functions && (← get).functions.contains name
    if isFunction || !Builtin.isBuiltin name then return { p with assigning := false }
    else
      let isSpecial := Reading.reserved.contains name
      let p := { p with
        special := p.special <|> some isSpecial
        assigning := ["export", "readonly", "local"].contains name }
      if name = "command" then
        let (p, isPassedOn) ← behindCommand exec (p.fields.length + p.words.length + 1) p
        if isPassedOn then planCommand fuel { p with functions := false } else return p
      else return p

/-- Expand the words that are left. -/
def expandRest (assigning : Bool) : List Word → Sh (List String)
  | [] => return []
  | w :: words => do
    let fields ←
      if assigning && (assignment? w).isSome then do
        match assignment? w with
        | some (name, value) =>
          let text ← expandText (substitute exec) { tilde := true, colons := true } value
          pure [name ++ "=" ++ text]
        | none => pure []
      else expandFields (substitute exec) w
    return fields ++ (← expandRest assigning words)

/-- Expand the words of a simple command. -/
def plan (words : List Word) : Sh Plan := do
  let p ← fillFields exec words {}
  if p.fields.isEmpty then return p
  let p ← planCommand exec (words.length + p.fields.length + 1) p
  let rest ← expandRest exec p.assigning p.words
  return { p with shown := p.shown ++ rest, fields := p.fields ++ rest, words := [] }

/-- Make assignments, for the time of a command or for good; the result has them as texts. -/
def assignEach (forCommand exporting : Bool) : List (String × Word) → Sh (List String)
  | [] => return []
  | (name, w) :: rest => do
    let value ← expandText (substitute exec) { tilde := true, colons := true } w
    if forCommand then Sh.shadow name
    Sh.assign name value (forCommand || exporting)
    return (name ++ "=" ++ value) :: (← assignEach forCommand exporting rest)

/-- What is written in front of a command that is shown. It is expanded, without being shown itself;
where that fails it is written as it is. -/
def traceFront : Sh String := do
  let s ← get
  let text := (s.get? "PS4").getD ""
  let quiet (t : Session) : Session := { t with options := t.options.filter (· != "xtrace") }
  let expansion : Sh String := do
    match textWord text s.endRead s.abbreviations with
    | .ok (w, endRead) =>
      modify fun s => { s with endRead }
      expandText (substitute exec) {} w
    | .error e =>
      Sh.bracketed (fun s => { s with line := e.line, endRead := false })
        (fun old new => { new with line := old.line }) (Sh.fail ("Syntax error: " ++ e.reason))
  match ← Sh.attempt (Sh.bracketed quiet (fun old new => { new with options := old.options })
    expansion) with
  | .ok front => return front
  | .error .failed => return text
  | .error flow => throw flow

/-- Show a command before it is run. -/
def trace (channels : Channels) (shown : List String) : Sh Unit := do
  if (← get).has "xtrace" then
    let front ← traceFront exec
    let line := Octets.bytes (front ++ Text.join " " shown ++ "\n")
    Sh.onMachine fun m => ((), m.tell channels 2 line)

/-- Run the command that a plan is for. -/
def runPlan (tested : Bool) (p : Plan) : Sh Unit := do
  match p.fields with
  | [] => Sh.setStatus (← get).substituted
  | name :: args =>
    let s ← get
    match if p.functions then s.functions.get? name else none, builtin? exec shell tested name with
    | some body, _ => callFunction exec tested body args
    | none, some run => runBuiltin (p.special.getD false) name (run args)
    | none, none =>
      match ← locate (p.search.getD s.searchPath) name with
      | .ok path => runProgram exec shell path name args
      | .error e =>
        notStarted name e
        Sh.setStatus 127

/-- Run a simple command. -/
def simple (tested : Bool) (line : Nat) (assignments : List (String × Word)) (words : List Word)
    (rs : List Redirect) : Sh Unit := do
  modify fun s => { s with line, substituted := 0 }
  let p ← plan exec words
  let isSpecial := p.special.getD false
  let replacing := p.fields.head? == some "exec" && p.special.isSome
  let forCommand := !p.fields.isEmpty && !isSpecial
  let body : Sh Unit := do
    let connections ← expandRedirects (substitute exec) rs
    let outer := (← get).channels
    if ← connectAll (substitute exec) connections then
      let made ← assignEach exec forCommand (replacing && p.fields.length > 1) assignments
      trace exec outer (made ++ p.shown)
      runPlan exec shell tested p
    else if isSpecial then throw .failed
  let channels := (← get).channels
  let r ← Sh.attempt (if forCommand then Sh.shadowing body else body)
  if !replacing then modify fun s => { s with channels }
  match r with
  | .ok () => pure ()
  | .error flow => throw flow

/-! ### Compound commands -/

/-- Leave the shell after a failure, if that is asked for. -/
def checkFailure (tested : Bool) : Sh Unit := do
  let s ← get
  if s.has "errexit" && !tested && s.status != 0 then Sh.leave

/-- Run a command with redirections. -/
def redirected (tested : Bool) (rs : List Redirect) (body : Command) : Sh Unit := do
  let connections ← expandRedirects (substitute exec) rs
  Sh.bracketed id (fun old new => { new with channels := old.channels }) do
    if ← connectAll (substitute exec) connections then exec tested body
    else checkFailure tested

/-- Look for the program that a simple command names, so that it is remembered. -/
def rememberFirst : Command → Sh Unit
  | .simple _ _ (w :: _) _ => do
    let s ← get
    match plainWord? w with
    | some name =>
      if isName name && !s.functions.contains name && !Builtin.isBuiltin name then
        let _ ← locate s.searchPath name
    | none => pure ()
  | _ => pure ()

/-- How many bytes a pipe holds, and how many it is given when that was not enough. -/
def pipeSizes : List Nat := [65536, 1048576, 16777216]

/-- Run with a new pipe that has some room. Where its reader was starved, the state is restored and
all is run again with more room. -/
def withRoom (run : (pipe : Nat) → Sh Unit) : List Nat → Sh Unit
  | [] => pure ()
  | size :: more => do
    let s ← get
    let n ← Sh.onMachine fun m => ({ m with supply := size + 1 }).newPipe { room := some size }
    let r ← Sh.attempt (run n)
    if ((← get).machine.pipeAt n).starved && !more.isEmpty then
      set s
      withRoom run more
    else
      match r with
      | .ok () => pure ()
      | .error flow => throw flow

/-- Run a command of a pipeline in a process of its own. -/
def runStage (tested : Bool) (c : Command) (channels : Channels) : Sh Unit := do
  rememberFirst c
  let ending ← Sh.isolated (do
    modify fun s => { s with channels }
    atExit exec (exec tested c))
  Sh.report ending
  Sh.setStatus ending.status

/-- Run the commands of a pipeline one after the other. Each reads the pipe that the one before it
wrote, whose number is `source`. -/
def pipe (tested : Bool) : (source : Option Nat) → List Command → Sh Unit
  | _, [] => Sh.receive
  | source, c :: rest => do
    let outer := (← get).channels
    let inside ← match source with
      | some n => do
        let k ← Sh.onMachine fun m => m.opening { stream := .pipe n, writes := false }
        pure (outer.set 0 k)
      | none => pure outer
    if rest.isEmpty then
      runStage exec tested c inside
      Sh.receive
    else
      withRoom (fun n => do
        let k ← Sh.onMachine fun m => m.opening { stream := .pipe n, reads := false }
        runStage exec tested c (inside.set 1 k)
        -- Who is cut off does not miss what it could have read.
        let m := (← get).machine
        if (m.pipeAt n).cut then
          let sated := source.elim m.pipes fun p =>
            m.pipes.modify p fun q => { q with starved := false }
          modify fun s => { s with machine := { m with pipes := sated } }
        pipe tested (some n) rest) pipeSizes

/-- After a round of a loop: what is still being left, as seen from the loop. -/
def afterRound : Sh Skip := do
  let s ← get
  match s.skip with
  | .nothing => return .nothing
  | .returned => return .returned
  | skip =>
    if s.skipCount ≤ 1 then
      set { s with skip := .nothing }
      return skip
    else
      set { s with skipCount := s.skipCount - 1 }
      return .broke

/-- Run within one more loop. -/
def inLoop (x : Sh Unit) : Sh Unit :=
  Sh.bracketed (fun s => { s with loops := s.loops + 1 })
    (fun old new => { new with loops := old.loops }) x

/-- Repeat a body while a condition holds. -/
def repeatWhile (tested positive : Bool) (condition body : Command) : (fuel status : Nat) → Sh Unit
  | 0, status => Sh.setStatus status
  | fuel + 1, status => do
    exec true condition
    let holds := ((← get).status == 0) == positive
    match ← afterRound with
    | .returned => pure ()
    | .broke => Sh.setStatus status
    | .continued => repeatWhile tested positive condition body fuel status
    | .nothing =>
      if holds then
        exec tested body
        let status := (← get).status
        match ← afterRound with
        | .returned => Sh.setStatus status
        | .broke => Sh.setStatus status
        | _ => repeatWhile tested positive condition body fuel status
      else Sh.setStatus status

/-- Run a body for each value of a variable. -/
def forEach (tested : Bool) (name : String) (body : Command) :
    (status : Nat) → List String → Sh Unit
  | status, [] => Sh.setStatus status
  | _, value :: rest => do
    Sh.setVar name value
    exec tested body
    let status := (← get).status
    match ← afterRound with
    | .returned => Sh.setStatus status
    | .broke => Sh.setStatus status
    | _ => forEach tested name body status rest

/-- Expand words to fields. -/
def expandAll : List Word → Sh (List String)
  | [] => return []
  | w :: words => do
    let fields ← expandFields (substitute exec) w
    return fields ++ (← expandAll words)

/-- Whether one of some patterns matches a text. -/
def matchesAny (subject : List Char) : List Word → Sh Bool
  | [] => return false
  | w :: rest => do
    let pieces ← expand (substitute exec) wordDepth { tilde := true } w
    if (patternOf (undivided pieces)).accepts subject then return true
    else matchesAny subject rest

/-- Run the first case whose pattern matches. -/
def chooseCase (tested : Bool) (subject : List Char) :
    List (List Word × Option Command) → Sh Unit
  | [] => Sh.setStatus 0
  | (patterns, body) :: rest => do
    if ← matchesAny exec subject patterns then
      match body with
      | some c => exec tested c
      | none => Sh.setStatus 0
    else chooseCase tested subject rest

/-- Put a command into the background. What it would read is empty. -/
def inBackground (c : Command) : Sh Unit := do
  startAll exec
  let s ← get
  let k ← Sh.onMachine fun m => m.opening { stream := .null }
  let inside := { s.child with channels := s.channels.set 0 k }
  modify fun s =>
    { s with
      machine := { s.machine with processes := inside.self }
      jobs := s.jobs ++ [(inside.self, none)]
      lastJob := some inside.self
      waiting := s.waiting ++ [(inside.self, inside, c)]
      status := 0 }

/-- Set the line that messages name. -/
def atLine (line : Nat) : Sh Unit := modify fun s => { s with line }

/-- Carry out a command, given how the commands inside of it are carried out. -/
def carryOut (tested : Bool) : Command → Sh Unit
  | .simple line assignments words rs => do
    simple exec shell tested line assignments words rs
    checkFailure tested
  | .pipeline false cs => do
    startAll exec
    pipe exec tested none cs
    checkFailure tested
  | .pipeline true cs => inBackground exec (.pipeline false cs)
  | .negation c => do
    exec true c
    if !(← Sh.isSkipping) then Sh.setStatus (if (← get).status = 0 then 1 else 0)
  | .both a b => do
    exec true a
    if (← get).status = 0 && !(← Sh.isSkipping) then exec tested b
  | .either a b => do
    exec true a
    if (← get).status != 0 && !(← Sh.isSkipping) then exec tested b
  | .sequence a b => do
    exec tested a
    if !(← Sh.isSkipping) then exec tested b
  | .redirected line body rs => do
    atLine line
    redirected exec tested rs body
  | .subshell line body rs => do
    atLine line
    let connections ← expandRedirects (substitute exec) rs
    let ending ← fork exec do
      connections.forM (connect (substitute exec))
      exec tested body
    Sh.report ending
    Sh.setStatus ending.status
    checkFailure tested
  | .background body [] => inBackground exec body
  | .background body rs => inBackground exec (.redirected 0 body rs)
  | .branch condition body other => do
    exec true condition
    if !(← Sh.isSkipping) then
      if (← get).status = 0 then exec tested body
      else match other with
        | some c => exec tested c
        | none => Sh.setStatus 0
  | .loop positive condition body =>
    inLoop (repeatWhile exec tested positive condition body roundLimit 0)
  | .iterate line name words body => do
    atLine line
    let values ← expandAll exec words
    inLoop (forEach exec tested name body 0 values)
  | .choose line subject cases => do
    atLine line
    let text ← expandText (substitute exec) { tilde := true } subject
    chooseCase exec tested text.toList cases
  | .define name body => do
    modify fun s =>
      { s with
        functions := s.functions.insert name body
        remembered := s.remembered.filter fun e => e.1 != name }
    Sh.setStatus 0

/-! ### Shells -/

/-- The directory a shell starts in: the one the environment names, if it is the same place. -/
def startDir (files : Files) (p : Process) : String :=
  let physical := (files.canonical p.dir p.dir).toOption.getD p.dir
  match p.environment.get? "PWD" with
  | some dir =>
    let path := Machine.path dir
    if Path.isAbsolute path && (files.canonical "/" path).toOption == some physical then dir
    else Octets.ofText physical
  | none => Octets.ofText physical

/-- A new shell in a process. -/
def newSession (p : Process) (m : Machine) : Session :=
  let dir := startDir m.files p
  let plain (value : String) : Variable := { value := some value }
  let own : List (String × Variable) :=
    [("IFS", plain " \t\n"), ("OPTIND", plain "1"), ("PATH", plain Builtin.standardPath),
     ("PPID", plain (toString (p.ancestors.headD 0))), ("PS1", plain "# "), ("PS2", plain "> "),
     ("PS4", plain "+ ")]
  let inherited := p.environment.entries.filterMap fun (name, value) =>
    if isName name && name != "IFS" then
      some (name, ({ value := some value, exported := true } : Variable)) else none
  let self := m.processes + 1
  { machine := { m with processes := self }
    dir
    vars := (Table.ofList (own ++ inherited)).insert "PWD" { value := some dir, exported := true }
    name := p.name
    channels := p.channels
    shell := self
    self
    ancestors := p.ancestors
    deaf := p.deaf }

/-- Run a shell to its end. -/
def finish (x : Sh Unit) (s : Session) : Ending × Machine :=
  let (r, t) := (ExceptT.run (atExit exec x)).run s
  (Sh.ending r t, t.machine)

/-- Run a script as all that a shell does. -/
def runScript (echoed : Bool) (text : String) : Sh Unit := do
  let _ ← runText exec false echoed text

/-- What a shell does with its arguments. -/
def runArguments (args : List String) : Sh Unit := do
  modify fun s => { s with line := 0 }
  let (r, _) ← Builtin.readSwitches true (args.length + 1) { rest := args }
  Builtin.checkMonitor
  let s ← get
  modify fun s => { s with line := 1 }
  if r.script then
    match r.rest with
    | [] =>
      modify fun s => { s with line := 0 }
      Sh.fail "-c requires an argument"
    | script :: rest =>
      modify fun s => { s with name := rest.headD s.name, args := rest.drop 1 }
      runScript exec false script
  else if s.has "stdin" || r.rest.isEmpty then
    Builtin.switch true "stdin"
    modify fun s => { s with args := r.rest }
    let content ← Sh.onMachine fun m => m.read s.channels 0 none
    runScript exec true (Octets.ofBytes ((content.toOption.getD []).filter (· != 0)))
  else
    let path := r.rest.headD ""
    match s.machine.files.read (Machine.path s.dir) (Machine.path path) with
    | .error .isDirectory => pure ()
    | .error e =>
      modify fun s => { s with line := 0 }
      Sh.fail ("cannot open " ++ path ++ ": " ++ openReason false e)
    | .ok content =>
      modify fun s => { s with name := path, args := r.rest.drop 1 }
      runScript exec true (Octets.ofBytes (content.filter (· != 0)))

/-- Run the shell as a program. -/
def runAsProgram (p : Process) (args : List String) (m : Machine) : Ending × Machine :=
  finish exec (runArguments exec args) (newSession p m)

end Constructs

/-- Carry out a command. A script whose commands are nested deeper than the fuel allows has no
memory left, and is killed. -/
def exec : (fuel : Nat) → Exec
  | 0, _, _ => throw (.killed 11)
  | fuel + 1, tested, c => do
    if (← get).has "noexec" then return
    runTraps (exec fuel) roundLimit
    carryOut (exec fuel) (runAsProgram (exec fuel)) tested c
    runTraps (exec fuel) roundLimit

/-- How deep the commands of a script can be nested. -/
def execLimit : Nat := 20000

/-- Run the shell as a program. -/
def start : Start := runAsProgram (exec execLimit)

end Shell

end Scaffold
