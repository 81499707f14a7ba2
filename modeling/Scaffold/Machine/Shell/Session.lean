import Scaffold.Machine.Basic
import Scaffold.Machine.Number
import Scaffold.Machine.Shell.Grammar
import Scaffold.Machine.Shell.Signal

/-!
# Shell sessions

The state of a running shell, and computations on it. A computation ends normally, or with a `Flow`:
an error, the end of the shell or a signal. Loops and functions that are left early do not break off
a computation; they are noted as a `Skip`, and what would come next looks at it.
-/

namespace Scaffold

namespace Shell

/-- A variable of a shell; one without a value can still be exported or fixed. -/
structure Variable where
  value : Option String := none
  exported : Bool := false
  fixed : Bool := false
deriving DecidableEq, Repr, Inhabited

/-- A way to break off a computation. -/
inductive Flow where
  /-- An error, which ends the shell unless somebody takes care of it. -/
  | failed
  | exited
  | killed (signal : Nat)
deriving DecidableEq, Repr, Inhabited

/-- What is being left early. -/
inductive Skip where
  | nothing
  | broke
  | continued
  | returned
deriving DecidableEq, Repr, Inhabited

/-- Where the options of arguments are read: the number of the next argument, and the place in the
one before, if it has more letters. -/
structure OptionPlace where
  index : Nat := 1
  within : Option Nat := none
deriving DecidableEq, Repr, Inhabited

/-- A running shell. -/
structure Session where
  machine : Machine
  /-- The current directory as it was reached. -/
  dir : String
  vars : Table Variable := ∅
  functions : Table Command := ∅
  abbreviations : Table String := ∅
  name : String := "sh"
  args : List String := []
  channels : Channels := []
  status : Nat := 0
  line : Nat := 1
  /-- The command that messages speak for. -/
  speaker : Option String := none
  /-- Output of a command of the shell that is not written yet, the latest first. -/
  output : List String := []
  /-- Whether the end of the script was read with the line that is run, and not used up since. -/
  endRead : Bool := false
  /-- The texts that redirections refer to. -/
  texts : List (Nat × HereText) := []
  textCount : Nat := 0
  /-- The names of the options that are on. -/
  options : List String := []
  skip : Skip := .nothing
  /-- How many loops are left. -/
  skipCount : Nat := 0
  /-- How many loops are being run. -/
  loops : Nat := 0
  /-- What variables were before commands that change them for a while, the innermost first. -/
  shadows : List (List (String × Option Variable)) := []
  /-- Status of the last command whose output was taken. -/
  substituted : Nat := 0
  /-- What is run on a signal; the number of the end of the shell is zero. -/
  traps : List (Nat × String) := []
  /-- Signals that came in and were not dealt with yet. -/
  caught : List Nat := []
  /-- Signals that have no effect. -/
  deaf : List Nat := []
  /-- Processes in the background, with how they ended if they did. -/
  jobs : List (Nat × Option Ending) := []
  lastJob : Option Nat := none
  /-- Commands in the background that did not start yet: their process, the shell they run in and
  what they are. -/
  waiting : List (Nat × Session × Command) := []
  /-- The process of the shell, and the one that runs: they differ in a subshell. -/
  shell : Nat := 4242
  self : Nat := 4242
  /-- The processes that the one that runs descends from, the nearest first. -/
  ancestors : List Nat := []
  /-- How many functions are being run. -/
  calls : Nat := 0
  mask : Nat := 18
  /-- Programs that were found, with their paths. -/
  remembered : List (String × String) := []
  place : OptionPlace := {}
deriving Inhabited

/-- A computation of a shell. -/
abbrev Sh := ExceptT Flow (StateM Session)

/-- How a command is carried out; what is `tested` may fail. -/
abbrev Exec := (tested : Bool) → Command → Sh Unit

namespace Session

/-- Whether an option is on. -/
def has (s : Session) (option : String) : Bool := s.options.contains option

/-- The value of a variable. -/
def get? (s : Session) (name : String) : Option String := (s.vars.get? name).bind Variable.value

/-- Characters that separate fields, if they are chosen. -/
def separators? (s : Session) : Option String := s.get? "IFS"

/-- The directories that programs are looked for in. -/
def searchPath (s : Session) : String := (s.get? "PATH").getD ""

/-- The environment of programs that the shell starts. -/
def environment (s : Session) : Table String :=
  Table.ofList (s.vars.entries.filterMap fun (name, v) =>
    if v.exported then v.value.map fun value => (name, value) else none)

/-- The process that the shell starts a program in. -/
def process (s : Session) (name : String) : Process :=
  { name
    dir := Machine.path s.dir
    environment := s.environment
    channels := s.channels
    ancestors := s.self :: s.ancestors
    deaf := s.deaf ++ s.traps.filterMap fun e => if e.2.isEmpty then some e.1 else none }

/-- The shell in a new process, a copy of a shell. Of its traps only those that do nothing stay. -/
def child (s : Session) : Session :=
  let self := s.machine.processes + 1
  { s with
    machine := { s.machine with processes := self }
    self
    ancestors := s.self :: s.ancestors
    traps := s.traps.filter fun e => e.2.isEmpty && e.1 != 0
    caught := [], jobs := [], waiting := [], output := [] }

/-- Change or forget a variable. The programs that were found are forgotten with the directories to
look for them in. -/
def withVar (s : Session) (name : String) (v : Option Variable) : Session :=
  { s with
    vars := match v with
      | some v => s.vars.insert name v
      | none => s.vars.filter fun k _ => k != name
    remembered := if name = "PATH" then [] else s.remembered }

end Session

namespace Sh

variable {α : Type}

/-! ### Control -/

/-- Run with a changed state, and restore from the old one. -/
def bracketed (change : Session → Session) (restore : (old new : Session) → Session) (x : Sh α) :
    Sh α :=
  ExceptT.mk fun s =>
    let (r, t) := (ExceptT.run x).run (change s)
    (r, restore s t)

/-- Run and look at how it ended. -/
def attempt (x : Sh α) : Sh (Except Flow α) :=
  ExceptT.mk fun s =>
    let (r, t) := (ExceptT.run x).run s
    (.ok r, t)

/-- Set the status. -/
def setStatus (n : Nat) : Sh Unit := modify fun s => { s with status := n }

/-- Leave the shell. -/
def leave : Sh α := throw .exited

/-- Whether something is being left early. -/
def isSkipping : Sh Bool := do return (← get).skip != .nothing

/-! ### Input and output -/

/-- Change the machine. -/
def onMachine (f : Machine → α × Machine) : Sh α := do
  let s ← get
  let (a, machine) := f s.machine
  set { s with machine }
  return a

/-- Write to a channel where it does not matter whether that works. -/
def tell (n : Nat) (text : String) : Sh Unit := do
  let s ← get
  onMachine fun m => ((), m.tell s.channels n (Octets.bytes text))

/-- Write a message under the name of the shell. -/
def complain (message : String) : Sh Unit := do
  let s ← get
  let speaker := match s.speaker with
    | some name => name ++ ": "
    | none => ""
  tell 2 (s.name ++ ": " ++ toString s.line ++ ": " ++ speaker ++ message ++ "\n")

/-- Complain and give up. -/
def fail (message : String) : Sh α := do
  complain message
  setStatus 2
  throw .failed

/-- Write output of a command of the shell, which is kept back until the command ends. -/
def say (text : String) : Sh Unit := modify fun s => { s with output := text :: s.output }

/-! ### Variables -/

/-- Check that a variable may be changed. -/
def checkFixed (name : String) : Sh Unit := do
  if ((← get).vars.get? name).any Variable.fixed then fail (name ++ ": is read only")

/-- Change a variable and what depends on it. -/
def putVar (name : String) (v : Variable) : Sh Unit := do
  modify fun s => s.withVar name (some v)
  if name = "OPTIND" then
    match v.value with
    | none => modify fun s => { s with place := {} }
    | some text =>
      match Integer.natural? text with
      | some n => modify fun s => { s with place := { index := max n 1 } }
      | none => if text.isEmpty then modify fun s => { s with place := {} }
                else fail ("Illegal number: " ++ text)

/-- The name of a variable at the start of a text, up to an equals sign. -/
def nameIn (text : String) : Sh String := do
  let name := ((Text.splitFirst? '=' text).map Prod.fst).getD text
  if !isName name then fail (name ++ ": bad variable name")
  return name

/-- Set a variable; it is exported if it was, or if `exporting` is set. -/
def assign (text value : String) (exporting : Bool) : Sh Unit := do
  let name ← nameIn text
  checkFixed name
  let s ← get
  let exported := exporting || s.has "allexport" || (s.vars.get? name).any Variable.exported
  putVar name { value := some value, exported }

/-- Set a variable. -/
def setVar (name value : String) : Sh Unit := assign name value false

/-- Forget a variable. -/
def unsetVar (name : String) : Sh Unit := do
  checkFixed name
  modify fun s => s.withVar name none
  if name = "OPTIND" then modify fun s => { s with place := {} }

/-- Remember what a variable is, to restore it with the innermost shadows. -/
def shadow (name : String) : Sh Unit :=
  modify fun s =>
    match s.shadows with
    | frame :: rest => { s with shadows := ((name, s.vars.get? name) :: frame) :: rest }
    | [] => s

/-- Remember which options are on, to restore them with the innermost shadows. They are kept under a
name that no variable has. -/
def shadowOptions : Sh Unit :=
  modify fun s =>
    match s.shadows with
    | frame :: rest =>
      let kept : Variable := { value := some (Text.join " " s.options) }
      { s with shadows := (("-", some kept) :: frame) :: rest }
    | [] => s

/-- Restore what was shadowed. -/
def restored (s : Session) (frame : List (String × Option Variable)) : Session :=
  frame.foldl (fun s (name, before) =>
    if name = "-" then
      let names := (before.bind Variable.value).getD ""
      { s with options := (Text.split ' ' names).filter fun o => !o.isEmpty }
    else s.withVar name before) s

/-- Run with shadows of its own, and restore variables from them, the latest first. What has a name
that no variable can have cannot be forgotten again, and nothing is restored behind it. -/
def shadowing (x : Sh α) : Sh α :=
  ExceptT.mk fun old =>
    let (r, new) := (ExceptT.run x).run { old with shadows := [] :: old.shadows }
    let frame := new.shadows.headD []
    let strange := frame.find? fun (name, before) =>
      name != "-" && before.isNone && !isName name
    match r, strange with
    | .ok _, some (name, _) =>
      let undone := frame.takeWhile fun entry => entry.1 != name
      (ExceptT.run (fail (name ++ ": bad variable name"))).run
        { restored new undone with shadows := old.shadows }
    | r, _ => (r, { restored new frame with shadows := old.shadows })

/-! ### Processes -/

/-- A signal arrives. -/
def arrive (n : Nat) : Sh Unit := do
  let s ← get
  if Signal.isHarmless n then return
  match if n = 9 then none else List.lookup n s.traps with
  | some action =>
    if !action.isEmpty && !s.deaf.contains n then set { s with caught := s.caught ++ [n] }
  | none => if n = 9 || !s.deaf.contains n then throw (.killed n)

/-- Write the output that was kept back; the result says whether that worked. Who writes to a pipe
that takes no more gets a signal. -/
def flush : Sh Bool := do
  let s ← get
  let text := Text.join "" s.output.reverse
  if text.isEmpty then return true
  let (r, machine) := s.machine.write s.channels 1 (Octets.bytes text)
  set { s with machine, output := [] }
  match r with
  | .ok () => return true
  | .error e =>
    if e = .brokenPipe then arrive 13
    return false

/-- All signals arrive that are on their way to this process. -/
def receive : Sh Unit := do
  let s ← get
  let m := s.machine
  let (here, others) := m.signals.partition fun e => e.1 = s.self
  if !here.isEmpty then
    set { s with machine := { m with signals := others } }
    here.forM fun e => arrive e.2

/-- Say which signal ended a program. -/
def report (ending : Ending) : Sh Unit := do
  match ending with
  | .killed signal =>
    if signal != 2 && signal != 13 then tell 2 (Signal.description signal ++ "\n")
  | .exited _ => pure ()

/-- How a process ended, from what it came to. -/
def ending (r : Except Flow α) (s : Session) : Ending :=
  match r with
  | .error (.killed signal) => .killed signal
  | _ => .exited (s.status % 256)

/-- Run in a process of its own: only what is outside of it is kept, and how it ended. -/
def isolated (x : Sh Unit) : Sh Ending := do
  let s ← get
  let (r, t) := (ExceptT.run x).run s.child
  set { s with machine := t.machine }
  return ending r t

end Sh

/-- Take channel numbers from a text; only one digit counts. -/
def channelNumber? (text : String) : Option Nat :=
  match text.toList with
  | [c] => if c.isDigit then some (c.toNat - '0'.toNat) else none
  | _ => none

end Shell

end Scaffold
