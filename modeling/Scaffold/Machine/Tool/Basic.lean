import Scaffold.Machine.Basic
import Scaffold.Machine.Tool.Help
import Scaffold.Machine.Tool.Options
import Scaffold.Machine.Tool.Quote

/-!
# Tools

A tool is a small program of a machine. It runs as a computation that can read and open files, keeps
its output back until it complains or ends, and may exit at any point. Output that could not be
written is reported at the end, once.
-/

namespace Scaffold

namespace Tool

/-- The state of a running tool. -/
structure State where
  machine : Machine
  process : Process
  /-- Which tool it is, whatever it was called. -/
  tool : String := ""
  /-- Output that is not written yet, latest first. -/
  pending : List String := []
  /-- Why output could not be written. -/
  lost : Option IoError := none
deriving Inhabited

end Tool

/-- A computation of a tool, which may end it. -/
abbrev Tool := ExceptT Ending (StateM Tool.State)

namespace Tool

variable {α : Type}

/-- Exit with a status. -/
def exit (status : Nat) : Tool α := throw (.exited status)

/-- Write what is pending. Who writes to a pipe that takes no more gets a signal. -/
def flush : Tool Unit := do
  let s ← get
  let text := Text.join "" s.pending.reverse
  if text.isEmpty then return
  let (result, machine) := s.machine.write s.process.channels 1 (Octets.bytes text)
  match result with
  | .ok () => set { s with machine, pending := [] }
  | .error e =>
    set { s with machine, pending := [], lost := some (s.lost.getD e) }
    if e = .brokenPipe && !s.process.deaf.contains 13 then throw (.killed 13)

/-- Write to standard output. -/
def say (text : String) : Tool Unit := modify fun s => { s with pending := text :: s.pending }

/-- Write a line to standard error, after all output so far. -/
def mutter (line : String) : Tool Unit := do
  flush
  modify fun s =>
    { s with machine := s.machine.tell s.process.channels 2 (Octets.bytes (line ++ "\n")) }

/-- Complain under the name of the tool. -/
def complain (message : String) : Tool Unit := do mutter ((← get).process.name ++ ": " ++ message)

/-- Complain and exit. -/
def die (status : Nat) (message : String) : Tool α := do
  complain message
  exit status

/-- Point to the help text and exit. -/
def pointToHelp (status : Nat) : Tool α := do
  mutter ("Try '" ++ (← get).process.name ++ " --help' for more information.")
  exit status

/-- Complain about how the tool was called, and exit. -/
def misuse (status : Nat) (message : String) : Tool α := do
  complain message
  pointToHelp status

/-- Write the help text and exit. -/
def help : Tool α := do
  let s ← get
  (Help.lines s.tool s.process.name).forM fun line => say (line ++ "\n")
  exit 0

/-- Write the version and exit. -/
def version : Tool α := do
  say (Help.version (← get).tool ++ "\n")
  exit 0

/-- Help or the version, for a tool that has only these two options: each must be the only
argument. -/
def standardOption (args : List String) : Tool Unit :=
  match args with
  | ["--help"] => help
  | ["--version"] => version
  | _ => return

/-- Deal with the options of a command line one after the other. Help and the version are given as
soon as they are asked for. -/
def eachOption {σ : Type} (status : Nat) (apply : σ → String → Option String → Tool σ) :
    List Options.Step → σ → Tool σ
  | [], settings => return settings
  | .mistake message :: _, _ => misuse status message
  | .option "help" _ :: _, _ => help
  | .option "version" _ :: _, _ => version
  | .option code argument :: rest, settings => do
    eachOption status apply rest (← apply settings code argument)

/-- The group of words that the argument of an option is from. A word may be cut off as long as the
words it could be mean the same. -/
def choose (context : String) (groups : List (List String)) (text : String) :
    Tool (List String) := do
  let holding (p : String → Bool) : List (List String) := groups.filter fun g => g.any p
  match holding (· == text), holding (Text.startsWith text) with
  | exact :: _, _ => return exact
  | [], [only] => return only
  | [], found =>
    let kind := if found.isEmpty then "invalid" else "ambiguous"
    complain (kind ++ " argument " ++ Quote.plain text ++ " for " ++ Quote.plain context)
    mutter "Valid arguments are:"
    groups.forM fun g => mutter ("  - " ++ Text.join ", " (g.map Quote.plain))
    pointToHelp 1

/-! ### Files -/

/-- The files of the machine. -/
def files : Tool Files := do return (← get).machine.files

/-- Change the files of the machine. -/
def setFiles (f : Files) : Tool Unit :=
  modify fun s => { s with machine := { s.machine with files := f } }

/-- The place a name of bytes stands for. -/
def find (name : String) (follow : Bool) : Tool (Except IoError Place) := do
  let s ← get
  return s.machine.files.find s.process.dir (Machine.path name) follow

/-- What a name stands for, with links followed. -/
def item? (name : String) : Tool (Option Item) := do
  match ← find name true with
  | .ok place => return place.item
  | .error _ => return none

/-- Whether a name stands for a directory. -/
def isDir (name : String) : Tool Bool := do return (← item? name) == some .directory

/-- Open a file. -/
def openFile (name : String) (access : Machine.Access) : Tool (Except IoError Nat) := do
  let s ← get
  let (result, machine) := s.machine.openPath s.process.channels s.process.dir name access
  set { s with machine }
  return result

/-- Read from an open file, all of it or up to a limit. -/
def readOpened (k : Nat) (limit : Option Nat) : Tool (Except IoError Bytes) := do
  let s ← get
  let (result, machine) := s.machine.read [(0, k)] 0 limit
  set { s with machine }
  return result

/-- What an open file would give, without taking it. -/
def peekOpened (k : Nat) : Tool (Except IoError Bytes) := do
  let m := (← get).machine
  return ((m.opened[k]?).map m.available).getD (.error .badDescriptor)

/-- Whether an open file can be read again from an earlier place. -/
def isSeekable (k : Nat) : Tool Bool := do
  match (← get).machine.opened[k]? with
  | some { stream := .file _, .. } => return true
  | _ => return false

/-- What an open file leads to. -/
def streamOf (k : Nat) : Tool Stream := do
  return (((← get).machine.opened[k]?).map Opened.stream).getD .null

/-- The open file that standard input is. -/
def standardInput : Tool (Except IoError Nat) := do
  match (← get).process.channels.get? 0 with
  | some k => return .ok k
  | none => return .error .badDescriptor

/-- Why something could not be read: it could not be opened, or not be read then. -/
inductive Unread where
  | unopened (e : IoError)
  | unread (e : IoError)
deriving DecidableEq, Repr, Inhabited

/-- The reason. -/
def Unread.reason : Unread → String
  | .unopened e => e.reason
  | .unread e => e.reason

/-- The content of a file as a text of bytes; a dash is standard input. -/
def content (name : String) : Tool (Except Unread String) := do
  match ← if name = "-" then standardInput else openFile name .read with
  | .error e => return .error (if name = "-" then .unread e else .unopened e)
  | .ok k =>
    match ← readOpened k none with
    | .ok bytes => return .ok (Octets.ofBytes bytes)
    | .error e => return .error (.unread e)

/-! ### Running -/

/-- Run a tool by its name. `failure` is the status for lost output. -/
def run (tool : String) (failure : Nat) (x : Tool Nat) (p : Process) (m : Machine) :
    Ending × Machine :=
  let go : Tool Nat := do
    let status ← tryCatch x fun
      | .exited status => return status
      | .killed signal => throw (.killed signal)
    flush
    let s ← get
    match s.lost with
    | none => return status
    | some e =>
      complain ("write error: " ++ e.reason)
      return failure
  let (r, s) := (ExceptT.run go).run { machine := m, process := p, tool }
  match r with
  | .ok status => (.exited status, s.machine)
  | .error ending => (ending, s.machine)

/-- The lines of a text, and whether the last one is complete. -/
def lines (text : String) : List String × Bool :=
  if text.isEmpty then ([], true)
  else
    let parts := Text.split '\n' text
    if Text.endsWith "\n" text then (parts.dropLast, true) else (parts, false)

end Tool

end Scaffold
