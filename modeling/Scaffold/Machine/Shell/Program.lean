import Scaffold.Machine.Shell.Session
import Scaffold.Machine.Tool

/-!
# Programs

How a program is found and started: tools of the machine, shells, and files whose first line names
the program that reads them. A shell is started by a function that is handed in.
-/

namespace Scaffold

namespace Shell

/-- How a shell runs as a process: from its process, its arguments and the machine. -/
abbrev Start := Process → List String → Machine → Ending × Machine

/-! ### Search -/

/-- The paths at which a program may be found. -/
def candidates (search name : String) : List String :=
  (Text.split ':' search).map fun dir => if dir.isEmpty then name else dir ++ "/" ++ name

/-- Whether something can be run. -/
def isRunnable : Item → Bool
  | .file _ executable => executable
  | .tool _ => true
  | _ => false

/-- Look for a program in directories. The failure says that something is there but cannot be run.
-/
def findProgram (files : Files) (dir search name : String) : Except IoError String :=
  let there := (candidates search name).filterMap fun path =>
    (files.item? dir (Machine.path path)).map fun item => (path, item)
  match there.find? fun e => isRunnable e.2 with
  | some (path, _) => .ok path
  | none => .error (if there.isEmpty then .noEntry else .notPermitted)

/-! ### Files that name their interpreter -/

/-- How much of the first line counts. -/
def firstLineLimit : Nat := 255

/-- The interpreter that the first line of a file names, and the argument it is given. -/
def interpreter? (content : Bytes) : Option (String × Option String) :=
  let isSpace (c : Char) : Bool := c == ' ' || c == '\t'
  match Octets.chars (content.take firstLineLimit) with
  | '#' :: '!' :: rest =>
    let line := (rest.takeWhile (· != '\n')).dropWhile isSpace
    let line := (line.reverse.dropWhile isSpace).reverse
    let program := line.takeWhile fun c => !isSpace c
    let arg := (line.drop program.length).dropWhile isSpace
    if program.isEmpty then none
    else some (String.ofList program, if arg.isEmpty then none else some (String.ofList arg))
  | _ => none

/-- How many files may name each other as interpreters. -/
def interpreterLimit : Nat := 5

/-- The longest argument of a program, and the longest entry of its environment. -/
def argumentLimit : Nat := 131071

/-- How many bytes all arguments and the whole environment may take, with a word for each. -/
def argumentsLimit : Nat := 2097152

/-- Whether arguments and environment of a program are too long. -/
def isTooLong (p : Process) (path : String) (args : List String) : Bool :=
  let entries := p.environment.entries.map fun e => e.1.length + e.2.length + 1
  let lengths := p.name.length :: args.map String.length ++ entries
  lengths.any (· > argumentLimit) ||
    lengths.foldl (fun n k => n + k + 9) (path.length + 1) > argumentsLimit

/-- Start what stands at a path. The fuel bounds how many files name each other as interpreters. -/
def startItem (shell : Start) (p : Process) (path : String) (args : List String) (m : Machine) :
    (fuel : Nat) → Item → Except IoError (Ending × Machine)
  | _, .directory => .error .notPermitted
  | _, .link _ => .error .noEntry
  | _, .device _ => .error .notPermitted
  | _, .tool name =>
    if name = "sh" then .ok (shell p args m)
    else match Tool.start? name args p m with
      | some r => .ok r
      | none => .error .noEntry
  | 0, .file _ _ => .error .tooManyLinks
  | fuel + 1, .file content executable =>
    if !executable then .error .notPermitted
    else match interpreter? content with
      | none => .error .execFormat
      | some (program, arg) =>
        match m.files.resolve p.dir (Machine.path program) with
        | .error e => .error e
        | .ok { item := none, .. } => .error .noEntry
        | .ok { item := some item, .. } =>
          startItem shell { p with name := program } program (arg.toList ++ path :: args) m fuel
            item

/-- Start a program by its path. -/
def startPath (shell : Start) (p : Process) (path : String) (args : List String) (m : Machine) :
    Except IoError (Ending × Machine) := do
  match (← m.files.resolve p.dir (Machine.path path)).item with
  | none => .error .noEntry
  | some item =>
    if isTooLong p path args && isRunnable item then .error .argumentsTooLong
    else startItem shell p path args m interpreterLimit item

/-- Start a program by its path; a file that names no interpreter is read by a shell. -/
def startScript (shell : Start) (p : Process) (path : String) (args : List String) (m : Machine) :
    Except IoError (Ending × Machine) :=
  match startPath shell p path args m with
  | .error .execFormat => startPath shell { p with name := "/bin/sh" } "/bin/sh" (path :: args) m
  | r => r

/-- Start the first candidate that can be; one that is there and may not be started counts if no
other can. -/
def startFirst (shell : Start) (p : Process) (args : List String) (m : Machine) :
    List String → IoError → Except IoError (Ending × Machine)
  | [], e => .error e
  | path :: rest, e =>
    match startPath shell p path args m with
    | .ok r => .ok r
    | .error .noEntry => startFirst shell p args m rest e
    | .error .notDirectory => startFirst shell p args m rest e
    | .error .notPermitted => startFirst shell p args m rest .notPermitted
    | .error other => .error other

/-- Start a program by its name. -/
def startNamed (shell : Start) (p : Process) (search program : String) (args : List String)
    (m : Machine) : Except IoError (Ending × Machine) :=
  if program.isEmpty then .error .noEntry
  else if Text.contains '/' program then startPath shell p program args m
  else startFirst shell p args m (candidates search program) .noEntry

/-! ### What a shell says and does -/

/-- The reason why a program could not be started. -/
def startReason : IoError → String
  | .noEntry => "not found"
  | .notDirectory => "not found"
  | e => e.reason

/-- The status of a program that could not be started. -/
def startStatus : IoError → Nat
  | .noEntry => 127
  | .notDirectory => 127
  | .tooManyLinks => 127
  | .nameTooLong => 127
  | _ => 126

/-- Remember where a program was found. -/
def remember (name path : String) : Sh Unit :=
  modify fun s => { s with remembered := s.remembered ++ [(name, path)] }

/-- The path of a program, which is remembered if it is looked for in the directories of the shell.
A name with a separator is a path. -/
def locate (search name : String) : Sh (Except IoError String) := do
  if Text.contains '/' name then return .ok name
  let s ← get
  let isUsual := search == s.searchPath
  match if isUsual then List.lookup name s.remembered else none with
  | some path => return .ok path
  | none =>
    match findProgram s.machine.files (Machine.path s.dir) search name with
    | .ok path =>
      if isUsual then remember name path
      return .ok path
    | .error e => return .error e

end Shell

end Scaffold
