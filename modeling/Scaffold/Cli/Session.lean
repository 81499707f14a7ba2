import Scaffold.Cli.Arguments
import Scaffold.Cli.EnvFile
import Scaffold.Cli.Listing
import Scaffold.Cli.Verbosity
import Scaffold.Run.Path
import Scaffold.Text.Visible

/-!
# The program

`Session.run` carries out the arguments of the program on a host. What it leaves is an exit code,
the text of its output and the lines of its error output: messages that are shown, then the error it
ended with, from the outermost cause to the innermost.
-/

namespace Scaffold

/-- What the program leaves. -/
structure Outcome where
  code : Nat := 0
  output : String := ""
  errors : List String := []
deriving DecidableEq, Repr, Inhabited

/-- A failure of the program: causes from the outermost to the innermost, and the output of a
command that failed. -/
structure Complaint where
  causes : List String
  output : Option String := none
deriving DecidableEq, Repr, Inhabited

namespace Complaint

/-- An error of the library. -/
def ofError (e : Error) : Complaint :=
  { causes := e.message :: e.cause?.toList, output := e.commandOutput? }

/-- Name what failed. -/
def within (what : String) (c : Complaint) : Complaint := { c with causes := what :: c.causes }

/-- The lines of a complaint. -/
def lines (c : Complaint) : List String :=
  ("Error: " ++ Text.join ": " c.causes) ::
    match c.output with
    | some output => if output.isEmpty then [] else [output]
    | none => []

end Complaint

namespace Session

/-- The text that help is asked for. -/
def helpText : String :=
  Text.join "\n"
    ["Run YAML assistants that create, prepare and modify projects", "",
     "Usage: devassist [OPTIONS] [COMMAND]", "",
     "Commands:",
     "  run          Run an assistant",
     "  list         List available assistants",
     "  completions  Generate shell completions",
     "  help         Print this message or the help of the given subcommand(s)", "",
     "Options:",
     "  -l, --library <DIR>  Assistant library root; may be given several times",
     "  -q, --quiet          Only print warnings and errors",
     "  -s, --silent         Print no output",
     "  -v, --verbose        Print commands and their output",
     "  -h, --help           Print help",
     "  -V, --version        Print version", ""]

/-- The words that a shell can complete. -/
def completionText : String :=
  Text.join "\n" ["run", "list", "completions", "help", ""]

/-- The verbosity that options ask for. -/
def verbosity (o : GlobalOptions) : Verbosity :=
  if o.silent then .silent
  else if o.quiet then .quiet
  else if o.verbose then .verbose
  else .normal

/-- A character of a quoted path. -/
def quotedChar (c : Char) : String :=
  match c with
  | '"' => "\\\""
  | '\x27' => "\\'"
  | '\\' => "\\\\"
  | '\n' => "\\n"
  | '\r' => "\\r"
  | '\t' => "\\t"
  | '\x00' => "\\0"
  | c =>
    if isVisible c then String.singleton c
    else "\\u\x7b" ++ String.ofList (Nat.toDigits 16 c.toNat) ++ "\x7d"

/-- A path in quotes. -/
def quoted (s : String) : String := "\"" ++ Text.join "" (s.toList.map quotedChar) ++ "\""

/-- A list of paths in quotes. -/
def quotedList (paths : List String) : String := "[" ++ Text.join ", " (paths.map quoted) ++ "]"

/-- The value of an argument: truth values have a kind of their own. -/
def argumentValue (raw : String) : Value :=
  if raw = "true" then .bool true else if raw = "false" then .bool false else .text raw

section OnHost

variable {W : Type} (host : Host W)

/-- The variables that a run starts with: those of a file, then those of the command line. -/
def startVars (w : W) (r : RunRequest) : Except Complaint Vars := do
  let fromFile ← match r.envFile with
    | none => .ok []
    | some path =>
      let malformed : Complaint := { causes := ["Malformed env file " ++ path] }
      match host.readText w path with
      | .ok text =>
        match EnvFile.read? (host.environment? w) text with
        | some pairs => .ok pairs
        | none => .error malformed
      | .error .badEncoding => .error malformed
      | .error .isDirectory => .error malformed
      | .error e =>
        .error { causes := ["Failed to read env file " ++ path, e.message, e.message] }
  return Table.ofList ((fromFile ++ r.pairs.getD []).map fun (k, v) => (k, argumentValue v))

/-- The library of the roots that are found, and the message that names them. -/
def library (w : W) (o : GlobalOptions) : List Event × Except Complaint Library :=
  match Library.findRoots host w (o.library.getD []) with
  | .error e => ([], .error { causes := [e.message] })
  | .ok roots =>
    ([.logged .application .debug ("Library roots: " ++ quotedList roots)],
      (Library.load host w roots).mapError fun e =>
        (Complaint.ofError e).within "Failed to load assistant library")

/-- Run an assistant: events, latest first, are put before those of the run. -/
def runAssistant (r : RunRequest) (l : Library) (w : World W) :
    Except Complaint Unit × World W :=
  let installer : Installer W := if r.noDeps then .recording else .command host
  let env : Env W := { host, registry := .withInstaller installer }
  let base : Context := { workingDir := r.directory.getD (host.currentDir w.outside) }
  match Invocation.ofLibrary l r.role r.path with
  | .error e => (.error (.ofError (.config e)), w)
  | .ok invocation =>
    match startVars host w.outside r with
    | .error c => (.error c, w)
    | .ok vars =>
      let (result, w) := invocation.run env l base vars w
      let failed := "Assistant '" ++ Text.join " " (r.role :: r.path) ++ "' failed"
      match result with
      | .ok _ => (.ok (), w)
      | .error (.error e) => (.error ((Complaint.ofError e).within failed), w)
      | .error .exhausted => (.error { causes := [failed, "Too many sections run each other"] }, w)

/-- Carry out a request. -/
def perform (q : Request) (w : W) : Outcome × W :=
  let filter := (verbosity q.options).messages (host.environment? w "RUST_LOG")
  let ended (output : String) (world : World W) (r : Except Complaint Unit) : Outcome × W :=
    let shown := shownMessages filter world.history
    match r with
    | .ok () => ({ code := 0, output, errors := shown }, world.outside)
    | .error c => ({ code := 1, output, errors := shown ++ c.lines }, world.outside)
  match q.action with
  | .nothing => ({ output := helpText ++ "\n" }, w)
  | .completions _ => ({ output := completionText }, w)
  | .list role =>
    let (events, l) := library host w q.options
    let world : World W := { outside := w, events }
    match l with
    | .error c => ended "" world (.error c)
    | .ok l =>
      ended (l.listing .plain ((role.map fun r => [r]).getD l.roles)) world (.ok ())
  | .run r =>
    let (events, l) := library host w q.options
    let world : World W := { outside := w, events }
    match l with
    | .error c => ended "" world (.error c)
    | .ok l =>
      let (result, world) := runAssistant host r l world
      ended "" world result

/-- Carry out the arguments of the program, without its name. -/
def run (args : List String) (w : W) : Outcome × W :=
  match Arguments.read args with
  | .ok q => perform host q w
  | .error .helpWanted => ({ output := helpText }, w)
  | .error .versionWanted => ({ output := toolName ++ " " ++ toolVersion ++ "\n" }, w)
  | .error _ =>
    let errors := ["error: invalid arguments", "", "For more information, try '--help'."]
    ({ code := 2, errors }, w)

end OnHost

end Session

end Scaffold
