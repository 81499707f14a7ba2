import Scaffold.Marker
import Scaffold.Run.Context

/-!
# Shell commands

A command line is given to the interpreter of the context, in the working directory, with its error
output joined to its output. A line that starts with `cd` and a space changes the working directory
of the context and starts no process. Every line of output is a message.

`runShell` gives the output without blanks around it; a command that fails or does not start is a
`commandFailed` error that carries the output.
-/

namespace Scaffold

/-- How a command is logged. -/
structure ShellOptions where
  level : Level := .debug
  logErrors : Bool := true
deriving DecidableEq, Repr, Inhabited

namespace ShellOptions

/-- The options that the letters of a tag ask for: `i` logs as information, `n` logs no errors. -/
def ofTag (tag : String) : ShellOptions :=
  let flags := (Text.stripPrefix? "cl" tag).getD tag
  { level := if Text.contains 'i' flags then .info else .debug
    logErrors := !Text.contains 'n' flags }

/-- Nothing but debug messages. -/
def quiet : ShellOptions := { level := .debug, logErrors := false }

/-- Information messages, errors logged. -/
def loud : ShellOptions := { level := .info, logErrors := true }

end ShellOptions

/-- A command line that runs inside scopes. -/
def wrapScopes (command : String) (labels : List String) : String :=
  if labels.isEmpty then command
  else "scl " ++ Text.join " " labels ++ " - << DA_SCL_EOF\n " ++ command ++ "\nDA_SCL_EOF"

/-- The lines of an output, each without the blanks at its end. -/
def outputLines (output : Bytes) : List String :=
  let lines := output.splitOn 10
  let lines := if lines.getLast? == some [] then lines.dropLast else lines
  lines.map fun line => Text.trimEnd (Utf8.decodeLossy line)

namespace Run

variable {W : Type} (host : Host W)

/-- Log a message per line. -/
def logLines (level : Level) : List String → Run W Unit
  | [] => pure ()
  | line :: rest => do
    log .shell level line
    logLines level rest

/-- Change the working directory. -/
def changeDir (dir : String) (options : ShellOptions) : Run W String := do
  let c ← context
  let w ← world
  let target := projectDir host w.outside dir c.workingDir
  if host.isDir w.outside target then
    log .shell options.level ("$ cd " ++ target)
    modifyContext fun c => { c with workingDir := target }
    return ""
  else
    let output := "cd: no such directory: " ++ target
    if options.logErrors then log .shell .error output
    fail (.execution (.commandFailed ("cd " ++ dir) none output))

/-- A command that did not start. -/
def notStarted (command reason : String) (options : ShellOptions) : Run W String := do
  log .shell (if options.logErrors then .error else .debug)
    ("Couldn't run '" ++ command ++ "': " ++ reason)
  fail (.execution (.commandFailed command none ""))

/-- What became of a command that was started. -/
def finished (command : String) (options : ShellOptions) (f : Finished) : Run W String := do
  let lines := outputLines f.output
  logLines options.level lines
  let output := Text.trim (Text.join "\n" lines)
  if f.code = some 0 then return output
  else
    if options.logErrors then
      log .shell .error
        ("Command '" ++ command ++ "' failed with exit code " ++ exitCodeText f.code)
    fail (.execution (.commandFailed command f.code output))

/-- Run a command line, or change the working directory. -/
def runShell (command : String) (options : ShellOptions) : Run W String := do
  match Text.stripPrefix? "cd " (Text.trim command) with
  | some dir => changeDir host (Text.trim dir) options
  | none =>
    let c ← context
    log .shell options.level ("$ " ++ command)
    match c.interpreter with
    | [] => notStarted command "no interpreter configured" options
    | program :: arguments =>
      let launch : Launch :=
        { program
          arguments := arguments ++ ["exec 2>&1\n" ++ wrapScopes command c.labels]
          directory := c.workingDir }
      record (.launched launch)
      match ← outside (host.spawn · launch) with
      | .error e => notStarted command (program ++ ": " ++ e.message) options
      | .ok f => finished command options f

end Run

end Scaffold
