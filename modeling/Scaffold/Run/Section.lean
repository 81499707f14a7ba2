import Scaffold.Run.Github
import Scaffold.Run.Project

/-!
# Running a section

`Run.dispatch` gives a command to the runner that accepts it. Two built-in commands run sections
again, a call and the run section of a marker, and code that is not built in may ask for anything
that the interpreter does. `Run.interpreter` ties the knot by recursion on how many such re-entries
may be nested; a run that needs more ends as `exhausted`, and one that finishes does not depend on
the bound.
-/

namespace Scaffold

/-- The level of a logging tag, and whether it ends the run. -/
def logLevel? (tag : String) : Option (Level × Bool) :=
  (Text.stripPrefix? "log_" tag).bind fun letter =>
    if letter = "d" then some (.debug, false)
    else if letter = "i" then some (.info, false)
    else if letter = "w" then some (.warn, false)
    else if letter = "e" || letter = "c" then some (.error, true)
    else none

namespace Run

variable {W : Type}

/-- Carry out a logging command. -/
def runLog (tag message : String) : Run W Unit :=
  match logLevel? tag with
  | some (level, fatal) => do
    log .shell level message
    if fatal then fail (.execution (.logged message))
  | none =>
    log .logging .warn ("Unknown logging command '" ++ tag ++ "' with message '" ++ message ++ "'")

/-- Carry out a `call` command: a run for its effects, or the dependencies it collects. -/
def runCall (host : Host W) (runSection : Section → Run W Unit) (target : String) :
    Run W Value := do
  match (← context).kind with
  | .run =>
    called .run target runSection ()
    return .null
  | .dependencies => return dependenciesToValue (← callDependencies host target)

/-- Carry out a `dependencies` command. -/
def runDependencies (i : Interpreter W) (installer : Installer W) (command : Command) :
    Run W Unit := do
  if command.tag = dependenciesSectionName then
    let c ← context
    let deps ← ofSyntax (dependenciesOfValue (c.formatValue command.argument))
    installer.install i deps
  else log .installing .warn ("Unknown dependencies command '" ++ command.tag ++ "', skipping")

/-- The argument of a command as a text. -/
def textArgument (command : Command) : Run W String := do
  let c ← context
  ofSyntax (command.format c)

/-- Carry out a command with a runner. -/
def runWith (env : Env W) (i : Interpreter W) (command : Command) : Runner W → Run W Value
  | .call => do runCall env.host i.runSection (Text.trim (← textArgument command))
  | .shell => do
    return .text (← runShell env.host (← textArgument command) (.ofTag command.tag))
  | .dependencies installer => do
    runDependencies i installer command
    return .null
  | .marker => do
    let arg := Text.trim (← textArgument command)
    let c ← context
    let w ← world
    Marker.run env i command.tag (projectDir env.host w.outside arg c.workingDir)
  | .github => do
    Github.run env.host (Text.trim (← textArgument command))
    return .null
  | .log => do
    runLog command.tag (← textArgument command)
    return .null
  | .extra r => r.carryOut i command

/-- Give a command to the first runner that accepts it. -/
def dispatch (env : Env W) (i : Interpreter W) (command : Command) : Run W Value :=
  witnessed command
    (match env.registry.resolve? command with
     | none => fail (.config (.noRunner command.tag))
     | some runner => do
       record (.handled runner.name command)
       runWith env i command runner)

/-- The message for a command that no runner accepts. -/
def unknownCommand (tag : String) : String := "Unknown command type '" ++ tag ++ "', skipping"

/-- Dispatch a command; one that no runner accepts is skipped with a warning. -/
def runCommand (env : Env W) (i : Interpreter W) (command : Command) : Run W Value := fun s =>
  match dispatch env i command s with
  | (.error (.error (.config (.noRunner tag))), s) =>
    (log .running .warn (unknownCommand tag) >>= fun _ => pure .null) s
  | other => other

/-- The walker that runs commands. -/
def executor (env : Env W) (i : Interpreter W) : Walker W Empty where
  leaf e := do
    let _ ← runCommand env i { tag := e.tag, argument := e.argument }
    return []
  origin := .running
  skipped e := log .running .debug ("Run cancelled, skipping '" ++ e.tag ++ "'")
  stopsLoops := true

/-- An interpreter in which re-entries are carried out by `inner`. -/
def around (env : Env W) (inner : Interpreter W) : Interpreter W where
  runSection s := do
    let _ ← walk env.host (executor env inner) false s
  dispatch := dispatch env inner
  install := installResolved env inner
  runners := env.registry.faces
  hasInstaller := env.registry.installer.isSome

/-- The interpreter with at most `depth` re-entries nested in each other. -/
def interpreter (env : Env W) : (depth : Nat) → Interpreter W
  | 0 =>
    { runSection := fun _ => exhausted
      dispatch := fun _ => exhausted
      install := fun _ => exhausted
      runners := env.registry.faces
      hasInstaller := env.registry.installer.isSome }
  | depth + 1 => around env (interpreter env depth)

/-- Run a section, with at most `depth` re-entries nested in each other. -/
def runSection (env : Env W) (depth : Nat) : Section → Run W Unit :=
  (interpreter env depth).runSection

/-- How many re-entries of a run may be nested. -/
def reentryLimit : Nat := 1024

end Run

end Scaffold
