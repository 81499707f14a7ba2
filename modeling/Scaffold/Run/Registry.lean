import Scaffold.Run.Collect
import Scaffold.Run.Procedure

/-!
# Runners

A leaf command of a run is given to the first runner of the registry that accepts it. Six runners
are built in; further ones can be added behind them. Dependencies are installed by an installer: one
that runs package managers, one that only records, or one that is not built in.
-/

namespace Scaffold

/-- A command needs a text argument: lists and mappings are refused. -/
def Command.format (c : Context) (command : Command) : Except SyntaxError String :=
  let refuse : Except SyntaxError String :=
    .error (.invalidExpression ("'" ++ command.tag ++ "' expects a string argument, got " ++
      command.argument.kindName))
  match command.argument with
  | .list _ => refuse
  | .mapping _ => refuse
  | other => .ok (c.format other.render)

/-- A runner that is not built in. -/
structure ExtraRunner (W : Type) where
  name : String
  accepts : Command → Bool
  run : Command → Procedure W Value

/-- Carry out a command with a runner that is not built in. -/
def ExtraRunner.carryOut {W : Type} (r : ExtraRunner W) (i : Interpreter W) (command : Command) :
    Run W Value := (r.run command).perform i

/-- Something that installs dependencies. -/
inductive Installer (W : Type) where
  /-- It runs package managers in the shell. -/
  | command (host : Host W)
  /-- It only records. -/
  | recording
  /-- It is not built in. -/
  | extra (install : List Dependency → Procedure W Unit)

/-- A runner for a family of commands. -/
inductive Runner (W : Type) where
  | call
  | shell
  | dependencies (installer : Installer W)
  | marker
  | github
  | log
  | extra (r : ExtraRunner W)

namespace Runner

variable {W : Type}

/-- The name of a runner. -/
def name : Runner W → String
  | .call => "call"
  | .shell => "cl"
  | .dependencies _ => "dependencies"
  | .marker => "dda"
  | .github => "github"
  | .log => "log"
  | .extra r => r.name

/-- The commands a runner is for. The built-in ones look at the tag alone. -/
def accepts : Runner W → Command → Bool
  | .call, command => command.tag == "call"
  | .shell, command => Text.startsWith "cl" command.tag
  | .dependencies _, command => Text.startsWith "dependencies" command.tag
  | .marker, command => Text.startsWith "dda_" command.tag
  | .github, command => command.tag == "github"
  | .log, command => Text.startsWith "log_" command.tag
  | .extra r, command => r.accepts command

/-- What is seen of a runner from outside. -/
def face (r : Runner W) : Face := { name := r.name, accepts := r.accepts }

end Runner

/-- Runners in order of priority, and the installer for collected dependencies. -/
structure Registry (W : Type) where
  runners : List (Runner W) := []
  installer : Option (Installer W) := none

namespace Registry

variable {W : Type}

/-- The built-in runners with an installer. -/
def withInstaller (i : Installer W) : Registry W :=
  { runners := [.call, .shell, .dependencies i, .marker, .github, .log], installer := some i }

/-- Add a runner behind all others. -/
def register (r : Registry W) (runner : Runner W) : Registry W :=
  { r with runners := r.runners ++ [runner] }

/-- The runner a command goes to. -/
def resolve? (r : Registry W) (command : Command) : Option (Runner W) :=
  r.runners.find? fun runner => runner.accepts command

/-- The names of the runners in order. -/
def names (r : Registry W) : List String := r.runners.map Runner.name

/-- What is seen of the runners from outside, in order. -/
def faces (r : Registry W) : List Face := r.runners.map Runner.face

end Registry

/-! ### Installers -/

namespace Installer

variable {W : Type}

/-- Install each dependency with the package manager of its kind. -/
def installEach (host : Host W) : List Dependency → Run W Unit
  | [] => pure ()
  | d :: rest => do
    if !d.packages.isEmpty then
      match installCommand? d.kind with
      | none => Run.log .installing .warn ("Unknown dependency type '" ++ d.kind ++ "', skipping")
      | some manager =>
        Run.log .installing .info
          ("Installing " ++ d.kind ++ " dependencies: " ++ Text.join ", " d.packages)
        let _ ← Run.runShell host (manager ++ " " ++ Text.join " " d.packages) .loud
    installEach host rest

/-- Say what would be installed. -/
def announceEach : List Dependency → Run W Unit
  | [] => pure ()
  | d :: rest => do
    Run.log .installing .info
      ("Would install " ++ d.kind ++ " dependencies: " ++ Text.join ", " d.packages)
    announceEach rest

/-- Install dependencies. -/
def install (i : Interpreter W) : Installer W → List Dependency → Run W Unit
  | .command host, deps => installEach host deps
  | .recording, deps => do
    announceEach deps
    Run.record (.recorded deps)
  | .extra install, deps => (install deps).perform i

end Installer

/-- The host and the registry of a run. -/
structure Env (W : Type) where
  host : Host W
  registry : Registry W

namespace Run

variable {W : Type}

/-- Give collected dependencies to the installer of the registry. -/
def installResolved (env : Env W) (i : Interpreter W) (deps : List Dependency) : Run W Unit :=
  match env.registry.installer with
  | some installer => installer.install i deps
  | none => log .installing .warn "No dependency installer configured, skipping installation"

end Run

/-! ### Observing runners -/

/-- Note a command. A tag that ends in `_v` keeps its argument a value, all others need a text; one
that starts with `stop` also cancels the run. -/
def observe {W : Type} (name : String) (command : Command) : Run W Value := do
  if Text.startsWith "stop" command.tag then Run.cancel
  let c ← Run.context
  let argument ←
    if Text.endsWith "_v" command.tag then pure (c.formatValue command.argument)
    else Value.text <$> Run.ofSyntax (command.format c)
  Run.record (.noted
    { runner := name, tag := command.tag, argument, labels := c.labels, calls := c.calls,
      filesDepth := c.files.length, kind := c.kind })
  return argument

/-- A runner that notes the commands it is given and changes nothing. -/
def observer (W : Type) (name start : String) : ExtraRunner W where
  name := name
  accepts command := Text.startsWith start command.tag
  run command := .ofRun (observe name command)

end Scaffold
