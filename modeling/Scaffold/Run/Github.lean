import Scaffold.Run.Registry

/-!
# Publishing on GitHub

The `github` command pushes a new project to a repository of the user. Login and repository name
come from variables; a login that is not the system user goes through a host alias of its own.
-/

namespace Scaffold

namespace Github

variable {W : Type} (host : Host W)

/-- The login: the variable `github`, else the name of the system user. -/
def login? (w : W) (vars : Vars) : Option String :=
  let given := ((vars.get? "github").map Value.render).filter fun s => !s.isEmpty
  given <|> host.environment? w "USER" <|> host.environment? w "USERNAME"

/-- The repository name: the base name of the variable `name`, which may be a path. -/
def repoName (vars : Vars) : Except ExecutionError String :=
  match ((vars.get? "name").map Value.render).filter fun s => !s.isEmpty with
  | some name => .ok ((Path.fileName? name).getD name)
  | none => .error (.missingArgument "name")

/-- The address of a repository. -/
def remoteUrl (w : W) (login repo : String) : String :=
  let hostAlias := if (host.environment? w "USER").getD "" = login then "" else "-" ++ login
  "git@github.com" ++ hostAlias ++ ":" ++ login ++ "/" ++ repo ++ ".git"

/-- The repository name of a run. -/
def repo : Run W String := do
  let c ← Run.context
  match repoName c.vars with
  | .ok name => return name
  | .error e => Run.fail (.execution e)

/-- Push the working directory. -/
def push : Run W Unit := do
  let c ← Run.context
  let w ← Run.world
  match login? host w.outside c.vars with
  | none => Run.fail (.execution (.missingArgument "github"))
  | some login =>
    let name ← repo
    let url := remoteUrl host w.outside login name
    let _ ← Run.runShell host ("git remote add origin " ++ url) .loud
    let _ ← Run.runShell host "git remote show origin" {}
    let _ ← Run.runShell host "git push -u origin master" .loud

/-- Say that a repository is not created. -/
def createRepo : Run W Unit := do
  let name ← repo
  Run.log .publishing .warn
    ("Creating GitHub repository '" ++ name ++ "' needs an authenticated API client, skipping")

/-- Create a repository and push to it. -/
def createAndPush : Run W Unit := do
  let name ← repo
  Run.log .publishing .info ("Registering your project on GitHub as " ++ name ++ "...")
  createRepo
  Run.log .publishing .info "Pushing your project to the GitHub repository..."
  push host

/-- Carry out a `github` command. -/
def run (action : String) : Run W Unit :=
  if action = "create_repo" then createRepo
  else if action = "push" then push host
  else if action = "create_and_push" then createAndPush host
  else Run.log .publishing .warn ("Unknown github command '" ++ action ++ "', skipping")

end Github

end Scaffold
