import Scaffold.Run.Registry

/-!
# Markers in a run

The commands that write the marker of a project, read it, install what it depends on and run the
section it holds. The invoked path of assistants is kept in variables of its own.
-/

namespace Scaffold

/-- The variable that holds an element of the invoked path. -/
def pathVar (n : Nat) : String := "subassistant_" ++ toString n

/-- Elements of the invoked path from the `n`-th on, at most `fuel` many. -/
def invokedFrom (vars : Vars) : (fuel n : Nat) → List String
  | 0, _ => []
  | fuel + 1, n =>
    match vars.get? (pathVar n) with
    | some v => v.render :: invokedFrom vars fuel (n + 1)
    | none => []

/-- The invoked path: the variables numbered from zero, up to the first that is missing. No more of
them can be set than there are variables. -/
def invokedPath (vars : Vars) : List String := invokedFrom vars vars.entries.length 0

namespace Marker

variable {W : Type} (host : Host W)

/-- The marker that a run leaves: its path, and the declared arguments that are set. -/
def ofContext (c : Context) : Marker :=
  let given := c.assistant.args.keys.filterMap fun name => (c.vars.get? name).map (name, ·)
  create (invokedPath c.vars) (Table.ofList given)

/-- Write the marker of a project. -/
def writeIn (dir : String) : Run W Unit := do
  let c ← Run.context
  match ← Run.outside fun w => (ofContext c).write host w dir with
  | .ok path => Run.log .marking .debug ("Wrote " ++ path)
  | .error e => Run.fail (.execution e)

/-- Read the marker of a project. -/
def readIn (dir : String) : Run W Marker := do
  let w ← Run.world
  match read host w.outside dir with
  | .ok m => return m
  | .error e =>
    Run.log .marking .error e.message
    Run.fail (.execution e)

/-- A section that a marker holds. -/
def section? (m : Marker) (name : String) : Except SyntaxError Section :=
  (Section.ofValue (m.extraValue name)).mapError fun e =>
    .invalidSection ("marker " ++ name ++ ": " ++ e.message)

/-- The dependencies of the assistants that created a project, for the arguments it was created
with. -/
def creatorDependencies (m : Marker) : Run W (List Dependency) := do
  if m.path.isEmpty then return []
  let c ← Run.context
  match c.library.chain creatorRole m.path with
  | .ok chain =>
    Run.forked (fun c => { c with kind := .dependencies, vars := m.arguments })
      (Run.chainDependencies host chain)
  | .error e =>
    Run.log .marking .warn e.message
    return []

/-- Install what a project depends on: what its assistants need, then what its marker adds. -/
def installIn (env : Env W) (i : Interpreter W) (dir : String) : Run W Unit := do
  let m ← readIn env.host dir
  let needed ← m.creatorDependencies env.host
  let extra ← Run.ofSyntax (m.section? dependenciesSectionName)
  let added ← Run.forked (fun c => { c with kind := .dependencies })
    (Run.dependencies env.host extra)
  Run.installResolved env i (needed ++ added)

/-- Run the section that a marker holds, on a copy of the context. -/
def runIn (runSection : Section → Run W Unit) (dir : String) : Run W Unit := do
  let m ← readIn host dir
  let s ← Run.ofSyntax (m.section? runSectionName)
  Run.forked (fun c => { c with kind := .run }) (runSection s)

/-- Carry out a marker command on a project directory. -/
def run (env : Env W) (i : Interpreter W) (tag dir : String) : Run W Value := do
  if tag = "dda_c" then
    writeIn env.host dir
    return .null
  else if tag = "dda_r" then
    let m ← readIn env.host dir
    return m.exposed dir
  else if tag = "dda_dependencies" then
    installIn env i dir
    return .null
  else if tag = "dda_run" then
    runIn env.host i.runSection dir
    return .null
  else
    Run.log .marking .warn ("Unknown .devassistant command '" ++ tag ++ "', skipping")
    return .null

end Marker

end Scaffold
