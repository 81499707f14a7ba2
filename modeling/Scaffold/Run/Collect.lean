import Scaffold.Run.Call

/-!
# Collecting dependencies

A section of dependencies is walked with leaves that declare packages or call other sections.
Variables and conditions are evaluated as in a run, but no runner is involved.

* `Run.collect` collects the dependencies of a section. Its first argument bounds the nesting of
  calls; `Run.dependencies` passes one that the bound on calls never lets it use up.
* `Run.assistantDependencies` collects those of an assistant for the variables at hand.
-/

namespace Scaffold

namespace Run

variable {W : Type} (host : Host W)

/-- A leaf of a section of dependencies. -/
def dependencyLeaf (collect : Section → Run W (List Dependency)) (e : Entry) :
    Run W (List Dependency) := do
  let c ← context
  if e.tag = "call" then called .dependencies (c.format e.argument.render) collect []
  else if isDependencyKind e.tag then
    return [{ kind := e.tag, argument := c.formatValue e.argument }]
  else
    log .collecting .warn ("Unknown dependency type '" ++ e.tag ++ "', skipping")
    return []

/-- The walker that collects dependencies. -/
def collector (collect : Section → Run W (List Dependency)) : Walker W Dependency where
  leaf := dependencyLeaf collect
  origin := .collecting
  skipped _ := pure ()
  stopsLoops := false

/-- The dependencies that a section declares, with calls nested less than `depth` deep. -/
def collect : (depth : Nat) → Section → Run W (List Dependency)
  | 0, _ => exhausted
  | depth + 1, s => walk host (collector (collect depth)) false s

/-- The dependencies that a section declares. -/
def dependencies (s : Section) : Run W (List Dependency) := collect host (maxCalls + 1) s

/-- The dependencies of the section that a call names. -/
def callDependencies (target : String) : Run W (List Dependency) :=
  called .dependencies target (dependencies host) []

/-- The sections of dependencies that count for the variables at hand: the general one, and the one
of each argument that is set. -/
def dependencySections (a : Assistant) (vars : Vars) : List String :=
  let chosen := a.sections.keys.filter fun name =>
    ((Text.stripPrefix? (dependenciesSectionName ++ "_") name).bind vars.get?).any Value.truthy
  dependenciesSectionName :: chosen

/-- Collect named sections of an assistant in order, those that exist. -/
def collectNamed (a : Assistant) : List String → Run W (List Dependency)
  | [] => pure []
  | name :: rest =>
    match a.sections.get? name with
    | none => collectNamed a rest
    | some s => do
      log .collecting .debug ("Resolving " ++ name ++ " of " ++ a.name)
      andThen (dependencies host s) (collectNamed a rest)

/-- The dependencies of an assistant. -/
def assistantDependencies (a : Assistant) : Run W (List Dependency) := do
  let c ← context
  forked (fun c => { c with kind := .dependencies, assistant := a })
    (collectNamed host a (dependencySections a c.vars))

/-- The dependencies of several assistants, each from the same variables. -/
def chainDependencies : List Assistant → Run W (List Dependency)
  | [] => pure []
  | a :: rest => andThen (assistantDependencies host a) (chainDependencies rest)

end Run

end Scaffold
