import Scaffold.Run.Section

/-!
# Running a path of assistants

An assistant is invoked by a role and a path of names. Its run collects the dependencies of every
assistant on the path, gives them to the installer in one batch, and runs the `run` section of the
last one with its files pushed.

* `Invocation.prepare` adds the path and the argument defaults to the variables; a required argument
  must be there.
* `Invocation.run` carries the run out.
-/

namespace Scaffold

/-- A role and the assistants on the invoked path. -/
structure Invocation where
  role : String
  chain : List Assistant
deriving Inhabited

namespace Invocation

/-- Resolve a path of names below a role. -/
def ofLibrary (l : Library) (role : String) (names : List String) :
    Except ConfigError Invocation :=
  (l.chain role names).map fun chain => { role, chain }

/-- The assistant whose `run` section is run. -/
def assistant? (i : Invocation) : Option Assistant := i.chain.getLast?

/-- Number names from `n` on. -/
def numbered (names : List String) (n : Nat) (vars : Vars) : Vars :=
  match names with
  | [] => vars
  | name :: rest => numbered rest (n + 1) (vars.insert (pathVar n) (.text name))

/-- Add what declared arguments are missing; one without a default must not be required. -/
def addDefaults : List (String × Argument) → Vars → Except ExecutionError Vars
  | [], vars => .ok vars
  | (name, arg) :: rest, vars =>
    if vars.contains name then addDefaults rest vars
    else match arg.initial with
      | some v => addDefaults rest (vars.insert name v)
      | none =>
        if arg.required then .error (.missingArgument name) else addDefaults rest vars

/-- The variables of a run: the path, then the defaults of each assistant on it. -/
def prepare (i : Invocation) (vars : Vars) : Except ExecutionError Vars :=
  addDefaults (i.chain.flatMap fun a => a.args.entries)
    (numbered (i.role :: i.chain.map Assistant.name) 0 vars)

variable {W : Type}

/-- The context a run starts in: `base` gives working directory and interpreter. -/
def start (i : Invocation) (l : Library) (base : Context) (vars : Vars) :
    Except Error Context :=
  match i.assistant? with
  | none => .error (.config (.assistantNotFound i.role))
  | some assistant =>
    match i.prepare vars with
    | .ok vars => .ok { base with vars, assistant, library := l }
    | .error e => .error (.execution e)

/-- Install what the path needs, and run the last assistant on it. -/
def carryOut (i : Invocation) (env : Env W) : Run W Unit := do
  let a := (← Run.context).assistant
  Run.log .invocation .info "Resolving dependencies..."
  let deps ← Run.chainDependencies env.host i.chain
  if ← Run.isCancelled then return
  Run.installResolved env (Run.interpreter env Run.reentryLimit) deps
  match a.sections.get? runSectionName with
  | some s =>
    Run.log .invocation .info ("Running " ++ a.fullname ++ "...")
    Run.withFiles a.fileTable (Run.runSection env Run.reentryLimit s)
  | none => Run.log .invocation .debug (a.name ++ " has no run section")

/-- Run a path: the result is the final context. -/
def run (i : Invocation) (env : Env W) (l : Library) (base : Context) (vars : Vars)
    (w : World W) : Except Failure Context × World W :=
  match i.start l base vars with
  | .error e => (.error (.error e), w)
  | .ok context =>
    let (result, s) := i.carryOut env { context, world := w }
    (result.map fun _ => s.context, s.world)

end Invocation

end Scaffold
