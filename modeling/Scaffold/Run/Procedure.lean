import Scaffold.Run.Context

/-!
# Code that is not built in

Runners and installers can be added to those that are built in. What they do is a `Procedure`: it
works on the context and the host in steps of its own, has the interpreter carry out requests, and
can ask which runners there are. The record of what happened is for reasoning alone, so a step has
no access to it: it sees an empty one, and what it adds comes behind the rest.

* `Interpreter`: what a registry offers to the code in it, and `Interpreter.Request`.
* `Procedure.perform`: a procedure, carried out with an interpreter.
-/

namespace Scaffold

variable {W α : Type}

/-- What is seen of a runner from outside: its name, and the commands that it is for. -/
structure Face where
  name : String
  accepts : Command → Bool

/-- What is asked of an interpreter. -/
inductive Interpreter.Request where
  /-- Run a section in the context at hand. -/
  | run (entries : Section)
  /-- Give a command to the registry. -/
  | dispatch (command : Command)
  /-- Give dependencies to the installer of the registry. -/
  | install (deps : List Dependency)
  /-- Say whether the registry has an installer. -/
  | equipped
deriving Inhabited

/-- What a registry offers to the code in it. -/
structure Interpreter (W : Type) where
  runSection : Section → Run W Unit
  dispatch : Command → Run W Value
  install : List Dependency → Run W Unit
  /-- The runners in order of priority. -/
  runners : List Face
  hasInstaller : Bool

/-- Carry out what is asked for. -/
def Interpreter.serve (i : Interpreter W) : Request → Run W Value
  | .run entries => do
    i.runSection entries
    return .null
  | .dispatch command => i.dispatch command
  | .install deps => do
    i.install deps
    return .null
  | .equipped => return .bool i.hasInstaller

/-- The state without what happened so far. -/
def State.unrecorded (s : State W) : State W := { s with world := { s.world with events := [] } }

/-- The state in which other events happened before. -/
def State.behind (past : List Event) (s : State W) : State W :=
  { s with world := { s.world with events := s.world.events ++ past } }

/-- Change the state, and go on by what it was before, with the history out of reach of both. -/
def Run.apart (change : State W → State W) (next : State W → Run W α) : Run W α := fun s =>
  next s.unrecorded ((change s.unrecorded).behind s.world.events)

/-- The outcome as a result, so that a run can go on behind an error. A run that has used up its
bound cannot. -/
def Run.caught (x : Run W α) : Run W (Except Error α) := fun s =>
  match x s with
  | (.ok a, s) => (.ok (.ok a), s)
  | (.error (.error e), s) => (.ok (.error e), s)
  | (.error .exhausted, s) => (.error .exhausted, s)

/-- What code that is not built in does. -/
inductive Procedure (W α : Type) where
  /-- It is done. -/
  | done (outcome : Except Failure α)
  /-- It changes the state, and goes on by what it was before. -/
  | step (change : State W → State W) (next : State W → Procedure W α)
  /-- It has something carried out, and goes on by how that ended. -/
  | request (r : Interpreter.Request) (next : Except Error Value → Procedure W α)
  /-- It asks which runners there are. -/
  | consult (next : List Face → Procedure W α)

namespace Procedure

/-- A procedure that asks for nothing. -/
def ofRun (x : Run W α) : Procedure W α := .step (fun s => (x s).2) fun s => .done (x s).1

/-- Carry out a procedure. -/
def perform (i : Interpreter W) : Procedure W α → Run W α
  | .done outcome => fun s => (outcome, s)
  | .step change next => Run.apart change fun s => (next s).perform i
  | .request r next => do
    let answer ← Run.caught (i.serve r)
    (next answer).perform i
  | .consult next => do
    Run.record .consulted
    (next i.runners).perform i

theorem perform_ofRun (i : Interpreter W) (x : Run W α) (s : State W) :
    (ofRun x).perform i s =
      ((x s.unrecorded).1, (x s.unrecorded).2.behind s.world.events) := rfl

end Procedure

end Scaffold
