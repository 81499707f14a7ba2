import Scaffold.Dependency
import Scaffold.Library

/-!
# Contexts and runs

A run changes two things: its `Context`, which belongs to the section being run, and the `World`,
which all sections share: the state of the host, whether the run was cancelled, and what happened so
far. `Run W α` is a computation on both; a failed run keeps the state it failed in.

* `Run.withScope`, `Run.withFiles` push for the length of a run and pop afterwards.
* `Run.forked` runs on a copy of the context.
* `Run.witnessed` notes when a leaf command is dispatched and when it is done.
-/

namespace Scaffold

/-- Severity of a message. -/
inductive Level where
  | debug
  | info
  | warn
  | error
deriving DecidableEq, Repr, Inhabited

/-- The part of the program that a message comes from. -/
inductive Origin where
  | application
  | invocation
  | running
  | collecting
  | calling
  | shell
  | logging
  | marking
  | installing
  | publishing
deriving DecidableEq, Repr, Inhabited

/-- What a section is walked for. -/
inductive SectionKind where
  | run
  | dependencies
deriving DecidableEq, Repr, Inhabited

/-- The section that a call without a section name means. -/
def SectionKind.defaultSection : SectionKind → String
  | .run => runSectionName
  | .dependencies => dependenciesSectionName

/-- What belongs to the section being run. Stacks have their innermost element last. -/
structure Context where
  vars : Vars := ∅
  workingDir : String := ""
  interpreter : List String := ["sh", "-c"]
  kind : SectionKind := .run
  assistant : Assistant := {}
  library : Library := {}
  calls : List String := []
  scopes : List (List String) := []
  files : List FileTable := []
deriving Inhabited

/-- The innermost files section. -/
def Context.currentFiles (c : Context) : Option FileTable := c.files.getLast?

/-- All scope labels, outermost first. -/
def Context.labels (c : Context) : List String := c.scopes.flatten

/-- A text with its references replaced. -/
def Context.format (c : Context) (s : String) : String :=
  Template.format c.vars c.currentFiles s

/-- A value with the references in its texts replaced. -/
def Context.formatValue (c : Context) (v : Value) : Value :=
  Template.formatValue c.vars c.currentFiles v

/-- A leaf entry to carry out. -/
structure Command where
  tag : String
  argument : Value
deriving DecidableEq, Repr, Inhabited

/-- What an observing runner saw of a command. -/
structure Note where
  runner : String
  tag : String
  argument : Value
  labels : List String
  calls : List String
  filesDepth : Nat
  kind : SectionKind
deriving DecidableEq, Repr, Inhabited

/-- Why a run did not finish: an error, or the bound on re-entries was used up. -/
inductive Failure where
  | error (e : Error)
  | exhausted
deriving DecidableEq, Repr, Inhabited

/-- Something that happened during a run. -/
inductive Event where
  /-- A message. -/
  | logged (origin : Origin) (level : Level) (message : String)
  /-- An expression was evaluated. -/
  | evaluated (expression : Value)
  /-- A variable was set. -/
  | assigned (name : String) (value : Value)
  /-- A process was asked for. -/
  | launched (launch : Launch)
  /-- A leaf command was given to the registry, in a context. -/
  | dispatched (command : Command) (context : Context)
  /-- A runner was given a command. -/
  | handled (runner : String) (command : Command)
  /-- A leaf command was done: how it ended, and whether the run was cancelled by then. -/
  | settled (command : Command) (outcome : Except Failure Value) (cancelled : Bool)
  /-- An observing runner saw a command. -/
  | noted (note : Note)
  /-- Dependencies were recorded in place of being installed. -/
  | recorded (deps : List Dependency)
  /-- The registry was asked for the runners that are in it. -/
  | consulted
deriving Inhabited

/-- What all sections of a run share. Events are kept latest first. -/
structure World (W : Type) where
  outside : W
  cancelled : Bool := false
  events : List Event := []

/-- The events in the order they happened. -/
def World.history {W : Type} (w : World W) : List Event := w.events.reverse

/-- Context and world of a run. -/
structure State (W : Type) where
  context : Context
  world : World W

/-- A state after one more event. -/
def State.note {W : Type} (s : State W) (e : Event) : State W :=
  { s with world := { s.world with events := e :: s.world.events } }

/-- A computation on a state that may fail; the state is kept in both cases. -/
def Run (W α : Type) := State W → Except Failure α × State W

namespace Run

variable {W α β : Type}

instance : Monad (Run W) where
  pure a := fun s => (.ok a, s)
  bind x f := fun s =>
    match x s with
    | (.ok a, s) => f a s
    | (.error e, s) => (.error e, s)

theorem pure_apply (a : α) (s : State W) : (pure a : Run W α) s = (.ok a, s) := rfl

theorem bind_apply (x : Run W α) (f : α → Run W β) (s : State W) :
    (x >>= f) s =
      match x s with
      | (.ok a, s) => f a s
      | (.error e, s) => (.error e, s) := rfl

/-- Fail with an error. -/
def fail (e : Error) : Run W α := fun s => (.error (.error e), s)

/-- Fail because the bound on re-entries is used up. -/
def exhausted : Run W α := fun s => (.error .exhausted, s)

/-- A result that may be a malformed construct. -/
def ofSyntax (r : Except SyntaxError α) : Run W α :=
  match r with
  | .ok a => pure a
  | .error e => fail (.syntaxFault e)

/-- The context. -/
def context : Run W Context := fun s => (.ok s.context, s)

/-- The world. -/
def world : Run W (World W) := fun s => (.ok s.world, s)

/-- Change the context. -/
def modifyContext (f : Context → Context) : Run W Unit := fun s =>
  (.ok (), { s with context := f s.context })

/-- Change the world. -/
def modifyWorld (f : World W → World W) : Run W Unit := fun s =>
  (.ok (), { s with world := f s.world })

/-- Note that something happened. -/
def record (e : Event) : Run W Unit := fun s => (.ok (), s.note e)

/-- Write a message. -/
def log (origin : Origin) (level : Level) (message : String) : Run W Unit :=
  record (.logged origin level message)

/-- Use the host. -/
def outside (f : W → α × W) : Run W α := fun s =>
  let (a, w) := f s.world.outside
  (.ok a, { s with world := { s.world with outside := w } })

/-- Whether the run was cancelled. -/
def isCancelled : Run W Bool := fun s => (.ok s.world.cancelled, s)

/-- Ask the run to stop before its next entry. -/
def cancel : Run W Unit := modifyWorld fun w => { w with cancelled := true }

/-- Set a variable. -/
def setVar (name : String) (v : Value) : Run W Unit := do
  record (.assigned name v)
  modifyContext fun c => { c with vars := c.vars.insert name v }

/-- Run with a group of scope labels pushed. -/
def withScope (labels : List String) (x : Run W α) : Run W α := fun s =>
  let (r, s) := x { s with context := { s.context with scopes := s.context.scopes ++ [labels] } }
  (r, { s with context := { s.context with scopes := s.context.scopes.dropLast } })

/-- Run with a files section pushed. -/
def withFiles (files : FileTable) (x : Run W α) : Run W α := fun s =>
  let (r, s) := x { s with context := { s.context with files := s.context.files ++ [files] } }
  (r, { s with context := { s.context with files := s.context.files.dropLast } })

/-- Run on a changed copy of the context. -/
def forked (change : Context → Context) (x : Run W α) : Run W α := fun s =>
  let (r, t) := x { s with context := change s.context }
  (r, { t with context := s.context })

/-- Carry out a leaf command between the events that it is dispatched and that it is done. -/
def witnessed (command : Command) (x : Run W Value) : Run W Value := fun s =>
  let (r, t) := x (s.note (.dispatched command s.context))
  (r, t.note (.settled command r t.world.cancelled))

end Run

end Scaffold
