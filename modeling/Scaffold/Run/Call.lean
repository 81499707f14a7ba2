import Scaffold.Run.Walk

/-!
# Calls

A call names a section: `self.x` a section of the running assistant, `name.x` a section of a
snippet, and without a section name the default one of the kind. The called section runs on a copy
of the context with the call on its stack, so its variables do not leak; the files of a snippet are
pushed for its length. At most `maxCalls` calls can be nested.
-/

namespace Scaffold

/-- How many calls can be nested. -/
def maxCalls : Nat := 64

/-- A called section, and the files section that comes with a snippet. -/
structure Callee where
  entries : Section
  files : Option FileTable
deriving Inhabited

/-- Script and section a target names. -/
def callTarget (kind : SectionKind) (target : String) : String × String :=
  (Text.splitFirst? '.' target).getD (target, kind.defaultSection)

/-- The section a target names, if it is there. -/
def Context.resolve? (c : Context) (kind : SectionKind) (target : String) : Option Callee :=
  let (script, name) := callTarget kind target
  if script = "self" then
    (c.assistant.sections.get? name).map fun entries => { entries, files := none }
  else
    (c.library.snippet? script).bind fun snippet =>
      (snippet.sections.get? name).map fun entries => { entries, files := some snippet.fileTable }

namespace Run

variable {W α : Type}

/-- Run a called section on a copy of the context, unless calls are nested too deep. -/
def enter (kind : SectionKind) (target : String) (callee : Callee) (go : Section → Run W α) :
    Run W α := do
  let c ← context
  if c.calls.length ≥ maxCalls then
    fail (.execution (.recursionLimit (Text.join " -> " (c.calls ++ [target]))))
  else
    forked (fun c => { c with kind, calls := c.calls ++ [target] })
      (match callee.files with
       | some files => withFiles files (go callee.entries)
       | none => go callee.entries)

/-- Run the section that a call names; a target that names none is a warning. -/
def called (kind : SectionKind) (target : String) (go : Section → Run W α) (otherwise : α) :
    Run W α := do
  let c ← context
  match c.resolve? kind target with
  | some callee => enter kind target callee go
  | none =>
    log .calling .warn ("Couldn't find " ++ kind.defaultSection ++ " section '" ++ target ++ "'")
    return otherwise

end Run

end Scaffold
