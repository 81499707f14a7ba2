import Scaffold.Machine.Shell.Builtin.Basic
import Scaffold.Machine.Shell.Program

/-!
# What names stand for

Commands of the shell that tell what a name stands for, and those on abbreviations.
-/

namespace Scaffold

namespace Shell

namespace Builtin

/-- The commands of the shell that are not special. -/
def ordinary : List String :=
  ["[", "alias", "bg", "cd", "chdir", "command", "echo", "false", "fg", "getopts", "hash", "jobs",
   "kill", "printf", "pwd", "read", "test", "true", "type", "ulimit", "umask", "unalias", "wait"]

/-- Whether a name is a command of the shell. -/
def isBuiltin (name : String) : Bool := ordinary.contains name || Reading.reserved.contains name

/-- The directories that hold the standard programs. -/
def standardPath : String := "/usr/local/sbin:/usr/local/bin:/usr/sbin:/usr/bin:/sbin:/bin"

/-- A line about an abbreviation. -/
def abbreviationLine (name value : String) : String := name ++ "=" ++ quoted value ++ "\n"

/-- The path of a name in the directories of a search; a path stands for itself if something is
there. -/
def pathOf (search name : String) : Sh (Option String) := do
  let s ← get
  if Text.contains '/' name then
    return if (s.machine.files.item? (Machine.path s.dir) (Machine.path name)).isSome
      then some name else none
  else return (← locate search name).toOption

/-- Say what a name stands for, in a sentence or in a form that can be run. -/
def describe (search : Option String) (inWords : Bool) (name : String) : Sh Nat := do
  let s ← get
  let tell (words form : String) : Sh Nat := do
    Sh.say ((if inWords then name ++ words else form) ++ "\n")
    return 0
  if Token.keywords.contains name then tell " is a shell keyword" name
  else match s.abbreviations.get? name with
    | some value =>
      Sh.say (if inWords then name ++ " is an alias for " ++ value ++ "\n"
        else "alias " ++ abbreviationLine name value)
      return 0
    | none =>
      if s.functions.contains name then tell " is a shell function" name
      else if isBuiltin name then
        tell (if Reading.reserved.contains name then " is a special shell builtin"
          else " is a shell builtin") name
      else match ← pathOf (search.getD s.searchPath) name with
        | some path =>
          let isRemembered := s.remembered.any fun e => e.1 == name
          tell ((if isRemembered then " is a tracked alias for " else " is ") ++ path) path
        | none =>
          if inWords then Sh.say (name ++ ": not found\n")
          return 127

/-- Say what names stand for. -/
def type' : Builtin := fun args => do
  let mut status := 0
  for name in args do
    status := Nat.lor status (← describe none true name)
  return status

/-- Say what a name stands for, or nothing. -/
def command : Builtin := fun args => do
  let (given, rest) ← options "pvV" args
  let has (c : Char) : Bool := given.any fun o => o.1 == c
  match rest with
  | name :: _ =>
    if has 'v' || has 'V' then
      describe (if has 'p' then some standardPath else none) (has 'V') name
    else return 0
  | [] => return 0

/-- List, forget or remember where programs are. -/
def hash : Builtin := fun args => do
  let (given, names) ← options "r" args
  if !given.isEmpty then
    modify fun s => { s with remembered := [] }
    return 0
  if names.isEmpty then
    for (_, path) in inTableOrder 31 (← get).remembered do
      Sh.say (path ++ "\n")
    return 0
  let mut status := 0
  for name in names do
    let s ← get
    if !(isBuiltin name || s.functions.contains name) then
      match ← locate s.searchPath name with
      | .ok _ => pure ()
      | .error e =>
        Sh.complain (name ++ ": " ++ startReason e)
        status := 1
  return status

/-! ### Abbreviations -/

/-- Define or show abbreviations. -/
def alias' : Builtin := fun args => do
  if args.isEmpty then
    for (name, value) in inTableOrder 39 (← get).abbreviations.entries do
      Sh.say (abbreviationLine name value)
    return 0
  let mut status := 0
  for arg in args do
    match Text.splitFirst? '=' arg, (← get).abbreviations.get? arg with
    | some (name, value), _ =>
      if name.isEmpty then
        Sh.tell 2 ("alias: " ++ arg ++ " not found\n")
        status := 1
      else modify fun s => { s with abbreviations := s.abbreviations.insert name value }
    | none, some value => Sh.say (abbreviationLine arg value)
    | none, none =>
      Sh.tell 2 ("alias: " ++ arg ++ " not found\n")
      status := 1
  return status

/-- Forget abbreviations. -/
def unalias : Builtin := fun args => do
  let (given, names) ← options "a" args
  if !given.isEmpty then
    modify fun s => { s with abbreviations := ∅ }
    return 0
  let mut status := 0
  for name in names do
    if (← get).abbreviations.contains name then
      modify fun s => { s with abbreviations := s.abbreviations.filter fun k _ => k != name }
    else
      Sh.tell 2 ("unalias: " ++ name ++ " not found\n")
      status := 1
  return status

end Builtin

end Shell

end Scaffold
