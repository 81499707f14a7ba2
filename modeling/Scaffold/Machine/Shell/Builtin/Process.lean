import Scaffold.Machine.Shell.Builtin.Basic
import Scaffold.Machine.Shell.Signal

/-!
# Commands on loops, functions, processes and signals
-/

namespace Scaffold

namespace Shell

namespace Builtin

/-! ### Loops and functions -/

/-- Leave loops, or go on with their next round. -/
def leaveLoops (how : Skip) : Builtin := fun args => do
  let n ← match args with
    | [] => pure 1
    | arg :: _ => do
      let n ← number arg
      if n = 0 then Sh.fail ("Illegal number: " ++ arg)
      pure n
  modify fun s =>
    if s.loops = 0 then s else { s with skip := how, skipCount := min n s.loops }
  return 0

/-- Leave a function or a script that is read by another. -/
def return' : Builtin := fun args => do
  let status ← match args with
    | [] => do pure (← get).status
    | arg :: _ => number arg
  modify fun s => { s with skip := .returned }
  return status

/-- Leave the shell. -/
def exit : Builtin := fun args => do
  match args with
  | [] => pure ()
  | arg :: _ => Sh.setStatus (← number arg)
  Sh.leave

/-! ### Processes -/

/-- The job that a text names, by its number behind a percent sign or by its process. -/
def findJob (arg : String) : Sh (Option (Nat × Option Ending)) := do
  let s ← get
  match Text.stripPrefix? "%" arg with
  | some text =>
    let job := match Integer.natural? text with
      | some n => if n = 0 then none else s.jobs[n - 1]?
      | none => if text = "%" || text = "+" || text.isEmpty then s.jobs.getLast? else none
    match job with
    | some job => return some job
    | none => Sh.fail ("No such job: " ++ arg)
  | none =>
    let n ← number arg
    return s.jobs.find? fun job => job.1 = n

/-- Wait for processes, all of which have ended by now. A signal that is trapped ends the waiting.
-/
def wait : Builtin := fun args => do
  let mut status := 0
  for arg in ← operands args do
    match ← findJob arg with
    | some (_, some ending) =>
      Sh.report ending
      status := ending.status
    | some (_, none) => status := 0
    | none => status := 127
  match (← get).caught with
  | n :: _ => return 128 + n
  | [] => return status

/-- List processes that still run; there are none. -/
def jobs : Builtin := fun args => do
  let _ ← options "lp" args
  return 0

/-- Processes cannot be moved to the foreground or the background. -/
def noJob : Builtin := fun _ => Sh.fail "No current job"

/-! ### Signals -/

/-- How `kill` is used. -/
def killUsage : String :=
  "Usage: kill [-s sigspec | -signum | -sigspec] [pid | job]... or\nkill -l [exitstatus]"

/-- Send a signal to a process. A process in the background that did not start yet is ended. -/
def signal (n : Nat) (target : String) : Sh Nat := do
  let process : Int ←
    if Text.startsWith "%" target then do
      match ← findJob target with
      | some (process, _) => pure (process : Int)
      | none => pure (-1)
    else match Integer.decimal? target with
      | some process => pure process
      | none => Sh.fail ("Illegal number: " ++ target)
  let s ← get
  if process = s.self || process = 0 then
    Sh.arrive n
    return 0
  else if s.ancestors.any fun a => process = a then
    set { s with machine := { s.machine with
      signals := s.machine.signals ++ [(process.toNat, n)] } }
    return 0
  else if s.waiting.any fun w => process = w.1 then
    let ended (job : Nat × Option Ending) : Nat × Option Ending :=
      if process = job.1 then (job.1, some (.killed n)) else job
    if !Signal.isHarmless n then
      set { s with
        waiting := s.waiting.filter fun w => process != w.1
        jobs := s.jobs.map ended }
    return 0
  else
    Sh.complain "No such process\n"
    return 1

/-- Send signals, or list them. -/
def kill : Builtin := fun args => do
  let send (n : Nat) (targets : List String) : Sh Nat := do
    if targets.isEmpty then Sh.fail killUsage
    let mut status := 0
    for target in targets do
      status ← signal n target
    return status
  match args with
  | [] => Sh.fail killUsage
  | "-l" :: [] =>
    Sh.say "0\n"
    for n in (List.range Signal.count).drop 1 do
      Sh.say (Signal.name n ++ "\n")
    return 0
  | "-l" :: rest =>
    let arg := (if rest.head? = some "--" then rest.drop 1 else rest).headD ""
    let n ← number arg
    let n := if n > 128 then n - 128 else n
    if n = 0 || n ≥ Signal.count then
      Sh.fail ("invalid signal number or exit status: " ++ arg)
    Sh.say (Signal.name n ++ "\n")
    return 0
  | "-s" :: name :: rest =>
    match Signal.ofText? 1 name with
    | some n => send n rest
    | none => Sh.fail ("invalid signal number or name: " ++ name)
  | "--" :: rest => send 15 rest
  | arg :: rest =>
    match arg.toList with
    | '-' :: c :: cs =>
      match Signal.ofText? 1 (String.ofList (c :: cs)) with
      | some n => send n rest
      | none => Sh.fail ("Illegal option -" ++ String.singleton c)
    | _ => send 15 (arg :: rest)

/-- Choose what is run on signals and at the end of the shell. -/
def trap : Builtin := fun args => do
  let args ← operands args
  let s ← get
  match args with
  | [] =>
    for n in List.range Signal.count do
      match List.lookup n s.traps with
      | some action => Sh.say ("trap -- " ++ quoted action ++ " " ++ Signal.name n ++ "\n")
      | none => pure ()
    return 0
  | first :: rest =>
    let resets := rest.isEmpty || (Signal.ofNumber? first).isSome
    let action : Option String := if resets || first = "-" then none else some first
    let rec go : List String → Sh Nat
      | [] => return 0
      | name :: names => do
        match Signal.ofText? 0 name with
        | none =>
          Sh.tell 2 ("trap: " ++ name ++ ": bad trap\n")
          return 1
        | some n =>
          modify fun s =>
            let others := s.traps.filter fun e => e.1 != n
            { s with traps := match action with
                | some text => (n, text) :: others
                | none => others }
          go names
    go (if resets then args else rest)

/-! ### Limits and times -/

/-- Show a limit; there are none. -/
def ulimit : Builtin := fun args => do
  let (given, rest) ← options "HSatfdscmlpnvwr" args
  if given.any fun o => o.1 == 'a' then return 0
  if rest.isEmpty then Sh.say "unlimited\n"
  return 0

/-- Show how long the shell has been working, which is no time at all. -/
def times : Builtin := fun _ => do
  let zero := "0m0.000000s 0m0.000000s\n"
  Sh.say (zero ++ zero)
  return 0

end Builtin

end Shell

end Scaffold
