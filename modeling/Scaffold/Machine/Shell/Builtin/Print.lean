import Scaffold.Machine.Format
import Scaffold.Machine.Shell.Builtin.Basic
import Scaffold.Machine.Shell.Condition

/-!
# Commands of the shell that print and compare
-/

namespace Scaffold

namespace Shell

namespace Builtin

/-- Print arguments. -/
def echo : Builtin := fun args => do
  Sh.say (Format.echo args)
  return 0

/-- Print arguments by a format. What is wrong with an argument is said before anything is
printed. -/
def printf : Builtin := fun args => do
  match ← operands args with
  | [] => Sh.fail "usage: printf format [arg ...]"
  | format :: args =>
    let p := Format.print format args
    Sh.say p.output
    for c in p.complaints do
      Sh.complain c
    match p.mistake with
    | some m => Sh.fail m
    | none => return if p.complaints.isEmpty then 0 else 1

/-- Evaluate a condition; under the name of a bracket the closing one comes last. -/
def test (bracket : Bool) : Builtin := fun args => do
  if bracket && !(args.getLast?.any fun last => Text.startsWith "]" last) then
    Sh.fail "missing ]"
  let s ← get
  let args := if bracket then args.dropLast else args
  match Condition.evaluate s.machine s.channels (Machine.path s.dir) args with
  | .ok value => return if value then 0 else 1
  | .error message => Sh.fail message

end Builtin

end Shell

end Scaffold
