import Scaffold.Machine.Tool.Cat
import Scaffold.Machine.Tool.Copy
import Scaffold.Machine.Tool.Count
import Scaffold.Machine.Tool.Create
import Scaffold.Machine.Tool.Head
import Scaffold.Machine.Tool.Judge
import Scaffold.Machine.Tool.Names
import Scaffold.Machine.Tool.Print
import Scaffold.Machine.Tool.Search
import Scaffold.Machine.Tool.Translate

/-!
# The tools of a machine

All tools by name. `Tool.start?` runs one as a process.
-/

namespace Scaffold

namespace Tool

/-- Do nothing, with success. -/
def succeed (args : List String) : Tool Nat := do
  standardOption args
  return 0

/-- Do nothing, without success. -/
def fail (args : List String) : Tool Nat := do
  tryCatch (standardOption args) fun _ => exit 1
  return 1

/-- The names of all tools. -/
def names : List String :=
  ["echo", "printf", "true", "false", "cat", "mkdir", "touch", "cp", "pwd", "basename", "test", "[",
   "grep", "head", "tr", "wc"]

/-- The tool of a name, with the status for output that is lost. -/
def ofName? : String → Option (Nat × (List String → Tool Nat))
  | "echo" => some (1, echo)
  | "printf" => some (1, printf)
  | "true" => some (1, succeed)
  | "false" => some (1, fail)
  | "cat" => some (1, cat)
  | "mkdir" => some (1, mkdir)
  | "touch" => some (1, touch)
  | "cp" => some (1, cp)
  | "pwd" => some (1, pwd)
  | "basename" => some (1, basename)
  | "test" => some (2, test false)
  | "[" => some (2, test true)
  | "grep" => some (2, grep)
  | "head" => some (1, head)
  | "tr" => some (1, tr)
  | "wc" => some (1, wc)
  | _ => none

/-- Run a tool as a process. -/
def start? (name : String) (args : List String) (p : Process) (m : Machine) :
    Option (Ending × Machine) :=
  (ofName? name).map fun (failure, tool) => run name failure (tool args) p m

end Tool

end Scaffold
