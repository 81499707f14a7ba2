import Scaffold.Cli.Session
import Scaffold.Machine.Host

/-!
# The command line program

The program copies the current directory and the library roots into a machine in memory, carries its
arguments out there, and writes back the files that changed.
-/

namespace Scaffold

namespace Program

/-- The variables of the environment that count. -/
def variableNames : List String :=
  ["HOME", "PATH", "USER", "USERNAME", "DEVASSIST_PATH", "RUST_LOG", "NO_COLOR", "LC_ALL"]

/-- Copy a directory and everything below it; `depth` bounds how deep. -/
def copyDir (dir : String) (files : Files) : (depth : Nat) → IO Files
  | 0 => pure files
  | depth + 1 => do
    let path := (← IO.currentDir) / dir
    if !(← path.isDir) then return files
    let mut files := files.place "/" dir .directory
    for entry in ← path.readDir do
      let name := dir ++ "/" ++ entry.fileName
      if ← entry.path.isDir then files ← copyDir name files depth
      else
        let content ← IO.FS.readBinFile entry.path
        let executable := Text.endsWith "/bin" dir
        files := files.place "/" name (.file content.toList executable)
    return files

/-- How deep directories are copied. -/
def copyDepth : Nat := 16

/-- The environment as a table. -/
def environment : IO (Table String) := do
  let mut t : Table String := ∅
  for name in variableNames do
    match ← IO.getEnv name with
    | some value => t := t.insert name value
    | none => pure ()
  return t

/-- The directories that a request needs. -/
def neededDirs (m : Machine) (args : List String) : List String :=
  let explicit := match Arguments.read args with
    | .ok q => q.options.library.getD []
    | .error _ => []
  (m.dir :: Library.searchPath Machine.host m explicit).map (Path.join m.dir)

/-- The machine that a request is carried out on. -/
def machine (args : List String) : IO Machine := do
  let dir := toString (← IO.currentDir)
  let start := { Machine.withTools with dir, environment := ← environment }
  let mut files := start.files
  for needed in neededDirs start args do
    files ← copyDir needed files copyDepth
  return { start with files }

/-- Write back what changed. -/
def writeBack (before after : Machine) : IO Unit := do
  for (key, item) in after.files.items.entries do
    if before.files.get? key != some item then
      match item with
      | .directory => IO.FS.createDirAll key
      | .file content _ => IO.FS.writeBinFile key ⟨content.toArray⟩
      | _ => pure ()

end Program

end Scaffold

open Scaffold in
/-- Carry out the arguments and exit with the code of the outcome. -/
def main (args : List String) : IO UInt32 := do
  let before ← Program.machine args
  let (outcome, after) := Session.run Machine.host args before
  IO.print outcome.output
  for line in outcome.errors do
    IO.eprintln line
  Program.writeBack before after
  return outcome.code.toUInt32
