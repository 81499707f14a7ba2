import Scaffold.Error
import Scaffold.Text.Utf8

/-!
# Hosts

What a run needs from the outside: processes, files and the environment. A `Host` is a record of
functions on a state `W` that stands for everything outside, so a statement can be made for every
host, and a run can be carried out on one that lives in memory.
-/

namespace Scaffold

/-- A process to start. -/
structure Launch where
  program : String
  arguments : List String
  directory : String
deriving DecidableEq, Repr, Inhabited

/-- What a process that was started left: its output, and its exit code unless a signal ended it. -/
structure Finished where
  output : Bytes
  code : Option Int
deriving DecidableEq, Repr, Inhabited

/-- Processes, files and the environment, on a state `W`. -/
structure Host (W : Type) where
  /-- Start a process and wait for it. -/
  spawn : W → Launch → Except IoError Finished × W
  isDir : W → String → Bool
  isFile : W → String → Bool
  /-- Names in a directory. -/
  listDir : W → String → List String
  /-- The absolute path without links, for a path that exists. -/
  canonical? : W → String → Option String
  readText : W → String → Except IoError String
  writeText : W → String → String → Except IoError Unit × W
  currentDir : W → String
  home? : W → Option String
  environment? : W → String → Option String

end Scaffold
