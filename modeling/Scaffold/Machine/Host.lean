import Scaffold.Host
import Scaffold.Machine.Shell.Evaluate

/-!
# The machine as a host

`Machine.host` lets a run take place on a machine in memory: processes are carried out by the tools
and the shell of the machine, on its files and in its environment.
-/

namespace Scaffold

namespace Machine

/-- The devices of a machine. -/
def devices : List (String × Device) :=
  [("null", .null), ("zero", .zero), ("full", .full), ("random", .random), ("urandom", .random),
   ("tty", .terminal)]

/-- The directories of a machine. -/
def directories : List String :=
  ["/boot", "/dev/mqueue", "/dev/pts", "/dev/shm", "/etc", "/home", "/media", "/mnt", "/opt",
   "/proc/self/fd", "/root", "/run", "/srv", "/sys", "/tmp", "/usr/bin", "/usr/games",
   "/usr/include", "/usr/lib", "/usr/lib64", "/usr/local/bin", "/usr/local/sbin", "/usr/sbin",
   "/usr/share", "/usr/src", "/var/cache", "/var/lib", "/var/log", "/var/mail", "/var/spool",
   "/var/tmp"]

/-- The links of a machine, with where they lead. -/
def links : List (String × String) :=
  [("/bin", "usr/bin"), ("/sbin", "usr/sbin"), ("/lib", "usr/lib"), ("/lib64", "usr/lib64"),
   ("/dev/stdin", "/proc/self/fd/0"), ("/dev/stdout", "/proc/self/fd/1"),
   ("/dev/stderr", "/proc/self/fd/2"), ("/dev/fd", "/proc/self/fd"), ("/var/run", "/run"),
   ("/var/lock", "/run/lock")]

/-- A machine that has its tools and devices, and the usual directories. -/
def withTools : Machine :=
  let items : List (String × Item) :=
    directories.map (·, .directory) ++ links.map (fun (path, target) => (path, .link target)) ++
    ("sh" :: Tool.names).map (fun name => ("/usr/bin/" ++ name, .tool name)) ++
    devices.map (fun (name, d) => ("/dev/" ++ name, .device d)) ++
    (List.range 10).map (fun n => ("/proc/self/fd/" ++ toString n, .device (.channel n)))
  let files := items.foldl (fun (f : Files) (path, item) => f.place "/" path item) .bare
  { files := files.settled }

/-- The directories that programs are looked for in. -/
def searchPath (m : Machine) : String := (m.environment.get? "PATH").getD "/usr/bin:/bin"

/-- The environment as texts of bytes. -/
def encodedEnvironment (m : Machine) : Table String :=
  Table.ofList (m.environment.entries.map fun (name, value) =>
    (Octets.ofText name, Octets.ofText value))

/-- Start a process and wait for it. What it reads is empty, and its error output is lost. -/
def spawn (m : Machine) (l : Launch) : Except IoError Finished × Machine :=
  if (l.program :: l.directory :: l.arguments).any (Text.contains '\x00') then
    (.error .zeroInArgument, m)
  else
    match m.files.resolve m.dir l.directory with
    | .error e => (.error e, m)
    | .ok { item := none, .. } => (.error .noEntry, m)
    | .ok { item := some .directory, key } =>
      let (output, inner) := m.newPipe {}
      let (k0, inner) := inner.opening { stream := .null, writes := false }
      let (k1, inner) := inner.opening { stream := .pipe output, reads := false }
      let (k2, inner) := inner.opening { stream := .null, reads := false }
      let process : Process :=
        { name := Octets.ofText l.program
          dir := if key.isEmpty then "/" else key
          environment := m.encodedEnvironment
          channels := [(0, k0), (1, k1), (2, k2)] }
      match Shell.startNamed Shell.start process (Octets.ofText m.searchPath)
        (Octets.ofText l.program) (l.arguments.map Octets.ofText) inner with
      | .error e => (.error e, m)
      | .ok (ending, inner) =>
        (.ok { output := inner.pipeContent output, code := ending.code? },
         { m with files := inner.files })
    | .ok _ => (.error .notDirectory, m)

/-- The text of a file. -/
def readText (m : Machine) (path : String) : Except IoError String := do
  let content ← m.files.read m.dir path
  match Utf8.decode? content with
  | some text => return text
  | none => .error .badEncoding

/-- Write a text to a file. -/
def writeFile (m : Machine) (path text : String) : Except IoError Unit × Machine :=
  match m.files.write m.dir path (Utf8.encode text) with
  | .ok files => (.ok (), { m with files })
  | .error e => (.error e, m)

/-- A machine in memory as a host. -/
def host : Host Machine where
  spawn := spawn
  isDir m path := m.files.isDir m.dir path
  isFile m path := m.files.isFile m.dir path
  listDir m path := m.files.list m.dir path
  canonical? m path := (m.files.canonical m.dir path).toOption
  readText := readText
  writeText m path text := m.writeFile path text
  currentDir m := m.dir
  home? m := m.environment.get? "HOME"
  environment? m name := m.environment.get? name

end Machine

end Scaffold
