import Scaffold.Machine.Files
import Scaffold.Machine.Octets

/-!
# A machine in memory

A machine has files, a current directory, an environment, pipes and open files, and signals that
were sent to processes and did not arrive yet. Programs read and write through channels, small
numbers that stand for open files; two channels can stand for the same open file and then share the
place reached in it.

Programs of a pipeline run one after the other, so a pipe is written first and read afterwards. What
writes more than a pipe can hold is cut off, and who reads past that place is noted as starved: then
the pipeline has to be run again with more room.

Names of files are texts, while programs name them by bytes; `Machine.path` leads from one to the
other.
-/

namespace Scaffold

/-- What an open file leads to. -/
inductive Stream where
  | null
  | zero
  | full
  | random
  | pipe (n : Nat)
  | file (key : String)
  | directory
deriving DecidableEq, Repr, Inhabited

/-- An open file. -/
structure Opened where
  stream : Stream
  position : Nat := 0
  append : Bool := false
  reads : Bool := true
  writes : Bool := true
deriving Repr, Inhabited

/-- A pipe. -/
structure Pipe where
  /-- What is read next. -/
  front : Bytes := []
  /-- What was written since, the latest first. -/
  back : List Bytes := []
  /-- How many bytes may still be written, if there is a limit. -/
  room : Option Nat := none
  /-- Whether somebody wrote more than there was room for. -/
  cut : Bool := false
  /-- Whether somebody read on where the pipe was cut. -/
  starved : Bool := false
deriving Inhabited

/-- Everything in a pipe. -/
def Pipe.content (p : Pipe) : Bytes :=
  match p.back with
  | [] => p.front
  | [last] => p.front ++ last
  | back => p.front ++ back.reverse.flatten

/-- A machine. -/
structure Machine where
  files : Files := .bare
  dir : String := "/"
  environment : Table String := ∅
  pipes : Array Pipe := #[]
  opened : Array Opened := #[]
  /-- The number of the process that was started last. -/
  processes : Nat := 4241
  /-- Processes with the signals on their way to them, the earliest first. -/
  signals : List (Nat × Nat) := []
  /-- How many bytes a device without end gives to who takes all. -/
  supply : Nat := 65537
deriving Inhabited

/-- The open files of a process, by channel. -/
abbrev Channels := List (Nat × Nat)

namespace Channels

/-- The open file of a channel. -/
def get? (cs : Channels) (n : Nat) : Option Nat := List.lookup n cs

/-- Connect a channel. -/
def set (cs : Channels) (n k : Nat) : Channels := (n, k) :: cs.filter fun e => e.1 != n

/-- Close a channel. -/
def close (cs : Channels) (n : Nat) : Channels := cs.filter fun e => e.1 != n

end Channels

/-- How a process ended. -/
inductive Ending where
  | exited (code : Nat)
  | killed (signal : Nat)
deriving DecidableEq, Repr, Inhabited

/-- The status that a shell sees. -/
def Ending.status : Ending → Nat
  | .exited code => code
  | .killed signal => 128 + signal

/-- The exit code, unless a signal ended the process. -/
def Ending.code? : Ending → Option Int
  | .exited code => some code
  | .killed _ => none

/-- What a program is started with. The environment and the name are texts of bytes. -/
structure Process where
  name : String := ""
  dir : String
  environment : Table String
  channels : Channels
  /-- The processes that it descends from, the nearest first. -/
  ancestors : List Nat := [4241]
  /-- Signals that have no effect on it. -/
  deaf : List Nat := []
deriving Inhabited

namespace Machine

/-! ### Pipes and open files -/

/-- A new pipe. -/
def newPipe (m : Machine) (p : Pipe) : Nat × Machine :=
  (m.pipes.size, { m with pipes := m.pipes.push p })

/-- A pipe by its number. -/
def pipeAt (m : Machine) (n : Nat) : Pipe := m.pipes.getD n {}

/-- Everything in a pipe. -/
def pipeContent (m : Machine) (n : Nat) : Bytes := (m.pipeAt n).content

/-- Open a file. -/
def opening (m : Machine) (o : Opened) : Nat × Machine :=
  (m.opened.size, { m with opened := m.opened.push o })

/-- Open a pipe that is new, for reading or for writing. -/
def openPipe (m : Machine) (content : Bytes) (reads : Bool) : Nat × Machine :=
  let (n, m) := m.newPipe { front := content }
  m.opening { stream := .pipe n, reads, writes := !reads }

/-- The open file of a channel. -/
def openedAt? (m : Machine) (cs : Channels) (n : Nat) : Option Opened :=
  (cs.get? n).bind fun k => m.opened[k]?

/-- The content of the file at a canonical path. -/
def contentAt (m : Machine) (key : String) : Bytes :=
  match m.files.get? key with
  | some (.file content _) => content
  | _ => []

/-- Bytes with others written over them from a place on; a gap is filled with zeros. -/
def overwrite (old new : Bytes) (position : Nat) : Bytes :=
  let gap := List.replicate (position - old.length) 0
  (old.take position) ++ gap ++ new ++ old.drop (position + new.length)

/-- Write to a channel. -/
def write (m : Machine) (cs : Channels) (n : Nat) (content : Bytes) :
    Except IoError Unit × Machine :=
  match cs.get? n, m.openedAt? cs n with
  | some k, some o =>
    if !o.writes then (.error .badDescriptor, m)
    else match o.stream with
      | .null => (.ok (), m)
      | .zero => (.ok (), m)
      | .random => (.ok (), m)
      | .full => if content.isEmpty then (.ok (), m) else (.error .noSpace, m)
      | .directory => (.error .badDescriptor, m)
      | .pipe p =>
        let length := content.length
        if (m.pipeAt p).room.any (· < length) then
          (.error .brokenPipe, { m with pipes := m.pipes.modify p fun q =>
            { q with
              back := content.take (q.room.getD 0) :: q.back, room := some 0, cut := true } })
        else
          (.ok (), { m with pipes := m.pipes.modify p fun q =>
            { q with back := content :: q.back, room := q.room.map (· - length) } })
      | .file key =>
        if content.isEmpty then (.ok (), m)
        else
          let old := m.contentAt key
          let position := if o.append then old.length else o.position
          let files := m.files.store key (overwrite old content position)
          let opened := m.opened.modify k fun o =>
            { o with position := position + content.length }
          (.ok (), { m with files, opened })
  | _, _ => (.error .badDescriptor, m)

/-- Write where it does not matter whether that works. -/
def tell (m : Machine) (cs : Channels) (n : Nat) (content : Bytes) : Machine :=
  (m.write cs n content).2

/-- Bytes that look like chance. -/
def chance : (count seed : Nat) → Bytes
  | 0, _ => []
  | count + 1, seed =>
    let next := (seed * 1103515245 + 12345) % 2147483648
    (next / 65536).toUInt8 :: chance count next

/-- Everything that an open file has left. -/
def available (m : Machine) (o : Opened) : Except IoError Bytes :=
  if !o.reads then .error .badDescriptor
  else match o.stream with
    | .null => .ok []
    | .zero | .full => .ok (List.replicate m.supply 0)
    | .random => .ok (chance m.supply 1)
    | .directory => .error .isDirectory
    | .pipe p => .ok (m.pipeContent p)
    | .file key => .ok ((m.contentAt key).drop o.position)

/-- Read from a channel, at most so many bytes if there is a limit. -/
def read (m : Machine) (cs : Channels) (n : Nat) (limit : Option Nat) :
    Except IoError Bytes × Machine :=
  match cs.get? n, m.openedAt? cs n with
  | some k, some o =>
    let supplied := { m with supply := limit.getD m.supply }
    match supplied.available o with
    | .error e => (.error e, m)
    | .ok all =>
      let (here, rest, isShort) := match limit with
        | some limit =>
          let here := all.take limit
          (here, all.drop limit, decide (here.length < limit))
        | none => (all, [], true)
      match o.stream with
      | .pipe p =>
        (.ok here, { m with pipes := m.pipes.modify p fun q =>
          { q with front := rest, back := [], starved := q.starved || (q.cut && isShort) } })
      | .file _ =>
        (.ok here, { m with opened := m.opened.modify k fun o =>
          { o with position := o.position + here.length } })
      | _ => (.ok here, m)
  | _, _ => (.error .badDescriptor, m)

/-- Read one line from a channel, and whether it was ended by a line break. -/
def readLine (m : Machine) (cs : Channels) (n : Nat) : Except IoError (Bytes × Bool) × Machine :=
  match (m.openedAt? cs n).map m.available with
  | none => (.error .badDescriptor, m)
  | some (.error e) => (.error e, m)
  | some (.ok all) =>
    let line := all.takeWhile (· != 10)
    let ended := line.length < all.length
    (.ok (line, ended), (m.read cs n (some (line.length + 1))).2)

/-! ### Paths -/

/-- The name that bytes stand for. -/
def path (name : String) : String := Octets.toText name

/-- What stands at a path, seen by a process from a directory: behind a channel is what it leads
to. -/
def item? (m : Machine) (cs : Channels) (dir path : String) : Option Item :=
  match m.files.item? dir path with
  | some (.device (.channel n)) =>
    (m.openedAt? cs n).map fun o => match o.stream with
      | .null => .device .null
      | .zero => .device .zero
      | .full => .device .full
      | .random => .device .random
      | .pipe _ => .device .pipe
      | .file key => (m.files.get? key).getD (.file [] false)
      | .directory => .directory
  | item => item

/-- How a file is opened. -/
inductive Access where
  | read
  | write
  | append
  | readWrite
  /-- Write to a new file only. -/
  | fresh
deriving DecidableEq, Repr, Inhabited

/-- The open file for what stands at a place. -/
def Access.opened (a : Access) (stream : Stream) : Opened :=
  { stream, append := a = .append, reads := a = .read || a = .readWrite, writes := a != .read }

/-- Open what a path of bytes names, seen from a directory. -/
def openPath (m : Machine) (cs : Channels) (dir name : String) (access : Access) :
    Except IoError Nat × Machine :=
  let give (stream : Stream) (m : Machine) : Except IoError Nat × Machine :=
    let (k, m) := m.opening (access.opened stream)
    (.ok k, m)
  let again (n : Nat) : Except IoError Nat × Machine :=
    match m.openedAt? cs n with
    | none => (.error .noEntry, m)
    | some o =>
      match o.stream with
      | .file key =>
        if access = .write then give o.stream { m with files := m.files.store key [] }
        else give o.stream m
      | stream => give stream m
  match m.files.resolve dir (path name) with
  | .error e => (.error e, m)
  | .ok place =>
    match place.item with
    | some .directory =>
      if access = .read then give .directory m
      else (.error (if access = .fresh then .alreadyThere else .isDirectory), m)
    | some (.device .null) => give .null m
    | some (.device .zero) => give .zero m
    | some (.device .full) => give .full m
    | some (.device .random) => give .random m
    | some (.device .terminal) => (.error .noDevice, m)
    | some (.device (.channel n)) => again n
    | some (.device .pipe) => (.error .noDevice, m)
    | some (.tool _) => if access = .read then give .null m else (.error .notPermitted, m)
    | some (.link _) => (.error .tooManyLinks, m)
    | some (.file _ _) =>
      match access with
      | .fresh => (.error .alreadyThere, m)
      | .write => give (.file place.key) { m with files := m.files.store place.key [] }
      | _ => give (.file place.key) m
    | none =>
      match access with
      | .read => (.error .noEntry, m)
      | _ => give (.file place.key) { m with files := m.files.store place.key [] }

end Machine

end Scaffold
