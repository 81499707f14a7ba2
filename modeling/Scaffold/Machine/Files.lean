import Scaffold.Error
import Scaffold.Path
import Scaffold.Table
import Scaffold.Text.Utf8

/-!
# Files in memory

A file system as a table from canonical paths to what stands there. A canonical path is absolute and
free of links, dot and parent parts; the root is the empty text. `Files.resolve` finds the place
that any path names, following links.
-/

namespace Scaffold

/-- A device of a machine. -/
inductive Device where
  /-- Swallows everything and gives nothing. -/
  | null
  /-- Gives zeros without end. -/
  | zero
  /-- Gives zeros, but has no space for anything. -/
  | full
  /-- Gives bytes without end. -/
  | random
  /-- A terminal, which no process has. -/
  | terminal
  /-- Whatever a channel of the process leads to. -/
  | channel (n : Nat)
  | pipe
deriving DecidableEq, Repr, Inhabited

/-- What stands at a place of a file system. -/
inductive Item where
  | directory
  | file (content : Bytes) (executable : Bool)
  | link (target : String)
  /-- A program that is part of the machine. -/
  | tool (name : String)
  | device (d : Device)
deriving DecidableEq, Inhabited

/-- A file system: what stands where, and when it was changed, in billionths of a second. -/
structure Files where
  items : Table Item
  stamps : Table Int := ∅
  /-- Paths that lead to the same file, group by group. -/
  groups : List (List String) := []
  /-- The order in which things were made. -/
  births : Table Nat := ∅
  count : Nat := 0
deriving Inhabited

/-- A canonical path, and what stands there. -/
structure Place where
  key : String
  item : Option Item
deriving Inhabited

namespace Files

/-- The file system that holds the root directory alone. -/
def bare : Files := { items := Table.empty.insert "" .directory }

/-- What stands at a canonical path. -/
def get? (f : Files) (key : String) : Option Item := f.items.get? key

/-- How many parts of a second times count. -/
def tick : Int := 1000000000

/-- The time of everything that nobody changed. -/
def startTime : Int := 1780000000 * tick

/-- The time of what is changed. -/
def changeTime : Int := startTime + tick

/-- When what stands at a canonical path was changed. -/
def stamp (f : Files) (key : String) : Int := (f.stamps.get? key).getD startTime

/-- All paths of the file at a canonical path. -/
def twins (f : Files) (key : String) : List String :=
  (f.groups.find? fun g => g.contains key).getD [key]

/-- Whether two canonical paths lead to the same file. -/
def isSame (f : Files) (a b : String) : Bool := a == b || (f.twins a).contains b

/-- Give what stands at a canonical path a time. -/
def setStamp (f : Files) (key : String) (time : Int) : Files :=
  { f with stamps := (f.twins key).foldl (fun t k => t.insert k time) f.stamps }

/-- Forget what was changed when. -/
def settled (f : Files) : Files := { f with stamps := ∅ }

/-- Groups without a path. -/
def ungrouped (f : Files) (key : String) : List (List String) :=
  f.groups.map fun g => g.filter (· != key)

/-- Put something new at a canonical path. -/
def put (f : Files) (key : String) (item : Item) : Files :=
  { items := f.items.insert key item
    stamps := f.stamps.insert key changeTime
    groups := f.ungrouped key
    births := f.births.insert key f.count
    count := f.count + 1 }

/-- Take away what stands at a canonical path. -/
def erase (f : Files) (key : String) : Files :=
  { f with items := f.items.filter fun k _ => k != key, groups := f.ungrouped key }

/-- Let another canonical path lead to the same file. -/
def join (f : Files) (key other : String) : Files :=
  match f.get? key with
  | none => f
  | some item =>
    let g := f.erase other
    let group := g.twins key ++ [other]
    { g with
      items := g.items.insert other item
      stamps := g.stamps.insert other (f.stamp key)
      groups := group :: g.groups.filter fun h => !h.contains key
      births := g.births.insert other ((f.births.get? key).getD 0) }

/-- Move what stands at a canonical path to another one. -/
def rename (f : Files) (key other : String) : Files := (f.join key other).erase key

/-- The directory a canonical path is in; the root is in itself. -/
def parent (key : String) : String :=
  ((Chars.splitLast? '/' key.toList).map fun p => String.ofList p.1).getD ""

/-- The parts of a path that are walked one by one. A path that ends in a separator ends in a dot
part, which asks for a directory. -/
def steps (path : String) : List String :=
  let parts := (Text.split '/' path).filter fun c => !c.isEmpty && c != "."
  if Text.endsWith "/" path || Text.endsWith "/." path || path == "." then parts ++ ["."] else parts

/-- The longest name that a file can have, in bytes. -/
def nameLimit : Nat := 255

/-- The longest path, in bytes. -/
def pathLimit : Nat := 4095

/-- How many links a path may go through. -/
def linkLimit : Nat := 40

/-- Walk from a canonical path. The last part may be missing, and is followed if it is a link and
`follow` is set. -/
def walk (f : Files) (follow : Bool) (links : Nat) (key : String) (parts : List String) :
    Except IoError Place :=
  match parts with
  | [] => .ok { key, item := f.get? key }
  | c :: rest =>
    match f.get? key with
    | none => .error .noEntry
    | some .directory =>
      if c = "." then walk f follow links key rest
      else if c = ".." then walk f follow links (parent key) rest
      else if c.utf8ByteSize > nameLimit then .error .nameTooLong
      else
        let next := key ++ "/" ++ c
        match f.get? next with
        | none => if rest.isEmpty then .ok { key := next, item := none } else .error .noEntry
        | some (.link target) =>
          if rest.isEmpty && !follow then .ok { key := next, item := some (.link target) }
          else match links with
            | 0 => .error .tooManyLinks
            | links + 1 =>
              if target.isEmpty then .error .noEntry
              else walk f follow links (if Path.isAbsolute target then "" else key)
                (steps target ++ rest)
        | some _ => walk f follow links next rest
    | some _ => .error .notDirectory
termination_by (links, parts.length)

/-- The place that a path names, seen from a directory; `follow` says whether a link there is
followed. -/
def find (f : Files) (dir path : String) (follow : Bool) : Except IoError Place :=
  if path.isEmpty then .error .noEntry
  else if Text.contains '\x00' path then .error .zeroInName
  else if path.utf8ByteSize > pathLimit then .error .nameTooLong
  else if Path.isAbsolute path then walk f follow linkLimit "" (steps path)
  else do
    let base ← walk f true linkLimit "" (steps dir)
    walk f follow linkLimit base.key (steps path)

/-- The place that a path names, seen from a directory, with all links followed. -/
def resolve (f : Files) (dir path : String) : Except IoError Place := f.find dir path true

/-- What a path names, seen from a directory. -/
def item? (f : Files) (dir path : String) : Option Item :=
  match f.resolve dir path with
  | .ok place => place.item
  | .error _ => none

/-- Whether a path names a directory. -/
def isDir (f : Files) (dir path : String) : Bool :=
  match f.item? dir path with
  | some .directory => true
  | _ => false

/-- Whether a path names a file. -/
def isFile (f : Files) (dir path : String) : Bool :=
  match f.item? dir path with
  | some (.file _ _) => true
  | some (.tool _) => true
  | _ => false

/-- The canonical path of something that exists. -/
def canonical (f : Files) (dir path : String) : Except IoError String := do
  let place ← f.resolve dir path
  if place.item.isSome then return if place.key.isEmpty then "/" else place.key
  else .error .noEntry

/-- The names in the directory at a canonical path, in name order. -/
def names (f : Files) (key : String) : List String :=
  f.items.keys.filterMap fun k =>
    (Text.stripPrefix? (key ++ "/") k).filter fun name => !name.isEmpty && !Text.contains '/' name

/-- The names in the directory at a canonical path, in the order in which they came there. -/
def namesByAge (f : Files) (key : String) : List String :=
  let age (name : String) : Nat := (f.births.get? (key ++ "/" ++ name)).getD 0
  (f.names key).mergeSort fun a b => age a ≤ age b

/-- The names in a directory; what is no directory has none. -/
def list (f : Files) (dir path : String) : List String :=
  match f.resolve dir path with
  | .ok { key, item := some .directory } => f.names key
  | _ => []

/-- The content of a file. -/
def read (f : Files) (dir path : String) : Except IoError Bytes := do
  match (← f.resolve dir path).item with
  | none => .error .noEntry
  | some .directory => .error .isDirectory
  | some (.file content _) => return content
  | some _ => return []

/-- How many bytes stand at a place. -/
def sizeOf : Item → Nat
  | .file content _ => content.length
  | .link target => target.utf8ByteSize
  | .directory => 4096
  | .tool _ => 40000
  | .device _ => 0

/-- The place to write a file at: a file that is there, or a new one in a directory. -/
def writable (f : Files) (dir path : String) : Except IoError Place := do
  let place ← f.resolve dir path
  match place.item with
  | some .directory => .error .isDirectory
  | some (.tool _) => .error .notPermitted
  | _ => return place

/-- Change what stands at a canonical path. All paths of a file lead to what it is now. -/
def change (f : Files) (key : String) (item : Item) : Files :=
  { f with items := (f.twins key).foldl (fun t k => t.insert k item) f.items }

/-- Put content into a file, which stays executable if it was. -/
def store (f : Files) (key : String) (content : Bytes) : Files :=
  match f.get? key with
  | some (.file _ executable) => (f.change key (.file content executable)).setStamp key changeTime
  | _ => f.put key (.file content false)

/-- Write a file. -/
def write (f : Files) (dir path : String) (content : Bytes) : Except IoError Files := do
  let place ← f.writable dir path
  return f.store place.key content

/-- Make a directory unless there is one. -/
def makeDir (f : Files) (dir path : String) : Except IoError Files := do
  let place ← f.resolve dir path
  match place.item with
  | some .directory => return f
  | some _ => .error .notDirectory
  | none => return f.put place.key .directory

/-- Every path on the way to a path, itself last. -/
def ancestors (path : String) : List String :=
  let start := if Path.isAbsolute path then "/" else ""
  ((Path.components path).foldl
    (fun (state : String × List String) part =>
      let next := Path.join state.1 part
      (next, state.2 ++ [next]))
    (start, [])).2

/-- Make a directory and all directories on the way. -/
def makeDirs (f : Files) (dir path : String) : Except IoError Files :=
  (ancestors path).foldlM (fun f p => f.makeDir dir p) f

/-- Put something into a directory, with all directories on the way. What cannot be put there is
left out. -/
def place (f : Files) (dir path : String) (item : Item) : Files :=
  let parent := Text.join "/" (Path.components path).dropLast
  let f := match f.makeDirs dir (if Path.isAbsolute path then "/" ++ parent else parent) with
    | .ok f => f
    | .error _ => f
  match item with
  | .directory => (f.makeDirs dir path).toOption.getD f
  | item =>
    match f.find dir path false with
    | .ok p => f.put p.key item
    | .error _ => f

end Files

end Scaffold
