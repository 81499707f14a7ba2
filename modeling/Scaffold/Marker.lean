import Scaffold.Library
import Scaffold.Yaml.Block

/-!
# Markers

A project that an assistant created holds a file that says which assistant it was and with which
arguments. `Marker.create` makes a marker, `Marker.write` and `Marker.read` put it into a directory
and take it out again, and `Marker.exposed` is the mapping that scripts see.
-/

namespace Scaffold

/-- What a project remembers of the run that created it. -/
structure Marker where
  version : String := ""
  path : List String := []
  arguments : Table Value := ∅
  extra : Table Value := ∅
deriving Inhabited

/-- Whether two tables hold alike values under the same names. -/
def alikeTables (a b : Table Value) : Bool :=
  a.keys == b.keys && Value.alikeList (a.entries.map Prod.snd) (b.entries.map Prod.snd)

/-- Whether two markers say the same. -/
def Marker.alike (a b : Marker) : Bool :=
  a.version == b.version && a.path == b.path && alikeTables a.arguments b.arguments &&
    alikeTables a.extra b.extra

/-- Name of the file in a project directory. -/
def markerFile : String := ".devassistant"

/-- Version of the tool, which markers record. -/
def toolVersion : String := "0.1.0"

/-- What the arguments of the run are exposed under. -/
def exposedMark : String := "dda__"

/-! ### Project directories -/

section Directories

variable {W : Type} (host : Host W) (w : W)

/-- A path with a leading tilde replaced by the home directory. -/
def expandHome (arg : String) : String :=
  match Text.stripPrefix? "~" arg with
  | some rest =>
    if rest.isEmpty || Text.startsWith "/" rest then
      match host.home? w with
      | some home => Path.join home (String.ofList (rest.toList.dropWhile (· == '/')))
      | none => arg
    else arg
  | none => arg

/-- The directory an argument names, relative to `base`, without links if it exists. -/
def projectDir (arg base : String) : String :=
  let full := Path.join base (expandHome host w arg)
  (host.canonical? w full).getD full

end Directories

namespace Marker

/-- A marker for a path of assistants; a role in front is dropped. -/
def create (path : List String) (arguments : Table Value) : Marker :=
  let path := match path with
    | first :: rest => if roles.contains first then rest else path
    | [] => []
  { version := toolVersion, path, arguments }

/-- The fields of a marker as a value: the known ones, then the extra ones in name order. -/
def toEntries (m : Marker) : List (Value × Value) :=
  let named (t : Table Value) : List (Value × Value) := t.entries.map fun e => (.text e.1, e.2)
  [(.text "devassistant_version", .text m.version),
   (.text "subassistant_path", .list (m.path.map .text)),
   (.text "original_kwargs", .mapping (named m.arguments))] ++ named m.extra

/-- An extra field, null where there is none. -/
def extraValue (m : Marker) (key : String) : Value := (m.extra.get? key).getD .null

/-- The mapping that scripts see: the fields with their tags by name, the arguments under their
exposed names, and the base name of the directory. -/
def exposed (m : Marker) (dir : String) : Value :=
  let entries := m.arguments.entries.foldl
    (fun es e => Value.insertEntry (.text (exposedMark ++ e.1)) e.2 es)
    (Value.renamedEntries m.toEntries)
  .mapping (Value.insertEntry (.text "name") (.text (Path.baseName dir)) entries)

/-! ### Reading and writing -/

section Decode

open Yaml (Decode Shaped)

variable {α : Type} [Shaped α]

/-- Fields of a marker that may come only once. -/
def fieldNames : List String := ["devassistant_version", "subassistant_path", "original_kwargs"]

/-- Add a field to a marker. -/
def field (m : Marker) (name : String) (content : α) : Decode Marker := do
  if name == "devassistant_version" then return { m with version := ← Shaped.text content }
  else if name == "subassistant_path" then return { m with path := ← Shaped.texts content }
  else if name == "original_kwargs" then
    let value := Shaped.value true (Yaml.depthLimit - 2)
    return { m with arguments := ← decodeTable value content }
  else
    let v ← Shaped.value false (Yaml.depthLimit - 1) content
    return { m with extra := m.extra.insert name v }

/-- Read the entries of a marker. -/
def decodeEntries : List (α × α) → FieldsRead → Marker → Decode Marker
  | [], _, m => return m
  | (k, v) :: rest, read, m => do
    let name ← Shaped.text k
    let read ← if fieldNames.contains name then read.note? name else some read
    let m ← m.field name v
    decodeEntries rest read m

/-- Read a marker. -/
def decode (content : α) : Decode Marker := do
  decodeEntries (← Shaped.entries content) {} {}

end Decode

/-- The text of a marker file. -/
def text (m : Marker) : Except Yaml.WriteFault String :=
  Yaml.Block.document (.mapping m.toEntries)

/-- Read a marker from the text of its file. -/
def parse? (text : String) : Option Marker :=
  (Yaml.Decode.document? decode text).map (Option.getD · {})

section Files

variable {W : Type} (host : Host W) (w : W)

/-- Write a marker into a directory; the result is the path of the file. -/
def write (m : Marker) (dir : String) : Except ExecutionError String × W :=
  let path := Path.join dir markerFile
  match m.text with
  | .error fault => (.error (.markerFile fault.message), w)
  | .ok text =>
    match host.writeText w path text with
    | (.ok (), w) => (.ok path, w)
    | (.error e, w) => (.error (.markerFile (path ++ ": " ++ e.message)), w)

/-- Read the marker of a directory. -/
def read (dir : String) : Except ExecutionError Marker :=
  let path := Path.join dir markerFile
  match host.readText w path with
  | .error e => .error (.markerFile (path ++ ": " ++ e.message))
  | .ok text =>
    match parse? text with
    | some m => .ok m
    | none => .error (.markerFile (path ++ ": YAML"))

end Files

end Marker

end Scaffold
