import Scaffold.Host
import Scaffold.Script

/-!
# Libraries

A library holds assistants, by role and nested below each other, and snippets by name. It is loaded
from roots laid out as `assistants/<role>/<name>.yaml`, with the assistants below `<name>` in the
directory `<name>`, `snippets/<name>.yaml` and `files/…`. Names found in an earlier root shadow
those of later ones.

* `Library.chain` resolves a path of names to the assistants on it.
* `Library.addAssistant` adds one assistant below a path of names.
* `Library.load` reads roots.
-/

namespace Scaffold

/-- Known roles of assistants, in the order they are loaded. -/
def roles : List String := ["crt", "mod", "prep", "task"]

/-- Role of the assistants that create projects. -/
def creatorRole : String := "crt"

/-- An assistant with the ones below it. -/
inductive Tree where
  | node (assistant : Assistant) (children : List Tree)
deriving Inhabited

namespace Tree

/-- The assistant at the top of a tree. -/
def assistant : Tree → Assistant
  | .node a _ => a

/-- The trees below the top. -/
def children : Tree → List Tree
  | .node _ ts => ts

/-- The name of the assistant at the top. -/
def name (t : Tree) : String := t.assistant.name

end Tree

/-- Trees next to each other; of two with one name the first counts. -/
abbrev Forest := List Tree

namespace Forest

/-- The first tree with a name. -/
def find? (f : Forest) (name : String) : Option Tree := List.find? (fun t => t.name == name) f

/-- The assistants on a path of names. -/
def chain? : Forest → List String → Option (List Assistant)
  | _, [] => some []
  | f, name :: rest =>
    match find? f name with
    | none => none
    | some t => (chain? t.children rest).map (t.assistant :: ·)

/-- Change the first tree with a name. -/
def updateFirst (name : String) (change : Tree → Tree) : Forest → Forest
  | [] => []
  | t :: rest => if t.name == name then change t :: rest else t :: updateFirst name change rest

/-- Add an assistant at the end of the forest below a path of names. -/
def add? (a : Assistant) : List String → Forest → Option Forest
  | [], f => some (f ++ [.node a []])
  | name :: rest, f =>
    match find? f name with
    | none => none
    | some t =>
      (add? a rest t.children).map fun children =>
        updateFirst name (fun t => .node t.assistant children) f

/-- The names of a path up to the first that is not there. -/
def missing : Forest → List String → List String
  | _, [] => []
  | f, name :: rest =>
    match find? f name with
    | none => [name]
    | some t => name :: missing t.children rest

end Forest

/-- Assistants by role and snippets by name. -/
structure Library where
  assistants : Table Forest := ∅
  snippets : Table Snippet := ∅
deriving Inhabited

namespace Library

/-- The roles that have an entry, in name order. -/
def roles (l : Library) : List String := l.assistants.keys

/-- The assistants of a role. -/
def forest (l : Library) (role : String) : Forest := (l.assistants.get? role).getD []

/-- A snippet by name. -/
def snippet? (l : Library) (name : String) : Option Snippet := l.snippets.get? name

/-- Add a snippet in place of any of the same name. -/
def addSnippet (l : Library) (s : Snippet) : Library :=
  { l with snippets := l.snippets.insert s.name s }

/-- The error for a path that does not resolve. -/
def notFound (role : String) (names : List String) : ConfigError :=
  .assistantNotFound (Text.join " " (role :: names))

/-- The assistants on a path of names below a role; the path must not be empty. -/
def chain (l : Library) (role : String) (names : List String) :
    Except ConfigError (List Assistant) :=
  if names.isEmpty then .error (notFound role names)
  else match (l.forest role).chain? names with
    | some assistants => .ok assistants
    | none => .error (notFound role names)

/-- Add an assistant below a path of names. The role gets an entry in any case. -/
def addAssistant (l : Library) (role : String) (parents : List String) (a : Assistant) :
    Except ConfigError Unit × Library :=
  let f := l.forest role
  match f.add? a parents with
  | some f => (.ok (), { l with assistants := l.assistants.insert role f })
  | none =>
    (.error (notFound role (f.missing parents)),
      { l with assistants := l.assistants.insert role f })

/-! ### Loading -/

section Load

variable {W : Type} (host : Host W) (w : W)

/-- The path that listed files of a directory are shown under: a leading dot part is dropped and
separators are single. -/
def shownDir (dir : String) : String :=
  let step (path part : String) : String := if path == "." then part else Path.join path part
  match Text.stripPrefix? "/" dir with
  | some rest => (Text.split '/' rest).foldl step "/"
  | none => (Text.split '/' dir).foldl step "."

/-- Script files directly in a directory, in name order. -/
def scriptFiles (dir : String) : List String :=
  let isScript (name : String) : Bool := Text.endsWith ".yaml" name || Text.endsWith ".yml" name
  let base := shownDir dir
  let path (name : String) : String := if base == "." then name else Path.join base name
  let names := ((host.listDir w dir).filter isScript).mergeSort (· ≤ ·)
  (names.map path).filter (host.isFile w)

/-- The error for a script file. -/
def scriptFault (path reason : String) : Error := .config (.invalidScript path reason)

/-- Read a script file. -/
def readScript (path : String) : Except Error Script :=
  match host.readText w path with
  | .error e => .error (scriptFault path e.message)
  | .ok text => (Script.parse text).mapError fun e => scriptFault path e.message

/-- The name a script file gives its script. -/
def scriptName (path : String) : String := Path.stem (Path.baseName path)

/-- Read an assistant file. -/
def readAssistant (path filesDir : String) : Except Error Assistant := do
  let script ← readScript host w path
  let a ← (Assistant.ofScript (scriptName path) script).mapError fun e => scriptFault path e.message
  return { a with filesDir := Path.join filesDir (scriptName path) }

/-- Read a snippet file. -/
def readSnippet (path filesDir : String) : Except Error Snippet := do
  let script ← readScript host w path
  let s ← (Snippet.ofScript (scriptName path) script).mapError fun e => scriptFault path e.message
  return { s with filesDir := Path.join filesDir (scriptName path) }

/-- How deep directories of assistants may be nested; longer paths do not exist. -/
def nestingLimit : Nat := 2048

/-- The assistants of a directory and, below them, those of its subdirectories. -/
def loadForest : Nat → (dir filesDir : String) → Except Error Forest
  | 0, _, _ => .ok []
  | depth + 1, dir, filesDir =>
    (scriptFiles host w dir).mapM fun path => do
      let a ← readAssistant host w path filesDir
      let sub := Path.join dir (scriptName path)
      let children ←
        if host.isDir w sub then loadForest depth sub (Path.join filesDir (scriptName path))
        else .ok []
      return .node a children

/-- Add the trees whose names are new. -/
def mergeForest (f new : Forest) : Forest :=
  new.foldl (fun f t => if (f.find? t.name).isSome then f else f ++ [t]) f

/-- Load the assistants of one role of a root. -/
def loadRole (root : String) (l : Library) (role : String) : Except Error Library := do
  let dir := Path.join (Path.join root "assistants") role
  if host.isDir w dir then
    let new ← loadForest host w nestingLimit dir (Path.join (Path.join root "files") role)
    if new.isEmpty then return l
    return { l with assistants := l.assistants.insert role (mergeForest (l.forest role) new) }
  else return l

/-- Load a snippet file unless a snippet of its name is there. -/
def loadSnippet (root : String) (l : Library) (path : String) : Except Error Library :=
  if l.snippets.contains (scriptName path) then .ok l
  else (readSnippet host w path (Path.join (Path.join root "files") "snippets")).map l.addSnippet

/-- Load one root. -/
def loadRoot (l : Library) (root : String) : Except Error Library := do
  let l ← Scaffold.roles.foldlM (loadRole host w root) l
  let dir := Path.join root "snippets"
  if host.isDir w dir then (scriptFiles host w dir).foldlM (loadSnippet host w root) l
  else return l

/-- Load roots, earlier ones first. -/
def load (rootDirs : List String) : Except Error Library :=
  rootDirs.foldlM (loadRoot host w) {}

/-! ### Finding roots -/

/-- Directories that may be library roots: the given ones, those of `DEVASSIST_PATH`, the one of the
project and the one of the user. -/
def searchPath (explicit : List String) : List String :=
  let listed := ((host.environment? w "DEVASSIST_PATH").map (Text.split ':')).getD []
  let user := (host.home? w).map fun home => Path.join home ".local/share/devassist"
  explicit ++ listed ++ [Path.join (host.currentDir w) ".devassist"] ++ user.toList

/-- The library roots that exist; there must be one. -/
def findRoots (explicit : List String) : Except ConfigError (List String) :=
  let candidates := searchPath host w explicit
  let found := candidates.filter (host.isDir w)
  if found.isEmpty then .error (.notFound (Text.join ", " candidates)) else .ok found

end Load

end Library

end Scaffold
