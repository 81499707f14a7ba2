import Scaffold.Section
import Scaffold.Template
import Scaffold.Yaml.Decode

/-!
# Scripts

A script is a file with named sections, declared arguments and a table of files. Assistants and
snippets are scripts that passed the checks of `Script.validate`: argument flags are unique, every
section has the right shape at every depth, and every file has a source.

* `Script.parse` reads a document text, `Script.decode` any shaped content.
* `Assistant.ofScript` and `Snippet.ofScript` check a script and keep its sections.
-/

namespace Scaffold

/-- Name of the section that is run. -/
def runSectionName : String := "run"

/-- Name of the section that declares dependencies. -/
def dependenciesSectionName : String := "dependencies"

/-- Whether a top-level key of a script names a section. -/
def isSectionKey (key : String) : Bool :=
  Text.startsWith runSectionName key || Text.startsWith dependenciesSectionName key

/-- A declared argument. -/
structure Argument where
  flags : List String := []
  help : Option String := none
  required : Bool := false
  initial : Option Value := none
deriving DecidableEq, Repr, Inhabited

/-- The content of a script file. -/
structure Script where
  fullname : Option String := none
  description : Option String := none
  args : Table Argument := ∅
  files : Value := .null
  rest : Table Value := ∅
deriving Inhabited

/-! ### Reading -/

open Yaml (Decode Shaped)

/-- Fields read so far, each at most once. -/
structure FieldsRead where
  names : List String := []

/-- Note a field; a second time is refused. -/
def FieldsRead.note? (r : FieldsRead) (name : String) : Option FieldsRead :=
  if r.names.contains name then none else some { names := name :: r.names }

section Decode

variable {α : Type} [Shaped α]

/-- Add a field to a declared argument; unknown fields mean nothing and are not read. -/
def Argument.field (a : Argument) (name : String) (content : α) : Decode Argument := do
  if name == "flags" then return { a with flags := ← Shaped.texts content }
  else if name == "help" then
    return { a with help := ← Shaped.optional Shaped.text content }
  else if name == "required" then return { a with required := ← Shaped.bool content }
  else if name == "default" then
    let value := Shaped.value true (Yaml.depthLimit - 3)
    return { a with initial := ← Shaped.optional value content }
  else return a

/-- Fields of a declared argument that may come only once. -/
def Argument.fieldNames : List String := ["flags", "help", "required", "default"]

/-- Read the entries of a declared argument. -/
def Argument.decodeEntries : List (α × α) → FieldsRead → Argument → Decode Argument
  | [], _, a => return a
  | (k, v) :: rest, read, a => do
    let name ← Shaped.text k
    let read ← if fieldNames.contains name then read.note? name else some read
    let a ← a.field name v
    decodeEntries rest read a

/-- Read a declared argument. -/
def Argument.decode (content : α) : Decode Argument := do
  decodeEntries (← Shaped.entries content) {} {}

/-- Read a table with text keys. -/
def decodeTable {β : Type} (read : α → Decode β) (content : α) : Decode (Table β) := do
  let pairs ← (← Shaped.entries content).mapM fun (k, v) => do
    return (← Shaped.text k, ← read v)
  return Table.ofList pairs

/-- Fields of a script that may come only once. -/
def Script.fieldNames : List String := ["fullname", "description", "args", "files"]

/-- Add a field to a script; all other keys are kept aside and carry no tags. -/
def Script.field (s : Script) (name : String) (content : α) : Decode Script := do
  if name == "fullname" then
    return { s with fullname := ← Shaped.optional Shaped.text content }
  else if name == "description" then
    return { s with description := ← Shaped.optional Shaped.text content }
  else if name == "args" then
    return { s with args := ← decodeTable Argument.decode content }
  else if name == "files" then
    return { s with files := ← Shaped.value true (Yaml.depthLimit - 1) content }
  else
    let v ← Shaped.value false (Yaml.depthLimit - 1) content
    return { s with rest := s.rest.insert name v }

/-- Read the entries of a script. -/
def Script.decodeEntries : List (α × α) → FieldsRead → Script → Decode Script
  | [], _, s => return s
  | (k, v) :: rest, read, s => do
    let name ← Shaped.text k
    let read ← if fieldNames.contains name then read.note? name else some read
    let s ← s.field name v
    decodeEntries rest read s

/-- Read a script. -/
def Script.decode (content : α) : Decode Script := do
  decodeEntries (← Shaped.entries content) {} {}

end Decode

/-- Read a script from its text; a text without a document is a script without content. -/
def Script.parse (text : String) : Except Error Script :=
  if (Text.trim text).isEmpty then .ok {}
  else match Decode.document? Script.decode text with
    | none => .error .yaml
    | some s => .ok (s.getD {})

/-! ### Checks -/

/-- The first flag that comes a second time. -/
def repeatedFlag? : List String → List String → Option String
  | _, [] => none
  | seen, flag :: rest =>
    if seen.contains flag then some flag else repeatedFlag? (flag :: seen) rest

/-- No flag is declared twice, neither by one argument nor by two. -/
def Script.validateArgs (s : Script) : Except ConfigError Unit :=
  match repeatedFlag? [] (s.args.entries.flatMap fun e => e.2.flags) with
  | some flag => .error (.duplicateFlag flag)
  | none => .ok ()

/-- Every section has the right shape. -/
def validateSections : List (String × Value) → Except ConfigError Unit
  | [] => .ok ()
  | (key, v) :: rest => do
    if isSectionKey key then validateSection key v
    validateSections rest

/-- Every file has a source. -/
def validateSources : List (Value × Value) → Except ConfigError Unit
  | [] => .ok ()
  | (name, file) :: rest =>
    if ((file.get? "source").bind Value.asText?).isSome then validateSources rest
    else .error (.invalid ("file '" ++ name.asText?.getD "?" ++ "' has no source"))

/-- The files section is a mapping of names to sources, or missing. -/
def validateFiles : Value → Except ConfigError Unit
  | .null => .ok ()
  | .mapping entries => validateSources entries
  | _ => .error (.invalid "files must be a mapping")

/-- Arguments first, then sections in name order, then files. -/
def Script.validate (s : Script) : Except ConfigError Unit := do
  s.validateArgs
  validateSections s.rest.entries
  validateFiles s.files

/-- The sections among the keys kept aside. -/
def collectSections : List (String × Value) → Table Section → Except ConfigError (Table Section)
  | [], t => .ok t
  | (key, v) :: rest, t =>
    if isSectionKey key then do
      let s ← (Section.ofValue v).mapError (SyntaxError.inSection key)
      collectSections rest (t.insert key s)
    else collectSections rest t

/-! ### Assistants and snippets -/

/-- A checked script that can be invoked. -/
structure Assistant where
  name : String := ""
  fullname : String := ""
  description : Option String := none
  args : Table Argument := ∅
  files : Value := .null
  filesDir : String := ""
  sections : Table Section := ∅
deriving Inhabited

/-- A checked script whose sections can be called. -/
structure Snippet where
  name : String := ""
  files : Value := .null
  filesDir : String := ""
  sections : Table Section := ∅
deriving Inhabited

/-- The files section of an assistant with its directory. -/
def Assistant.fileTable (a : Assistant) : FileTable := { files := a.files, dir := a.filesDir }

/-- The files section of a snippet with its directory. -/
def Snippet.fileTable (s : Snippet) : FileTable := { files := s.files, dir := s.filesDir }

/-- Check a script and make it an assistant. -/
def Assistant.ofScript (name : String) (s : Script) : Except ConfigError Assistant := do
  s.validate
  let sections ← collectSections s.rest.entries ∅
  return { name, fullname := s.fullname.getD name, description := s.description, args := s.args,
           files := s.files, sections }

/-- Check a script and make it a snippet. -/
def Snippet.ofScript (name : String) (s : Script) : Except ConfigError Snippet := do
  s.validate
  let sections ← collectSections s.rest.entries ∅
  return { name, files := s.files, sections }

/-- Whether an assistant declares an argument. -/
def Assistant.isArg (a : Assistant) (name : String) : Bool := a.args.contains name

end Scaffold
