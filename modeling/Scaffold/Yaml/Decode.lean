import Scaffold.Yaml.Node
import Scaffold.Yaml.Scalar

/-!
# Decoding

From document nodes to values and typed fields. `Document.value` is the value of a node. The class
`Shaped` lists the views that typed readers need, so that a script or a marker can be read from a
document or from a value that is already there: the two differ in what counts as a text, because a
document scalar is a text whatever it looks like.

References are followed when what they name is read, so one in content that nobody reads may name
anything. How often they are followed is bounded, and so is the depth of collections; a collection
that holds itself exceeds the depth.
-/

namespace Scaffold.Yaml

/-- A reading. The state is how often references may still be followed. -/
abbrev Decode (α : Type) := StateT Nat Option α

/-- How deep collections may be nested. -/
def depthLimit : Nat := 128

/-- The value of a scalar with a tag of a standard kind, nothing if the tag is another. -/
def standardScalar? (tag : Tag) (text : String) : Option (Option Value) :=
  if tag = .standard "bool" then some ((Plain.bool? text).map .bool)
  else if tag = .standard "int" then
    some ((Plain.int? text.toList).bind (Plain.value? text))
  else if tag = .standard "float" then some ((Plain.float? text.toList).map .float)
  else if tag = .standard "null" then some (if Plain.isNull text then some .null else none)
  else none

/-- The value of a scalar; a local tag without a name counts as none. -/
def scalarValue? (tag : Option Tag) (style : Style) (text : String) : Option Value :=
  let plain : Option Value :=
    if style = .plain then (Plain.resolve text).value? text else some (.text text)
  match tag with
  | none => plain
  | some t =>
    match standardScalar? t text with
    | some v => v
    | none => if t.isLocal then plain else some (.text text)

/-- Whether a key comes twice. -/
def hasRepeatedKey : List (Value × Value) → Bool
  | [] => false
  | (k, _) :: rest => rest.any (fun e => e.1.alike k) || hasRepeatedKey rest

namespace Document

/-- The node that a reference names, any other node as it is. -/
def follow (d : Document) : Node → Decode Node
  | .reference n => do
    match ← get with
    | 0 => failure
    | left + 1 =>
      set left
      d.anchors.node? n
  | node => pure node

/-- A collection under a tag. Without `tags`, a local one is refused. -/
def tagged? (tags : Bool) (tag : Option Tag) (v : Value) : Option Value :=
  match tag.bind Tag.localName? with
  | some name => if tags then some (.tagged name v) else none
  | none => some v

/-- The value of a scalar under a tag. Without `tags`, a local one is refused. -/
def taggedScalar? (tags : Bool) (tag : Option Tag) (style : Style) (text : String) :
    Option Value :=
  match tag.bind Tag.localName? with
  | some name => if tags then (scalarValue? none style text).map (.tagged name) else none
  | none => scalarValue? tag style text

/-- The value of a node, `depth` levels of nesting at most. -/
def value (d : Document) (tags : Bool) : (depth : Nat) → Node → Decode Value
  | 0, node => do
    match ← d.follow node with
    | .scalar tag style text => taggedScalar? tags tag style text
    | _ => failure
  | depth + 1, node => do
    match ← d.follow node with
    | .scalar tag style text => taggedScalar? tags tag style text
    | .sequence tag items =>
      let vs ← items.mapM (d.value tags depth)
      tagged? tags tag (.list vs)
    | .mapping tag entries =>
      let vs ← entries.mapM fun e => do
        return (← d.value tags depth e.1, ← d.value tags depth e.2)
      if hasRepeatedKey vs then failure
      tagged? tags tag (.mapping vs)
    | .reference _ => failure

end Document

/-- The views a typed reader has of what it reads. -/
class Shaped (α : Type) where
  /-- The content itself, where a reference stands for it. -/
  settled : α → Decode α
  /-- The content as a text. -/
  text : α → Decode String
  /-- The content as a boolean. -/
  bool : α → Decode Bool
  /-- Whether there is no content; a failure when that is unclear. -/
  missing : α → Decode Bool
  /-- The items; no content is no items. -/
  items : α → Decode (List α)
  /-- The entries; no content is no entries. -/
  entries : α → Decode (List (α × α))
  /-- The content as a value, `depth` levels deep at most, with or without local tags. -/
  value : (tags : Bool) → (depth : Nat) → α → Decode Value

/-- A node with the document around it. -/
structure Content where
  document : Document
  node : Node
deriving Inhabited

/-- Whether a scalar is an absent value. -/
def isAbsent (style : Style) (text : String) : Bool := style = .plain && text.isEmpty

namespace Content

/-- The content that a reference names. -/
def settled (c : Content) : Decode Content := do
  return { c with node := ← c.document.follow c.node }

def text (c : Content) : Decode String := do
  match (← c.settled).node with
  | .scalar _ _ text => return text
  | _ => failure

def bool (c : Content) : Decode Bool := do
  match (← c.settled).node with
  | .scalar tag style text =>
    if style = .plain || (style = .literal && tag = some (.standard "bool")) then Plain.bool? text
    else failure
  | _ => failure

def missing (c : Content) : Decode Bool := do
  match (← c.settled).node with
  | .scalar tag style text =>
    if style != .plain then return false
    match tag with
    | none => return text.isEmpty || Plain.isNull text
    | some t =>
      if t != .standard "null" then return false
      if Plain.isNull text then return true else failure
  | _ => return false

def items (c : Content) : Decode (List Content) := do
  match (← c.settled).node with
  | .sequence _ items => return items.map fun n => { c with node := n }
  | .scalar _ style text => if isAbsent style text then return [] else failure
  | _ => failure

def entries (c : Content) : Decode (List (Content × Content)) := do
  match (← c.settled).node with
  | .mapping _ entries =>
    return entries.map fun e => ({ c with node := e.1 }, { c with node := e.2 })
  | .scalar _ style text => if isAbsent style text then return [] else failure
  | _ => failure

end Content

instance : Shaped Content where
  settled := Content.settled
  text := Content.text
  bool := Content.bool
  missing := Content.missing
  items := Content.items
  entries := Content.entries
  value tags depth c := c.document.value tags depth c.node

mutual

/-- Whether a value holds a tag at any depth. -/
def hasTag : Value → Bool
  | .tagged _ _ => true
  | .list items => hasTagList items
  | .mapping entries => hasTagEntries entries
  | _ => false

/-- Whether an item holds a tag. -/
def hasTagList : List Value → Bool
  | [] => false
  | v :: vs => hasTag v || hasTagList vs

/-- Whether a key or a value holds a tag. -/
def hasTagEntries : List (Value × Value) → Bool
  | [] => false
  | (k, v) :: rest => hasTag k || hasTag v || hasTagEntries rest

end

instance : Shaped Value where
  settled v := pure v
  text v := v.asText?
  bool v :=
    match v.untagged with
    | .bool b => pure b
    | _ => failure
  missing
    | .null => pure true
    | _ => pure false
  items v :=
    match v.untagged with
    | .list items => pure items
    | .null => pure []
    | _ => failure
  entries v :=
    match v.untagged with
    | .mapping entries => pure entries
    | .null => pure []
    | _ => failure
  value tags _ v := if !tags && hasTag v then failure else pure v

namespace Shaped

variable {α β : Type} [Shaped α]

/-- An optional field: nothing where the content is missing. -/
def optional (read : α → Decode β) (a : α) : Decode (Option β) := do
  let a ← settled a
  if ← missing a then return none
  return some (← read a)

/-- A list of texts. -/
def texts (a : α) : Decode (List String) := do
  (← items a).mapM text

end Shaped

/-- Run a reading of a value that is already there: it has no references. -/
def Decode.run? {α : Type} (read : Decode α) : Option α := (read.run 0).map Prod.fst

/-- Run a reading of the one document of a text, nothing when there is no document. -/
def Decode.document? {α : Type} (read : Content → Decode α) (text : String) :
    Option (Option α) :=
  (Document.read? text).bind fun d =>
    match d with
    | none => some none
    | some d => ((read { document := d, node := d.root }).run d.jumpLimit).map (some ·.1)

/-- The value of a document text; no document is null. -/
def value? (text : String) : Option Value :=
  (Decode.document? (Shaped.value true depthLimit) text).map (Option.getD · .null)

end Scaffold.Yaml
