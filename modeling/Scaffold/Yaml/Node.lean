import Scaffold.Value
import Scaffold.Yaml.Token

/-!
# Nodes

The tree of a document: scalars with their style, sequences and mappings, each with the tag it was
given, and references to anchored nodes.

An anchor gets a number when its node starts: the number of names that have been anchored so far. A
name that is anchored again counts once, so two anchors can get one number, and then the node that
starts later has it. A reference keeps the number its name has at that place.

`Document.read?` reads the one document of a text; the outer result is nothing when the text is
malformed or holds more than one document, the inner one when it holds none.
-/

namespace Scaffold.Yaml

/-- The bytes of a tag, which need not be a text. -/
structure Tag where
  bytes : List UInt8
deriving DecidableEq, Repr, Inhabited

namespace Tag

/-- A tag that is a text. -/
def ofText (s : String) : Tag := ⟨Utf8.encode s⟩

/-- Where the tags of the standard kinds are. -/
def standardAddress : String := "tag:yaml.org,2002:"

/-- The tag of a standard kind, such as `bool`. -/
def standard (kind : String) : Tag := ofText (standardAddress ++ kind)

/-- Whether a tag starts with an exclamation mark. -/
def isLocal (t : Tag) : Bool := t.bytes.head? == some 0x21

/-- The name of a local tag; nothing if it is not a text. -/
def localName? (t : Tag) : Option String :=
  match t.bytes with
  | [0x21] => some "!"
  | 0x21 :: rest => (Utf8.decode? rest).map Value.tagName
  | _ => none

end Tag

/-- A node of a document. -/
inductive Node where
  | scalar (tag : Option Tag) (style : Style) (text : String)
  | sequence (tag : Option Tag) (items : List Node)
  | mapping (tag : Option Tag) (entries : List (Node × Node))
  | reference (anchor : Nat)
deriving Repr, Inhabited

/-- The node of an absent value. -/
def Node.absent : Node := .scalar none .plain ""

namespace Node

mutual

/-- How many parts a node is written in: a collection has a start and an end. -/
def parts : Node → Nat
  | .sequence _ items => partsOfItems items + 2
  | .mapping _ entries => partsOfEntries entries + 2
  | _ => 1

/-- The parts of the items together. -/
def partsOfItems : List Node → Nat
  | [] => 0
  | n :: rest => parts n + partsOfItems rest

/-- The parts of the keys and values together. -/
def partsOfEntries : List (Node × Node) → Nat
  | [] => 0
  | (k, v) :: rest => parts k + parts v + partsOfEntries rest

end

/-- A node with the number of its anchor and its place among all anchored nodes by their starts. -/
structure Anchored where
  number : Nat
  start : Nat
  node : Node
deriving Repr, Inhabited

/-- The names anchored so far with their numbers, and the anchored nodes that are complete. -/
structure Anchors where
  numbers : List (String × Nat) := []
  starts : Nat := 0
  nodes : List Anchored := []
deriving Repr, Inhabited

namespace Anchors

/-- The number of a name. -/
def number? (a : Anchors) (name : String) : Option Nat :=
  (a.numbers.find? fun x => x.1 == name).map Prod.snd

/-- A node with this anchor starts. -/
def begin (a : Anchors) (name : String) : Anchors :=
  let others := a.numbers.filter fun x => x.1 != name
  { a with numbers := (name, a.numbers.length) :: others, starts := a.starts + 1 }

/-- The node that started when `before` were the anchors is complete. -/
def complete (a before : Anchors) (node : Node) : Anchors :=
  { a with nodes := { number := before.numbers.length, start := before.starts, node } :: a.nodes }

/-- The node with a number: of several, the one that started last. -/
def node? (a : Anchors) (number : Nat) : Option Node :=
  let latest (best : Option Anchored) (x : Anchored) : Option Anchored :=
    if x.number != number then best
    else match best with
      | some b => if b.start < x.start then some x else best
      | none => some x
  (a.nodes.foldl latest none).map Anchored.node

end Anchors

/-- Tag handles and the addresses they stand for. -/
abbrev Handles := List (String × List UInt8)

/-- Handles that need no directive. -/
def standardHandles : Handles := [("!", [0x21]), ("!!", Utf8.encode Tag.standardAddress)]

/-- Properties in front of a node. -/
structure Properties where
  anchor : Option String := none
  tag : Option (String × List UInt8) := none

/-- An anchor and a tag, in either order. -/
def properties : List Token → Properties × List Token
  | .anchor a :: .tag h s :: rest => ({ anchor := some a, tag := some (h, s) }, rest)
  | .tag h s :: .anchor a :: rest => ({ anchor := some a, tag := some (h, s) }, rest)
  | .anchor a :: rest => ({ anchor := some a }, rest)
  | .tag h s :: rest => ({ tag := some (h, s) }, rest)
  | rest => ({}, rest)

/-- The full tag of a handle and a suffix. -/
def resolveTag (handles : Handles) (tag : Option (String × List UInt8)) : Option (Option Tag) :=
  match tag with
  | none => some none
  | some (handle, suffix) =>
    if handle.isEmpty then some (some ⟨suffix⟩)
    else (handles.find? fun h => h.1 == handle).map fun h => some ⟨h.2 ++ suffix⟩

mutual

/-- A node. `block` allows block collections, `indentless` a sequence that is not indented. -/
def parse (handles : Handles) :
    Nat → (block indentless : Bool) → Anchors → List Token → Option (Node × Anchors × List Token)
  | 0, _, _, _, _ => none
  | fuel + 1, block, indentless, anchors, tokens =>
    match tokens with
    | .alias name :: rest =>
      (anchors.number? name).map fun n => (Node.reference n, anchors, rest)
    | tokens => do
      let (props, tokens) := properties tokens
      let tag ← resolveTag handles props.tag
      let before := anchors
      let anchors := (props.anchor.map anchors.begin).getD anchors
      let (node, anchors, tokens) ←
        match tokens with
        | .blockEntry :: _ =>
          if indentless then do
            let (items, anchors, rest) ← parseIndentless handles fuel anchors tokens
            pure (Node.sequence tag items, anchors, rest)
          else if props.anchor.isSome || tag.isSome then
            pure (Node.scalar tag .plain "", anchors, tokens)
          else none
        | .scalar style text :: rest =>
          pure (Node.scalar tag style text, anchors, rest)
        | .flowSequenceStart :: rest => do
          let (items, anchors, rest) ← parseFlowItems handles fuel true anchors rest
          pure (Node.sequence tag items, anchors, rest)
        | .flowMappingStart :: rest => do
          let (entries, anchors, rest) ← parseFlowEntries handles fuel true anchors rest
          pure (Node.mapping tag entries, anchors, rest)
        | .blockSequenceStart :: rest =>
          if block then do
            let (items, anchors, rest) ← parseItems handles fuel anchors rest
            pure (Node.sequence tag items, anchors, rest)
          else if props.anchor.isSome || tag.isSome then
            pure (Node.scalar tag .plain "", anchors, tokens)
          else none
        | .blockMappingStart :: rest =>
          if block then do
            let (entries, anchors, rest) ← parseEntries handles fuel anchors rest
            pure (Node.mapping tag entries, anchors, rest)
          else if props.anchor.isSome || tag.isSome then
            pure (Node.scalar tag .plain "", anchors, tokens)
          else none
        | tokens =>
          if props.anchor.isSome || tag.isSome then
            pure (Node.scalar tag .plain "", anchors, tokens)
          else none
      let anchors := if props.anchor.isSome then anchors.complete before node else anchors
      return (node, anchors, tokens)

/-- Items of a block sequence, up to its end. -/
def parseItems (handles : Handles) :
    Nat → Anchors → List Token → Option (List Node × Anchors × List Token)
  | 0, _, _ => none
  | fuel + 1, anchors, tokens =>
    match tokens with
    | .blockEnd :: rest => some ([], anchors, rest)
    | .blockEntry :: rest => do
      let (item, anchors, rest) ←
        match rest with
        | .blockEntry :: _ | .blockEnd :: _ => pure (absent, anchors, rest)
        | _ => parse handles fuel true false anchors rest
      let (items, anchors, rest) ← parseItems handles fuel anchors rest
      return (item :: items, anchors, rest)
    | _ => none

/-- Items of a sequence that stands at the column of the mapping around it. -/
def parseIndentless (handles : Handles) :
    Nat → Anchors → List Token → Option (List Node × Anchors × List Token)
  | 0, _, _ => none
  | fuel + 1, anchors, tokens =>
    match tokens with
    | .blockEntry :: rest => do
      let (item, anchors, rest) ←
        match rest with
        | .blockEntry :: _ | .key :: _ | .value :: _ | .blockEnd :: _ =>
          pure (absent, anchors, rest)
        | _ => parse handles fuel true false anchors rest
      let (items, anchors, rest) ← parseIndentless handles fuel anchors rest
      return (item :: items, anchors, rest)
    | _ => some ([], anchors, tokens)

/-- Entries of a block mapping, up to its end. -/
def parseEntries (handles : Handles) :
    Nat → Anchors → List Token → Option (List (Node × Node) × Anchors × List Token)
  | 0, _, _ => none
  | fuel + 1, anchors, tokens =>
    match tokens with
    | .blockEnd :: rest => some ([], anchors, rest)
    | .key :: rest => do
      let (key, anchors, rest) ←
        match rest with
        | .key :: _ | .value :: _ | .blockEnd :: _ => pure (absent, anchors, rest)
        | _ => parse handles fuel true true anchors rest
      let (value, anchors, rest) ←
        match rest with
        | .value :: rest =>
          match rest with
          | .key :: _ | .value :: _ | .blockEnd :: _ => pure (absent, anchors, rest)
          | _ => parse handles fuel true true anchors rest
        | _ => pure (absent, anchors, rest)
      let (entries, anchors, rest) ← parseEntries handles fuel anchors rest
      return ((key, value) :: entries, anchors, rest)
    | _ => none

/-- Items of a flow sequence. A key without a node takes the token after it along, so it ends the
sequence only by an error. -/
def parseFlowItems (handles : Handles) :
    Nat → (first : Bool) → Anchors → List Token → Option (List Node × Anchors × List Token)
  | 0, _, _, _ => none
  | fuel + 1, first, anchors, tokens => do
    let tokens ←
      if first then pure tokens
      else match tokens with
        | .flowEntry :: rest => pure rest
        | .flowSequenceEnd :: _ => pure tokens
        | _ => none
    match tokens with
    | .flowSequenceEnd :: rest => return ([], anchors, rest)
    | .key :: rest =>
      let (key, anchors, rest) ←
        match rest with
        | .value :: rest | .flowEntry :: rest | .flowSequenceEnd :: rest =>
          pure (absent, anchors, rest)
        | _ => parse handles fuel false false anchors rest
      let (value, anchors, rest) ←
        match rest with
        | .value :: rest =>
          match rest with
          | .flowEntry :: _ | .flowSequenceEnd :: _ => pure (absent, anchors, rest)
          | _ => parse handles fuel false false anchors rest
        | _ => pure (absent, anchors, rest)
      let (items, anchors, rest) ← parseFlowItems handles fuel false anchors rest
      return (.mapping none [(key, value)] :: items, anchors, rest)
    | tokens =>
      let (item, anchors, rest) ← parse handles fuel false false anchors tokens
      let (items, anchors, rest) ← parseFlowItems handles fuel false anchors rest
      return (item :: items, anchors, rest)

/-- Entries of a flow mapping. -/
def parseFlowEntries (handles : Handles) :
    Nat → (first : Bool) → Anchors → List Token → Option (List (Node × Node) × Anchors × List Token)
  | 0, _, _, _ => none
  | fuel + 1, first, anchors, tokens => do
    let tokens ←
      if first then pure tokens
      else match tokens with
        | .flowEntry :: rest => pure rest
        | .flowMappingEnd :: _ => pure tokens
        | _ => none
    match tokens with
    | .flowMappingEnd :: rest => return ([], anchors, rest)
    | .key :: rest =>
      let (key, anchors, rest) ←
        match rest with
        | .value :: _ | .flowEntry :: _ | .flowMappingEnd :: _ => pure (absent, anchors, rest)
        | _ => parse handles fuel false false anchors rest
      let (value, anchors, rest) ←
        match rest with
        | .value :: rest =>
          match rest with
          | .flowEntry :: _ | .flowMappingEnd :: _ => pure (absent, anchors, rest)
          | _ => parse handles fuel false false anchors rest
        | _ => pure (absent, anchors, rest)
      let (entries, anchors, rest) ← parseFlowEntries handles fuel false anchors rest
      return ((key, value) :: entries, anchors, rest)
    | tokens =>
      let (key, anchors, rest) ← parse handles fuel false false anchors tokens
      let (entries, anchors, rest) ← parseFlowEntries handles fuel false anchors rest
      return ((key, absent) :: entries, anchors, rest)

end

/-- Directives in front of a document: at most one version, each handle at most once. -/
def directives : List Token → (version : Bool) → Handles → Option (Handles × List Token)
  | .directive (.version major minor) :: rest, version, handles =>
    if version || major != 1 || !(minor == 1 || minor == 2) then none
    else directives rest true handles
  | .directive (.handle h a) :: rest, version, handles =>
    if handles.any fun x => x.1 == h then none else directives rest version ((h, a) :: handles)
  | rest, _, handles => some (handles ++ standardHandles, rest)

/-- Whether a document has no content before this token. -/
def endsDocument : List Token → Bool
  | [] | .directive _ :: _ | .documentStart :: _ | .documentEnd :: _ => true
  | _ => false

/-- Whether only document end markers are left. -/
def onlyEnds (tokens : List Token) : Bool :=
  tokens.all fun t => match t with
    | .documentEnd => true
    | _ => false

end Node

/-- A document: its root, and the anchored nodes that references name. -/
structure Document where
  root : Node
  anchors : Node.Anchors := {}
deriving Repr, Inhabited

namespace Document

open Node in
/-- Read the one document of a text. -/
def read? (text : String) : Option (Option Document) := do
  let tokens ← Token.scan? text
  let fuel := 4 * tokens.length + 4
  let (document, rest) ← match tokens with
    | [] => return none
    | .directive _ :: _ | .documentStart :: _ =>
      let (handles, rest) ← directives tokens false []
      match rest with
      | .documentStart :: rest =>
        if endsDocument rest then pure ({ root := absent }, rest)
        else
          let (root, anchors, rest) ← parse handles fuel true false {} rest
          pure ({ root, anchors }, rest)
      | _ => none
    | _ =>
      let (root, anchors, rest) ← parse standardHandles fuel true false {} tokens
      pure ({ root, anchors }, rest)
  if onlyEnds rest then return some document else none

/-- How often references may be followed while a document is read: a hundred times for each of its
parts. -/
def jumpLimit (d : Document) : Nat := d.root.parts * 100

end Document

end Scaffold.Yaml
