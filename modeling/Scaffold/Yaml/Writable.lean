import Scaffold.Value

/-!
# Which values have a document text

A value is handed to the writer of a document part by part. A tag and a mapping with one entry are
handed over the same way: the part is held back until the key shows which of the two it is. So there
are values that cannot be written:

* a tag directly under a tag, which has no notation;
* a mapping with one entry whose key is itself held back. The start of the outer mapping is then
  never handed over, and its end comes where the writer expects something else.

`fault?` is the first thing that goes wrong, nothing for a value that can be written.
-/

namespace Scaffold.Yaml

/-- Why a value cannot be written. -/
inductive WriteFault where
  | nestedTag
  | strayEnd
  | endAfterDocument
deriving DecidableEq, Repr, Inhabited

/-- The text of a fault. -/
def WriteFault.message : WriteFault → String
  | .nestedTag => "serializing nested enums in YAML is not supported yet"
  | .strayEnd => "expected SCALAR, SEQUENCE-START, MAPPING-START, or ALIAS"
  | .endAfterDocument => "expected DOCUMENT-START or STREAM-END"

namespace Writable

/-- A part that is handed over. -/
inductive Part where
  | scalar
  | sequenceStart
  | sequenceEnd
  | mappingStart
  | mappingEnd
deriving DecidableEq, Repr, Inhabited

/-- What is held back: nothing, the start of a mapping, or a tag. -/
inductive Held where
  | nothing
  | start
  | tag
deriving DecidableEq, Repr, Inhabited

/-- The part that is handed over before a part that is not held back. -/
def Held.parts : Held → List Part
  | .start => [.mappingStart]
  | _ => []

/-- What is handed over, and whether a tag under a tag ended it. -/
structure Trace where
  parts : List Part := []
  nested : Bool := false
deriving Repr, Inhabited

/-- One trace after another. -/
def Trace.append (a b : Trace) : Trace :=
  if a.nested then a else { b with parts := a.parts ++ b.parts }

instance : Append Trace := ⟨Trace.append⟩

mutual

/-- The parts of a value while `held` is held back. -/
def trace (held : Held) : Value → Trace
  | .list items => { parts := held.parts ++ [.sequenceStart] } ++ traceItems items
      ++ { parts := [.sequenceEnd] }
  | .tagged _ v =>
    if held = .tag then { parts := [.mappingStart], nested := true } else trace .tag v
  | .mapping [(k, v)] =>
    if held = .tag then
      { parts := [.mappingStart] } ++ trace .nothing k ++ trace .nothing v
        ++ { parts := [.mappingEnd] }
    else trace .start k ++ trace .nothing v ++ { parts := [.mappingEnd] }
  | .mapping entries => { parts := held.parts ++ [.mappingStart] } ++ traceEntries entries
      ++ { parts := [.mappingEnd] }
  | _ => { parts := held.parts ++ [.scalar] }

/-- The parts of items. -/
def traceItems : List Value → Trace
  | [] => {}
  | v :: rest => trace .nothing v ++ traceItems rest

/-- The parts of keys and values. -/
def traceEntries : List (Value × Value) → Trace
  | [] => {}
  | (k, v) :: rest => trace .nothing k ++ trace .nothing v ++ traceEntries rest

end

/-- An open collection: a sequence, or a mapping that waits for a key or for a value. -/
inductive Frame where
  | sequence
  | mapping (value : Bool)
deriving DecidableEq, Repr, Inhabited

/-- A node was written in a collection. -/
def Frame.advance : Frame → Frame
  | .sequence => .sequence
  | .mapping value => .mapping (!value)

/-- A node was written in the innermost open collection. -/
def advance : List Frame → List Frame
  | [] => []
  | f :: rest => f.advance :: rest

/-- The first end that comes where none is expected, the innermost open collection first. -/
def stray? : List Frame → List Part → Option WriteFault
  | _, [] => none
  | open', .scalar :: rest => stray? (advance open') rest
  | open', .sequenceStart :: rest => stray? (.sequence :: advance open') rest
  | open', .mappingStart :: rest => stray? (.mapping false :: advance open') rest
  | .sequence :: outer, .sequenceEnd :: rest => stray? outer rest
  | .mapping false :: outer, .mappingEnd :: rest => stray? outer rest
  | [], _ :: _ => some .endAfterDocument
  | _ :: _, _ :: _ => some .strayEnd

/-- The first thing that goes wrong when a value is written. -/
def fault? (v : Value) : Option WriteFault :=
  let t := trace .nothing v
  match stray? [] t.parts with
  | some f => some f
  | none => if t.nested then some .nestedTag else none

end Writable

end Scaffold.Yaml
