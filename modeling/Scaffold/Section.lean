import Scaffold.Error
import Scaffold.Expr
import Scaffold.Value

/-!
# Sections

A section is a list of entries, each a tag with an argument. `Construct.ofTag` says what an entry
is by its tag alone: control constructs are recognised by how the tag starts, everything else is a
command. The bodies of control constructs are sections written as arguments.

* `Section.ofValue` reads a section from a value; `Section.toValue` is the value of a section.
* **`size_body_lt`**: the body of an entry is smaller than the entry.
-/

namespace Scaffold

/-- A tag and its argument. -/
structure Entry where
  tag : String
  argument : Value
deriving DecidableEq, Repr, Inhabited

/-- Entries in order. -/
abbrev Section := List Entry

/-- What an entry does, by its tag. -/
inductive Construct where
  | assign
  | cond
  | otherwise
  | loop
  | scope
  | command
deriving DecidableEq, Repr, Inhabited

/-- The construct a tag introduces. -/
def Construct.ofTag (tag : String) : Construct :=
  if Text.startsWith "$" tag then .assign
  else if Text.startsWith "if" tag then .cond
  else if tag = "else" then .otherwise
  else if Text.startsWith "for" tag then .loop
  else if Text.startsWith "scl" tag then .scope
  else .command

/-! ### Sections as values -/

/-- The entry an item of a section value stands for. -/
def Entry.ofItem (item : Value) : Except SyntaxError Entry :=
  match item.asMapping? with
  | none => .error (.invalidSection ("expected a single-key mapping, got " ++ item.kindName))
  | some [(key, argument)] =>
    match key.asText? with
    | some tag => .ok { tag, argument }
    | none => .error (.invalidSection ("command type must be a string, got " ++ key.kindName))
  | some entries =>
    .error (.invalidSection
      ("command entry must have exactly one key, got " ++ toString entries.length))

/-- The entries of the items, up to the first bad one. -/
def Section.ofItems : List Value → Except SyntaxError Section
  | [] => .ok []
  | item :: rest => do
    let entry ← Entry.ofItem item
    let entries ← Section.ofItems rest
    return entry :: entries

/-- Read a section: null is the empty section, a list has one single-key mapping per entry. -/
def Section.ofValue : Value → Except SyntaxError Section
  | .null => .ok []
  | .list items => Section.ofItems items
  | other => .error (.invalidSection ("expected a list of commands, got " ++ other.kindName))

/-- The value a section is read from. -/
def Section.toValue (s : Section) : Value :=
  .list (s.map fun e => .mapping [(.text e.tag, e.argument)])

/-- Put a place in front of the reason of an error. -/
def SyntaxError.inside (place : String) (e : SyntaxError) : SyntaxError :=
  .invalidSection (place ++ ": " ++ e.message)

/-- The argument of an entry as a section. -/
def Entry.body (e : Entry) : Except SyntaxError Section :=
  (Section.ofValue e.argument).mapError (SyntaxError.inside ("body of '" ++ e.tag ++ "'"))

/-! ### Sizes -/

/-- The nesting measure of an entry. -/
def Entry.size (e : Entry) : Nat := e.argument.size + 1

/-- The nesting measures of the entries together. -/
def Section.size : Section → Nat
  | [] => 0
  | e :: rest => e.size + Section.size rest

theorem Value.size_untagged_le (v : Value) : v.untagged.size ≤ v.size := by
  fun_induction Value.untagged v with
  | case1 t v ih => simp only [Value.size]; omega
  | case2 v _ => exact Nat.le_refl _

theorem Entry.size_ofItem_le {item : Value} {e : Entry} (h : Entry.ofItem item = .ok e) :
    e.size ≤ item.size := by
  unfold Entry.ofItem at h
  split at h
  · cases h
  · rename_i key argument hm
    split at h
    · cases h
      have hsize := Value.size_untagged_le item
      unfold Value.asMapping? at hm
      split at hm
      · rename_i entries hu
        cases hm
        have := key.size_pos
        rw [hu] at hsize
        simp only [Value.size, Value.sizeEntries] at hsize
        simp only [Entry.size]
        omega
      · cases hm
    · cases h
  · cases h

theorem Section.size_ofItems_le {items : List Value} {s : Section}
    (h : Section.ofItems items = .ok s) : Section.size s ≤ Value.sizeList items := by
  induction items generalizing s with
  | nil => cases h; simp [Section.size]
  | cons item rest ih =>
    unfold Section.ofItems at h
    cases he : Entry.ofItem item with
    | error x => simp [he, bind, Except.bind] at h
    | ok e =>
      cases hr : Section.ofItems rest with
      | error x => simp [he, hr, bind, Except.bind] at h
      | ok es =>
        simp only [he, hr, bind, Except.bind, pure, Except.pure, Except.ok.injEq] at h
        subst h
        have h1 := Entry.size_ofItem_le he
        have h2 := ih hr
        simp only [Section.size, Value.sizeList] at *
        omega

theorem Section.size_ofValue_lt {v : Value} {s : Section} (h : Section.ofValue v = .ok s) :
    Section.size s < v.size := by
  unfold Section.ofValue at h
  split at h
  · cases h; simp [Section.size, Value.size]
  · have := Section.size_ofItems_le h
    simp only [Value.size]
    omega
  · cases h

/-- The body of an entry is smaller than the entry. -/
theorem Entry.size_body_lt {e : Entry} {s : Section} (h : e.body = .ok s) :
    Section.size s < e.size := by
  unfold Entry.body at h
  cases hv : Section.ofValue e.argument with
  | error x =>
    rw [hv] at h
    nomatch h
  | ok s' =>
    rw [hv] at h
    injection h with h
    subst h
    have := Section.size_ofValue_lt hv
    simp only [Entry.size]
    omega

/-! ### Validation -/

theorem Section.size_cons (e : Entry) (s : Section) :
    Section.size (e :: s) = e.size + Section.size s := rfl

/-- The place of a fault in a named section. -/
def SyntaxError.inSection (name : String) (e : SyntaxError) : ConfigError :=
  .invalid ("section '" ++ name ++ "': " ++ e.message)

/-- Whether the argument of an entry is a section of its own. -/
def Construct.hasBody : Construct → Bool
  | .cond | .otherwise | .loop | .scope => true
  | .assign | .command => false

/-- Check that the arguments of all control constructs are sections and that all loop headers read,
at every depth. -/
def Section.validate (name : String) : Section → Except ConfigError Unit
  | [] => .ok ()
  | e :: rest => do
    if Construct.ofTag e.tag = .loop then
      let _ ← (LoopHeader.read e.tag).mapError (SyntaxError.inSection name)
    if (Construct.ofTag e.tag).hasBody then
      match _h : Section.ofValue e.argument with
      | .error x => throw (x.inSection name)
      | .ok body => Section.validate name body
    Section.validate name rest
termination_by s => Section.size s
decreasing_by
  all_goals simp only [Section.size_cons, Entry.size]
  · omega
  · have := Section.size_ofValue_lt _h
    omega

/-- Check a value that is to be the named section. -/
def validateSection (name : String) (v : Value) : Except ConfigError Unit := do
  let entries ← (Section.ofValue v).mapError (SyntaxError.inSection name)
  Section.validate name entries

end Scaffold
