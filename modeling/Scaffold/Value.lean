import Scaffold.Decimal.Binary64

/-!
# Values

The values scripts are made of and variables hold: null, booleans, numbers, texts, lists, mappings
with their entries in order, and values carrying a tag. A tag is kept without its exclamation mark.

* `Value.truthy`: empty, zero, false and null are false.
* `Value.render`: the text of a value in command lines and messages.
* `Value.kindName`: the kind of a value in error messages.
* `Value.get?`, `asText?`, `asMapping?` look inside a value and see through tags.
-/

namespace Scaffold

/-- A dynamic value. -/
inductive Value where
  | null
  | bool (b : Bool)
  | int (n : Int)
  | float (x : Binary64)
  | text (s : String)
  | list (items : List Value)
  | mapping (entries : List (Value × Value))
  | tagged (tag : String) (value : Value)
deriving Repr, Inhabited

namespace Value

/-! ### Equality -/

mutual

/-- Equality of values, entry by entry. -/
def same : Value → Value → Bool
  | .null, .null => true
  | .bool a, .bool b => a == b
  | .int a, .int b => a == b
  | .float a, .float b => a == b
  | .text a, .text b => a == b
  | .list a, .list b => sameList a b
  | .mapping a, .mapping b => sameEntries a b
  | .tagged s a, .tagged t b => s == t && same a b
  | _, _ => false

/-- Equality of lists of values. -/
def sameList : List Value → List Value → Bool
  | [], [] => true
  | a :: as, b :: bs => same a b && sameList as bs
  | _, _ => false

/-- Equality of mapping entries, in order. -/
def sameEntries : List (Value × Value) → List (Value × Value) → Bool
  | [], [] => true
  | (k, v) :: as, (l, w) :: bs => same k l && same v w && sameEntries as bs
  | _, _ => false

end

mutual

theorem eq_of_same : ∀ {a b : Value}, same a b = true → a = b
  | .null, b, h => by cases b <;> simp_all [same]
  | .bool _, b, h => by cases b <;> simp_all [same]
  | .int _, b, h => by cases b <;> simp_all [same]
  | .float _, b, h => by cases b <;> simp_all [same]
  | .text _, b, h => by cases b <;> simp_all [same]
  | .list as, b, h => by
    cases b with
    | list bs => rw [same] at h; rw [eq_of_sameList h]
    | _ => simp [same] at h
  | .mapping as, b, h => by
    cases b with
    | mapping bs => rw [same] at h; rw [eq_of_sameEntries h]
    | _ => simp [same] at h
  | .tagged s a, b, h => by
    cases b with
    | tagged t b =>
      simp only [same, Bool.and_eq_true, beq_iff_eq] at h
      rw [h.1, eq_of_same h.2]
    | _ => simp [same] at h

theorem eq_of_sameList : ∀ {as bs : List Value}, sameList as bs = true → as = bs
  | [], bs, h => by cases bs <;> simp_all [sameList]
  | a :: as, bs, h => by
    cases bs with
    | nil => simp [sameList] at h
    | cons b bs =>
      simp only [sameList, Bool.and_eq_true] at h
      rw [eq_of_same h.1, eq_of_sameList h.2]

theorem eq_of_sameEntries : ∀ {as bs : List (Value × Value)}, sameEntries as bs = true → as = bs
  | [], bs, h => by cases bs <;> simp_all [sameEntries]
  | (k, v) :: as, bs, h => by
    cases bs with
    | nil => simp [sameEntries] at h
    | cons b bs =>
      obtain ⟨l, w⟩ := b
      simp only [sameEntries, Bool.and_eq_true] at h
      rw [eq_of_same h.1.1, eq_of_same h.1.2, eq_of_sameEntries h.2]

end

mutual

theorem same_refl : ∀ a : Value, same a a = true
  | .null => rfl
  | .bool _ => by simp [same]
  | .int _ => by simp [same]
  | .float _ => by simp [same]
  | .text _ => by simp [same]
  | .list as => by rw [same]; exact sameList_refl as
  | .mapping as => by rw [same]; exact sameEntries_refl as
  | .tagged _ a => by simp [same, same_refl a]

theorem sameList_refl : ∀ as : List Value, sameList as as = true
  | [] => rfl
  | a :: as => by simp [sameList, same_refl a, sameList_refl as]

theorem sameEntries_refl : ∀ as : List (Value × Value), sameEntries as as = true
  | [] => rfl
  | (k, v) :: as => by simp [sameEntries, same_refl k, same_refl v, sameEntries_refl as]

end

theorem same_iff {a b : Value} : same a b = true ↔ a = b :=
  ⟨eq_of_same, fun h => h ▸ same_refl a⟩

instance : DecidableEq Value := fun a b =>
  if h : same a b = true then isTrue (eq_of_same h)
  else isFalse fun e => h (same_iff.2 e)

mutual

/-- Whether two values count as one key: zeros of either sign are equal, and so are mappings with
the same entries in another order. -/
def alike : Value → Value → Bool
  | .float a, .float b => a == b || (a.isZero && b.isZero)
  | .list a, .list b => alikeList a b
  | .mapping a, .mapping b => a.length == b.length && alikeEntries a b
  | .tagged s a, .tagged t b => s == t && alike a b
  | .null, .null => true
  | .bool a, .bool b => a == b
  | .int a, .int b => a == b
  | .text a, .text b => a == b
  | _, _ => false

/-- Whether lists are alike item by item. -/
def alikeList : List Value → List Value → Bool
  | [], [] => true
  | a :: as, b :: bs => alike a b && alikeList as bs
  | _, _ => false

/-- Whether every entry has one like it among others. -/
def alikeEntries : List (Value × Value) → List (Value × Value) → Bool
  | [], _ => true
  | (k, v) :: as, bs => bs.any (fun e => alike k e.1 && alike v e.2) && alikeEntries as bs

end

/-- The name of a tag: without the exclamation mark, unless that is all there is. -/
def tagName (tag : String) : String :=
  match Text.stripPrefix? "!" tag with
  | some "" | none => tag
  | some name => name

mutual

/-- A value whose tags are all replaced by their names. -/
def renamed : Value → Value
  | .tagged t v => .tagged (tagName t) (renamed v)
  | .list items => .list (renamedList items)
  | .mapping entries => .mapping (renamedEntries entries)
  | v => v

/-- Values whose tags are all replaced by their names. -/
def renamedList : List Value → List Value
  | [] => []
  | v :: rest => renamed v :: renamedList rest

/-- Entries whose tags are all replaced by their names. -/
def renamedEntries : List (Value × Value) → List (Value × Value)
  | [] => []
  | (k, v) :: rest => (renamed k, renamed v) :: renamedEntries rest

end

/-! ### Truth, text and kind -/

/-- Whether a value counts as true: empty, zero, false and null do not. -/
def truthy : Value → Bool
  | .null => false
  | .bool b => b
  | .int n => n != 0
  | .float x => !x.isZero
  | .text s => !s.isEmpty
  | .list items => !items.isEmpty
  | .mapping entries => !entries.isEmpty
  | .tagged _ v => truthy v

mutual

/-- One-line flow notation, e.g. `[a, b]` for a list. -/
def flow : Value → String
  | .null => "null"
  | .bool b => if b then "true" else "false"
  | .int n => toString n
  | .float x => x.text
  | .text s => s
  | .list items => "[" ++ Text.join ", " (flowList items) ++ "]"
  | .mapping entries => "\x7b" ++ Text.join ", " (flowEntries entries) ++ "\x7d"
  | .tagged t v => "!" ++ t ++ " " ++ flow v

/-- Flow notation of each item. -/
def flowList : List Value → List String
  | [] => []
  | v :: vs => flow v :: flowList vs

/-- Flow notation of each entry, key and value apart by a colon. -/
def flowEntries : List (Value × Value) → List String
  | [] => []
  | (k, v) :: rest => (flow k ++ ": " ++ flow v) :: flowEntries rest

end

mutual

/-- The text of a value in command lines and messages: nothing for null, the items of a list with
a space between them, flow notation for mappings and tagged values. -/
def render : Value → String
  | .null => ""
  | .bool b => if b then "true" else "false"
  | .int n => toString n
  | .float x => x.text
  | .text s => s
  | .list items => Text.join " " (renderList items)
  | .mapping entries => flow (.mapping entries)
  | .tagged t v => flow (.tagged t v)

/-- The text of each item. -/
def renderList : List Value → List String
  | [] => []
  | v :: vs => render v :: renderList vs

end

theorem renderList_eq_map (vs : List Value) : renderList vs = vs.map render := by
  induction vs with
  | nil => rfl
  | cons v vs ih => simp [renderList, ih]

/-- The kind of a value, for error messages. -/
def kindName : Value → String
  | .null => "null"
  | .bool _ => "a boolean"
  | .int _ | .float _ => "a number"
  | .text _ => "a string"
  | .list _ => "a list"
  | .mapping _ => "a mapping"
  | .tagged _ _ => "a tagged value"

/-! ### Looking inside -/

/-- The value under all tags. -/
def untagged : Value → Value
  | .tagged _ v => untagged v
  | v => v

/-- The text of a text value, tags aside. -/
def asText? (v : Value) : Option String :=
  match v.untagged with
  | .text s => some s
  | _ => none

/-- The entries of a mapping, tags aside. -/
def asMapping? (v : Value) : Option (List (Value × Value)) :=
  match v.untagged with
  | .mapping entries => some entries
  | _ => none

/-- The value of a text key in entries. -/
def lookup? (key : String) (entries : List (Value × Value)) : Option Value :=
  (entries.find? fun e => decide (e.1 = .text key)).map Prod.snd

/-- The value of a text key of a mapping, tags aside. -/
def get? (v : Value) (key : String) : Option Value :=
  v.asMapping?.bind (lookup? key)

/-- Set a key of entries: in place when it is there, at the end otherwise. -/
def insertEntry (key value : Value) : List (Value × Value) → List (Value × Value)
  | [] => [(key, value)]
  | (k, v) :: rest => if k = key then (k, value) :: rest else (k, v) :: insertEntry key value rest

mutual

/-- A measure of nesting: larger than the measure of every part. -/
def size : Value → Nat
  | .list items => sizeList items + 1
  | .mapping entries => sizeEntries entries + 1
  | .tagged _ v => size v + 1
  | _ => 1

/-- The measures of the items together. -/
def sizeList : List Value → Nat
  | [] => 0
  | v :: vs => size v + sizeList vs

/-- The measures of the keys and values together. -/
def sizeEntries : List (Value × Value) → Nat
  | [] => 0
  | (k, v) :: rest => size k + size v + sizeEntries rest

end

theorem size_pos (v : Value) : 0 < v.size := by
  cases v <;> simp [size]

end Value

end Scaffold
