/-!
# Text

Blank characters and the operations on text that the rest of the library is written with. They are
defined on lists of characters, where recursion follows the data, and lifted to `String`.

* `isBlank` is the White_Space property.
* `trim`, `trimStart`, `trimEnd` drop blanks at the ends; `words` are the maximal runs between
  blanks.
* `stripPrefix?`, `stripSuffix?` take a fixed text off an end.
-/

namespace Scaffold

/-- Characters with the White_Space property. -/
def isBlank (c : Char) : Bool :=
  let n := c.toNat
  (0x09 ≤ n && n ≤ 0x0D) || n == 0x20 || n == 0x85 || n == 0xA0 || n == 0x1680 ||
    (0x2000 ≤ n && n ≤ 0x200A) || n == 0x2028 || n == 0x2029 || n == 0x202F || n == 0x205F ||
    n == 0x3000

namespace Chars

/-! ### Lists of characters -/

/-- Drop the blanks at the start. -/
def trimStart (cs : List Char) : List Char :=
  cs.dropWhile isBlank

/-- Drop the blanks at the end. -/
def trimEnd (cs : List Char) : List Char :=
  (cs.reverse.dropWhile isBlank).reverse

/-- Drop the blanks at both ends. -/
def trim (cs : List Char) : List Char :=
  trimEnd (trimStart cs)

/-- Cut at every character in `p`; the cut characters are dropped, empty parts are kept. -/
def split (p : Char → Bool) : List Char → List (List Char)
  | [] => [[]]
  | c :: cs =>
    if p c then [] :: split p cs
    else match split p cs with
      | [] => [[c]]
      | w :: ws => (c :: w) :: ws

/-- The maximal runs of characters that are not blank. -/
def words (cs : List Char) : List (List Char) :=
  (split isBlank cs).filter fun w => !w.isEmpty

/-- What follows `p` at the start of a text. -/
def stripPrefix? : List Char → List Char → Option (List Char)
  | [], cs => some cs
  | _ :: _, [] => none
  | p :: ps, c :: cs => if p = c then stripPrefix? ps cs else none

/-- What precedes `p` at the end of a text. -/
def stripSuffix? (p cs : List Char) : Option (List Char) :=
  (stripPrefix? p.reverse cs.reverse).map List.reverse

/-- The parts before and after the first character equal to `sep`. -/
def splitFirst? (sep : Char) : List Char → Option (List Char × List Char)
  | [] => none
  | c :: cs =>
    if c = sep then some ([], cs)
    else (splitFirst? sep cs).map fun (a, b) => (c :: a, b)

/-- The parts before and after the last character equal to `sep`. -/
def splitLast? (sep : Char) (cs : List Char) : Option (List Char × List Char) :=
  (splitFirst? sep cs.reverse).map fun (b, a) => (a.reverse, b.reverse)

theorem split_ne_nil (p : Char → Bool) (cs : List Char) : split p cs ≠ [] := by
  cases cs with
  | nil => simp [split]
  | cons c cs =>
    unfold split
    split
    · simp
    · split <;> simp

@[simp] theorem stripPrefix?_append (p cs : List Char) : stripPrefix? p (p ++ cs) = some cs := by
  induction p with
  | nil => rfl
  | cons c p ih => simp [stripPrefix?, ih]

theorem eq_append_of_stripPrefix? {p cs rest : List Char} (h : stripPrefix? p cs = some rest) :
    cs = p ++ rest := by
  induction p generalizing cs with
  | nil => simpa [stripPrefix?] using h
  | cons c p ih =>
    cases cs with
    | nil => simp [stripPrefix?] at h
    | cons d cs =>
      by_cases hcd : c = d
      · subst hcd
        simp only [stripPrefix?, ite_true] at h
        simp [ih h]
      · simp [stripPrefix?, hcd] at h

theorem stripPrefix?_eq_some_iff {p cs rest : List Char} :
    stripPrefix? p cs = some rest ↔ cs = p ++ rest :=
  ⟨eq_append_of_stripPrefix?, fun h => h ▸ stripPrefix?_append p rest⟩

theorem stripSuffix?_eq_some_iff {p cs rest : List Char} :
    stripSuffix? p cs = some rest ↔ cs = rest ++ p := by
  unfold stripSuffix?
  rw [Option.map_eq_some_iff]
  constructor
  · rintro ⟨r, hr, rfl⟩
    have := eq_append_of_stripPrefix? hr
    have := congrArg List.reverse this
    simpa using this
  · rintro rfl
    exact ⟨rest.reverse, by simp, by simp⟩

theorem split_of_forall_not {p : Char → Bool} {cs : List Char} (h : ∀ c ∈ cs, p c = false) :
    split p cs = [cs] := by
  induction cs with
  | nil => rfl
  | cons c cs ih =>
    obtain ⟨hc, hcs⟩ := List.forall_mem_cons.mp h
    rw [split, hc, ih hcs]
    rfl

/-- What is behind a cut is cut by itself. -/
theorem split_append {p : Char → Bool} {c : Char} (hc : p c = true) (cs ds : List Char) :
    split p (cs ++ c :: ds) = split p cs ++ split p ds := by
  induction cs with
  | nil =>
    rw [List.nil_append, split.eq_2, if_pos hc]
    rfl
  | cons d cs ih =>
    rw [List.cons_append, split, split, ih]
    split
    · rfl
    · rcases h : split p cs with _ | ⟨w, ws⟩
      · exact absurd h (split_ne_nil p cs)
      · rfl

/-- The last cut is in front of an end without one. -/
theorem splitLast?_append {sep : Char} {cs ds : List Char} (h : sep ∉ ds) :
    splitLast? sep (cs ++ sep :: ds) = some (cs, ds) := by
  have hfirst : ∀ es : List Char, sep ∉ es →
      splitFirst? sep (es ++ sep :: cs.reverse) = some (es, cs.reverse) := by
    intro es hes
    induction es with
    | nil => simp [splitFirst?]
    | cons e es ih =>
      have he : e ≠ sep := fun heq => hes (heq ▸ List.mem_cons_self)
      rw [List.cons_append, splitFirst?, if_neg he, ih fun h => hes (List.mem_cons_of_mem e h)]
      rfl
  have hreverse : (cs ++ sep :: ds).reverse = ds.reverse ++ sep :: cs.reverse := by simp
  rw [splitLast?, hreverse, hfirst ds.reverse (by simpa using h)]
  simp

end Chars

namespace Text

/-! ### Strings -/

/-- Drop the blanks at the start. -/
def trimStart (s : String) : String := String.ofList (Chars.trimStart s.toList)

/-- Drop the blanks at the end. -/
def trimEnd (s : String) : String := String.ofList (Chars.trimEnd s.toList)

/-- Drop the blanks at both ends. -/
def trim (s : String) : String := String.ofList (Chars.trim s.toList)

/-- The maximal runs of characters that are not blank. -/
def words (s : String) : List String := (Chars.words s.toList).map String.ofList

/-- Cut at every `sep`; empty parts are kept. -/
def split (sep : Char) (s : String) : List String :=
  (Chars.split (· == sep) s.toList).map String.ofList

/-- What follows `p` at the start of `s`. -/
def stripPrefix? (p s : String) : Option String :=
  (Chars.stripPrefix? p.toList s.toList).map String.ofList

/-- What precedes `p` at the end of `s`. -/
def stripSuffix? (p s : String) : Option String :=
  (Chars.stripSuffix? p.toList s.toList).map String.ofList

/-- Whether `s` starts with `p`. -/
def startsWith (p s : String) : Bool := (stripPrefix? p s).isSome

theorem startsWith_iff {p s : String} : startsWith p s = true ↔ p.toList <+: s.toList := by
  rw [startsWith, stripPrefix?, Option.isSome_map, Option.isSome_iff_exists]
  constructor
  · rintro ⟨rest, h⟩
    exact ⟨rest, (Chars.eq_append_of_stripPrefix? h).symm⟩
  · rintro ⟨rest, h⟩
    exact ⟨rest, h ▸ Chars.stripPrefix?_append p.toList rest⟩

/-- Whether `s` ends with `p`. -/
def endsWith (p s : String) : Bool := (stripSuffix? p s).isSome

theorem exists_of_endsWith {p s : String} (h : endsWith p s = true) : ∃ rest, s = rest ++ p := by
  rw [endsWith, stripSuffix?, Option.isSome_map, Option.isSome_iff_exists] at h
  obtain ⟨cs, hcs⟩ := h
  refine ⟨String.ofList cs, String.toList_inj.mp ?_⟩
  rw [String.toList_append, String.toList_ofList]
  exact Chars.stripSuffix?_eq_some_iff.mp hcs

/-- Whether `c` occurs in `s`. -/
def contains (c : Char) (s : String) : Bool := s.toList.contains c

/-- The parts before and after the first `sep`. -/
def splitFirst? (sep : Char) (s : String) : Option (String × String) :=
  (Chars.splitFirst? sep s.toList).map fun (a, b) => (String.ofList a, String.ofList b)

/-- Parts with `sep` between them. -/
def join (sep : String) (parts : List String) : String :=
  String.ofList ((sep.toList).intercalate (parts.map String.toList))

theorem join_eq_intercalate (sep : String) (parts : List String) :
    join sep parts = sep.intercalate parts := by
  rw [join, ← String.toList_intercalate, String.ofList_toList]

/-- A text written `n` times. -/
def repeated (n : Nat) (s : String) : String :=
  join "" (List.replicate n s)

end Text

end Scaffold
