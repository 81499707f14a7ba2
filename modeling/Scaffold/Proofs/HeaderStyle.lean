import Scaffold.Proofs.Header

/-!
# Loop headers are read back

The same loop header can be written in many ways: with any blanks between its parts and at its ends,
and with its names bare or in braces. `LoopHeader.write` writes a header in a given way, and every
way is read back as the header that was written, whatever its expression looks like.

* `LoopHeader.Style`: a way to write headers.
* `LoopHeader.write`: a header as it is written in a style.

Results:
* `spelled_body`: what is written spells the header.
* `Layout.tight`, `trim_padded`: the blanks at the ends are what is trimmed.
* **`header_read_back`**: every header is read back in every style.
-/

namespace Scaffold

open Chars

namespace LoopHeader

/-! ## Writing a header -/

instance (b : List Char) : Decidable (Blanks b) :=
  decidable_of_iff (b.all isBlank = true) List.all_eq_true

instance (b : List Char) : Decidable (Gap b) :=
  decidable_of_iff (b ≠ [] ∧ Blanks b) ⟨fun h => ⟨h.1, h.2⟩, fun h => ⟨h.nonempty, h.blanks⟩⟩

/-- A way to write headers: the blanks between the parts, and which names are in braces. The blanks
around the comma and the second name are for headers that have two names. -/
structure Style where
  lead : {b : List Char // Blanks b}
  afterFor : {b : List Char // Gap b}
  firstBraced : Bool
  beforeComma : {b : List Char // Blanks b}
  afterComma : {b : List Char // Blanks b}
  secondBraced : Bool
  beforeIn : {b : List Char // Gap b}
  afterIn : {b : List Char // Gap b}
  trail : {b : List Char // Blanks b}

/-- A control variable as it is written. -/
def reference (braced : Bool) (name : String) : List Char :=
  if braced then '$' :: '{' :: (name.toList ++ ['}']) else '$' :: name.toList

namespace Style

/-- The control variables as they are written. -/
def controls (y : Style) (first : String) : Option String → List Char
  | none => reference y.firstBraced first
  | some second =>
    reference y.firstBraced first ++
      (y.beforeComma.val ++ ',' :: (y.afterComma.val ++ reference y.secondBraced second))

/-- A header as it is written, without the blanks at its ends. -/
def body (y : Style) (l : LoopHeader) : List Char :=
  "for".toList ++ (y.afterFor.val ++ (y.controls l.first l.second ++
    (y.beforeIn.val ++ ("in".toList ++ (y.afterIn.val ++ l.expression.toList)))))

end Style

/-- A header as it is written. -/
def write (y : Style) (l : LoopHeader) : String :=
  String.ofList (y.lead.val ++ (y.body l ++ y.trail.val))

/-! ## What is written -/

theorem refers_reference {name : String} (h : Name name.toList) (braced : Bool) :
    Refers Name (reference braced name) name.toList := by
  cases braced with
  | false => exact .bare h
  | true => exact .braced h

/-- What is written spells the header. -/
theorem spelled_body (y : Style) {l : LoopHeader} (hnames : ∀ x ∈ l.names, Name x.toList)
    (hsubject : Subject l.expression.toList) : l.Spelled (Refers Name) (y.body l) := by
  refine .intro y.afterFor.property ?_ y.beforeIn.property y.afterIn.property hsubject
  obtain ⟨first, second, expression⟩ := l
  cases second with
  | none => exact .one (refers_reference (hnames first (by simp [names])) y.firstBraced)
  | some second =>
    exact .two (refers_reference (hnames first (by simp [names])) y.firstBraced)
      y.beforeComma.property y.afterComma.property
      (refers_reference (hnames second (by simp [names])) y.secondBraced)

/-! ## The blanks at the ends -/

/-- A header has no blanks at its ends. -/
theorem Layout.tight {R : List Char → List Char → Prop} {first subject cs : List Char}
    {second : Option (List Char)} (h : Layout R first second subject cs) : Tight cs := by
  obtain ⟨-, -, -, -, hsubject⟩ := h
  refine ⟨flush_cons (show isBlank 'f' = false by decide) _, ?_⟩
  simp only [← List.append_assoc]
  rw [List.reverse_append]
  exact hsubject.tight.last.append (by simpa using hsubject.nonempty) _

/-- Blanks at the ends of a text are trimmed. -/
theorem trim_padded {b b' cs : List Char} (hb : Blanks b) (hb' : Blanks b') (h : Tight cs)
    (hne : cs ≠ []) : trim (b ++ (cs ++ b')) = cs := by
  have hstart : trimStart (b ++ (cs ++ b')) = cs ++ b' := by
    rw [trimStart_append hb]
    exact trimStart_of_flush (h.first.append hne b')
  have hreverse : Blanks b'.reverse := fun c hc => hb' c (List.mem_reverse.mp hc)
  rw [trim, hstart, trimEnd_eq, List.reverse_append, trimStart_append hreverse,
    trimStart_of_flush h.last, List.reverse_reverse]

end LoopHeader

open LoopHeader

/-- **A loop header is read back** from every way to write it: with its names bare or in braces, any
blanks between its parts and any at its ends. Its names are words, and its expression is a text on
one line without blanks at its ends; what is in the expression does not matter. -/
theorem header_read_back (y : LoopHeader.Style) {l : LoopHeader}
    (hnames : ∀ x ∈ l.names, Name x.toList) (hsubject : Subject l.expression.toList) :
    LoopHeader.read (l.write y) = .ok l := by
  have hspelled := spelled_body y hnames hsubject
  have htrim : trim (l.write y).toList = y.body l := by
    rw [LoopHeader.write, String.toList_ofList]
    exact trim_padded y.lead.property y.trail.property hspelled.tight (List.cons_ne_nil _ _)
  refine read_eq_ok_iff.mpr ?_
  rw [htrim]
  exact hspelled.imp fun _ _ _ href => .reference href

/-- Line breaks between the parts, and the first name in braces. -/
def LoopHeader.Style.loose : LoopHeader.Style where
  lead := ⟨['\t'], by decide⟩
  afterFor := ⟨['\n'], by decide⟩
  firstBraced := true
  beforeComma := ⟨[' '], by decide⟩
  afterComma := ⟨[], by decide⟩
  secondBraced := false
  beforeIn := ⟨['\n', '\n'], by decide⟩
  afterIn := ⟨[' ', ' '], by decide⟩
  trail := ⟨[' '], by decide⟩

/-- A header in this style, whose expression looks like the end of another header. -/
theorem header_read_back_loose :
    LoopHeader.write .loose ⟨"k", some "v", "$a, $b in $c"⟩ =
      "\tfor\n$\x7bk\x7d ,$v\n\nin  $a, $b in $c " ∧
    LoopHeader.read "\tfor\n$\x7bk\x7d ,$v\n\nin  $a, $b in $c " =
      .ok ⟨"k", some "v", "$a, $b in $c"⟩ := by
  have hwritten : LoopHeader.write .loose ⟨"k", some "v", "$a, $b in $c"⟩ =
      "\tfor\n$\x7bk\x7d ,$v\n\nin  $a, $b in $c " := by decide
  have hnames : ∀ x ∈ ["k", "v"], Name x.toList := fun x hx => by
    rcases List.mem_pair.mp hx with rfl | rfl
    · exact name_of_all (by decide) (by decide)
    · exact name_of_all (by decide) (by decide)
  have hsubject : Subject "$a, $b in $c".toList :=
    ⟨by decide, ⟨flush_cons (by decide) _, flush_cons (by decide) _⟩, by decide⟩
  exact ⟨hwritten, hwritten ▸ header_read_back .loose hnames hsubject⟩

end Scaffold
