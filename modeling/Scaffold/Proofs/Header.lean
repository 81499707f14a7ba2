import Scaffold.Proofs.Expression
import Scaffold.Proofs.Pieces

/-!
# What counts as a loop header

A loop header is `for`, one or two control variables with a comma between them, `in`, and an
expression, with blanks in between. `LoopHeader.Spelled` is this layout, said without the reader and
for any rule of how a control variable is written. The reader keeps to the layout, but its rule for
control variables allows a brace on one side of the name alone, and then takes the brace for a part
of the name.

* `LoopHeader.Control`: control variables as the reader takes them, and the names it reads.
* `LoopHeader.Layout`, `LoopHeader.Spelled`: the texts of a header.
* `Readable`: a name that expressions and templates find again.

Results:
* `blanks?_eq_some_iff`, `control?_sound`, `controls_sound`, `controls_complete`,
  `parts?_eq_some_iff`: what each step of the reader takes.
* **`read_eq_ok_iff`**: a text is read as a header exactly if it spells it.
* `readable_of_name`: a word is found again, bare and in braces.
* **`header_spelled_of_read`**: the layout of what is read; without lone braces, its control
  variables are references, and their names are found again.
* **`not_header_spelled_of_read_lone`**: a lone brace is read as a part of the name.
-/

namespace Scaffold

open Chars

namespace LoopHeader

/-! ## The layout -/

/-- A control variable as the reader takes it, and the name that it reads. -/
inductive Control : List Char → List Char → Prop
  | reference {ref name : List Char} (h : Refers Name ref name) : Control ref name
  | opened {word : List Char} (h : Name word) : Control ('$' :: '{' :: word) ('{' :: word)
  | closed {word : List Char} (h : Name word) : Control ('$' :: (word ++ ['}'])) (word ++ ['}'])

/-- One or more blanks. -/
structure Gap (cs : List Char) : Prop where
  nonempty : cs ≠ []
  blanks : Blanks cs

/-- The expression of a header: a text on one line without blanks at its ends. -/
structure Subject (cs : List Char) : Prop where
  nonempty : cs ≠ []
  tight : Tight cs
  line : '\n' ∉ cs

/-- The control variables of a header: one, or two with a comma between them. How one is written,
and for what, is up to `R`. -/
inductive Controls (R : List Char → List Char → Prop) :
    List Char → List Char → Option (List Char) → Prop
  | one {ref name : List Char} (h : R ref name) : Controls R ref name none
  | two {ref name b b' ref' name' : List Char} (h : R ref name) (hb : Blanks b) (hb' : Blanks b')
    (h' : R ref' name') : Controls R (ref ++ (b ++ ',' :: (b' ++ ref'))) name (some name')

/-- The texts with given control variables and a given expression. -/
inductive Layout (R : List Char → List Char → Prop) (first : List Char)
    (second : Option (List Char)) (subject : List Char) : List Char → Prop
  | intro {b controls b' b'' : List Char} (hb : Gap b)
    (hcontrols : Controls R controls first second) (hb' : Gap b') (hb'' : Gap b'')
    (hsubject : Subject subject) :
    Layout R first second subject
      ("for".toList ++ (b ++ (controls ++ (b' ++ ("in".toList ++ (b'' ++ subject))))))

/-- The texts of a header, without blanks around them. -/
def Spelled (R : List Char → List Char → Prop) (h : LoopHeader) (cs : List Char) : Prop :=
  Layout R h.first.toList (h.second.map String.toList) h.expression.toList cs

theorem Layout.subject {R : List Char → List Char → Prop} {first subject cs : List Char}
    {second : Option (List Char)} (h : Layout R first second subject cs) : Subject subject := by
  cases h
  assumption

/-- One rule for control variables for another, if it is as good for the names at hand. -/
theorem Layout.imp {R M : List Char → List Char → Prop} {first subject cs : List Char}
    {second : Option (List Char)} (h : Layout R first second subject cs)
    (himp : ∀ name ∈ first :: second.toList, ∀ ref, R ref name → M ref name) :
    Layout M first second subject cs := by
  obtain ⟨hb, hcontrols, hb', hb'', hsubject⟩ := h
  refine .intro hb ?_ hb' hb'' hsubject
  cases hcontrols with
  | one h => exact .one (himp _ List.mem_cons_self _ h)
  | two h hb₁ hb₂ h' =>
    exact .two (himp _ List.mem_cons_self _ h) hb₁ hb₂ (himp _ (by simp) _ h')

/-- Each name is written somewhere. -/
theorem Layout.exists_ref {R : List Char → List Char → Prop} {first subject cs : List Char}
    {second : Option (List Char)} (h : Layout R first second subject cs) :
    ∀ name ∈ first :: second.toList, ∃ ref, R ref name := by
  obtain ⟨-, hcontrols, -, -, -⟩ := h
  intro name hname
  cases hcontrols with
  | one h =>
    rw [List.mem_singleton.mp hname]
    exact ⟨_, h⟩
  | two h _ _ h' =>
    rcases List.mem_pair.mp hname with rfl | rfl
    · exact ⟨_, h⟩
    · exact ⟨_, h'⟩

/-! ## Control variables -/

section

variable {cs ref name opening word closing rest : List Char}

/-- A control variable by its parts. -/
theorem control_of_parts (hopening : opening ∈ [[], ['{']]) (hword : Name word)
    (hclosing : closing ∈ [[], ['}']]) :
    ∃ name, Control ('$' :: (opening ++ (word ++ closing))) name := by
  rcases List.mem_pair.mp hopening with rfl | rfl <;>
    rcases List.mem_pair.mp hclosing with rfl | rfl
  · exact ⟨word, by simpa using .reference (.bare hword)⟩
  · exact ⟨word ++ ['}'], .closed hword⟩
  · exact ⟨'{' :: word, by simpa using .opened hword⟩
  · exact ⟨word, .reference (.braced hword)⟩

theorem Control.exists_parts (h : Control ref name) :
    ∃ opening word closing, opening ∈ [[], ['{']] ∧ Name word ∧ closing ∈ [[], ['}']] ∧
      ref = '$' :: (opening ++ (word ++ closing)) := by
  cases h with
  | reference h =>
    cases h with
    | bare h => exact ⟨[], _, [], by decide, h, by decide, by simp⟩
    | braced h => exact ⟨['{'], _, ['}'], by decide, h, by decide, rfl⟩
  | opened h => exact ⟨['{'], _, [], by decide, h, by decide, by simp⟩
  | closed h => exact ⟨[], _, ['}'], by decide, h, by decide, rfl⟩

theorem Control.exists_cons (h : Control ref name) : ∃ rest, ref = '$' :: rest := by
  obtain ⟨_, _, _, _, _, _, href⟩ := h.exists_parts
  exact ⟨_, href⟩

theorem Control.tight (h : Control ref name) : Tight ref := by
  cases h with
  | reference h => exact tight_of_refers h
  | opened h => exact ⟨flush_cons (by decide) _, h.flush_reverse ['$', '{']⟩
  | closed _ => exact ⟨flush_cons (by decide) _, by simpa using flush_cons (by decide) _⟩

/-- What is read from a control variable. -/
theorem Control.variableName_eq (h : Control ref name) :
    variableName (String.ofList ref) = .ok (String.ofList name) := by
  have htight := h.tight
  have hread : ∀ {rest : List Char}, Tight ('$' :: rest) → rest ≠ [] → unbraced rest = rest →
      variableName (String.ofList ('$' :: rest)) = .ok (String.ofList rest) := by
    intro rest hrest hne hbraces
    have hname := Scaffold.variableName_eq (b := []) (q := []) nofun (by decide) hrest
      (by rwa [hbraces])
    rwa [hbraces, List.nil_append, List.nil_append, List.append_nil] at hname
  cases h with
  | reference h =>
    have hname := variableName_of_refers (b := []) (q := []) nofun (by decide) h
    rwa [List.nil_append, List.nil_append, List.append_nil] at hname
  | @opened word h =>
    refine hread htight (List.cons_ne_nil _ _) (unbraced_of_not_braced fun inner hinner => ?_)
    refine h.not_mem (c := '}') (by decide) ?_
    rw [(List.cons.inj hinner).2]
    simp
  | @closed word h =>
    refine hread htight (by simp) (unbraced_of_not_braced fun inner hinner => ?_)
    obtain ⟨c, tail, rfl⟩ := List.exists_cons_of_ne_nil h.nonempty
    exact h.not_mem (c := '{') (by decide) ((List.cons.inj hinner).1 ▸ List.mem_cons_self)

end

/-! ## The steps of the reader -/

section

variable {cs rest ref name : List Char}

theorem blanks?_eq_some_iff :
    blanks? cs = some rest ↔ ∃ b, Gap b ∧ Flush rest ∧ cs = b ++ rest := by
  constructor
  · intro h
    cases cs with
    | nil => cases h
    | cons c tail =>
      rw [blanks?] at h
      split at h
      · rename_i hc
        cases h
        obtain ⟨b, hb, htail⟩ := exists_blanks_trimStart tail
        refine ⟨c :: b, ⟨List.cons_ne_nil _ _, List.forall_mem_cons.mpr ⟨hc, hb⟩⟩,
          flush_trimStart tail, ?_⟩
        rw [List.cons_append, ← htail]
      · cases h
  · rintro ⟨b, hb, hrest, rfl⟩
    obtain ⟨c, tail, rfl⟩ := List.exists_cons_of_ne_nil hb.nonempty
    obtain ⟨hc, htail⟩ := List.forall_mem_cons.mp hb.blanks
    rw [List.cons_append, blanks?, if_pos hc, trimStart_append htail, trimStart_of_flush hrest]

theorem optional_append (c : Char) (cs : List Char) :
    (optional c cs).1 ∈ [[], [c]] ∧ (optional c cs).1 ++ (optional c cs).2 = cs := by
  rw [optional]
  split
  · rename_i rest hrest
    exact ⟨by simp, (stripPrefix?_eq_some_iff.mp hrest).symm⟩
  · exact ⟨by simp, rfl⟩

/-- A text in front of which a character stands if it can. -/
theorem optional_of_mem {c : Char} {lead : List Char} (hlead : lead ∈ [[], [c]])
    (hrest : ∀ d ∈ rest.head?, d ≠ c) : optional c (lead ++ rest) = (lead, rest) := by
  rcases List.mem_pair.mp hlead with rfl | rfl
  · cases rest with
    | nil => rfl
    | cons d rest =>
      have hd : c ≠ d := (hrest d rfl).symm
      simp [optional, stripPrefix?, hd]
  · simp [optional, stripPrefix?]

/-- The text behind a control variable does not go on with it. -/
def Stops (cs : List Char) : Prop := ∀ c ∈ cs.head?, isWord c = false ∧ c ≠ '}'

theorem control?_sound (h : control? cs = some (ref, rest)) :
    cs = ref ++ rest ∧ ∃ name, Control ref name := by
  obtain ⟨behind, hbehind, h⟩ := Option.bind_eq_some_iff.mp h
  obtain ⟨hopening, hopened⟩ := optional_append '{' behind
  obtain ⟨hclosing, hclosed⟩ := optional_append '}' ((optional '{' behind).2.dropWhile isWord)
  dsimp only at h
  split at h
  · cases h
  · rename_i hword
    cases h
    have hname : Name ((optional '{' behind).2.takeWhile isWord) :=
      ⟨by simpa using hword, fun _ => List.mem_takeWhile_imp⟩
    refine ⟨?_, by simpa using control_of_parts hopening hname hclosing⟩
    rw [stripPrefix?_eq_some_iff.mp hbehind]
    conv_lhs => rw [← hopened, ← List.takeWhile_append_dropWhile (p := isWord)
      (l := (optional '{' behind).2), ← hclosed]
    simp

theorem control?_of_control (h : Control ref name) (hrest : Stops rest) :
    control? (ref ++ rest) = some (ref, rest) := by
  obtain ⟨opening, word, closing, hopening, hword, hclosing, rfl⟩ := h.exists_parts
  have hbrace : ∀ d ∈ (word ++ (closing ++ rest)).head?, d ≠ '{' := by
    obtain ⟨c, tail, rfl⟩ := List.exists_cons_of_ne_nil hword.nonempty
    rintro d hd rfl
    cases hd
    exact hword.not_mem (c := '{') (by decide) List.mem_cons_self
  have hend : ∀ c ∈ (closing ++ rest).head?, isWord c = false := by
    rcases List.mem_pair.mp hclosing with rfl | rfl
    · exact fun c hc => (hrest c hc).1
    · intro c hc
      cases hc
      decide
  obtain ⟨htake, hdrop⟩ := hword.span_append hend
  have hdollar : stripPrefix? ['$'] ('$' :: (opening ++ (word ++ closing)) ++ rest) =
      some (opening ++ (word ++ (closing ++ rest))) := by
    simp [stripPrefix?]
  have hempty : word.isEmpty = false := by simpa using hword.nonempty
  rw [control?, hdollar, Option.bind_some, optional_of_mem hopening hbrace]
  dsimp only
  rw [htake, hdrop, optional_of_mem hclosing fun d hd => (hrest d hd).2, hempty]
  simp

theorem Gap.stops {b : List Char} (h : Gap b) (rest : List Char) : Stops (b ++ rest) := by
  obtain ⟨c, tail, rfl⟩ := List.exists_cons_of_ne_nil h.nonempty
  intro d hd
  cases hd
  have hblank := h.blanks c List.mem_cons_self
  exact ⟨isWord_of_isBlank hblank, ne_of_isBlank hblank (by decide)⟩

theorem stops_comma {b : List Char} (hb : Blanks b) (rest : List Char) :
    Stops (b ++ ',' :: rest) := by
  cases b with
  | nil =>
    intro c hc
    cases hc
    decide
  | cons c tail => exact Gap.stops ⟨List.cons_ne_nil _ _, hb⟩ _

/-- Control variables as they are written. -/
def Written (ref ref' : List Char) : Prop := ref' = ref ∧ ∃ name, Control ref name

theorem Controls.exists_cons {controls first : List Char} {second : Option (List Char)}
    (h : Controls Written controls first second) : ∃ rest, controls = '$' :: rest := by
  cases h with
  | one h =>
    obtain ⟨rfl, name, hname⟩ := h
    exact hname.exists_cons
  | two h _ _ _ =>
    obtain ⟨rfl, name, hname⟩ := h
    obtain ⟨rest, rfl⟩ := hname.exists_cons
    exact ⟨_, rfl⟩

theorem controls_sound {first behind : List Char} {second : Option (List Char)}
    (hfirst : control? cs = some (first, behind)) (hsecond : second? behind = some (second, rest)) :
    ∃ controls, Controls Written controls first second ∧ cs = controls ++ rest := by
  obtain ⟨rfl, name, hname⟩ := control?_sound hfirst
  rw [second?] at hsecond
  split at hsecond
  · rename_i afterComma hcomma
    obtain ⟨⟨ref', rest'⟩, hcontrol, heq⟩ := Option.map_eq_some_iff.mp hsecond
    cases heq
    obtain ⟨b, hb, hbehind⟩ := exists_blanks_trimStart behind
    obtain ⟨b', hb', hafter⟩ := exists_blanks_trimStart afterComma
    obtain ⟨hstart, name', hname'⟩ := control?_sound hcontrol
    refine ⟨_, .two ⟨rfl, name, hname⟩ hb hb' ⟨rfl, name', hname'⟩, ?_⟩
    rw [hbehind, stripPrefix?_eq_some_iff.mp hcomma, hafter, hstart]
    simp
  · cases hsecond
    exact ⟨first, .one ⟨rfl, name, hname⟩, rfl⟩

theorem controls_complete {controls first b : List Char} {second : Option (List Char)}
    (h : Controls Written controls first second) (hb : Gap b) (hrest : rest.head? = some 'i') :
    ∃ behind, control? (controls ++ (b ++ rest)) = some (first, behind) ∧
      second? behind = some (second, b ++ rest) := by
  obtain ⟨tail, rfl⟩ : ∃ tail, rest = 'i' :: tail := by
    cases rest with
    | nil => cases hrest
    | cons c tail => cases hrest; exact ⟨tail, rfl⟩
  cases h with
  | one h =>
    obtain ⟨rfl, name, hname⟩ := h
    refine ⟨b ++ 'i' :: tail, control?_of_control hname (hb.stops _), ?_⟩
    have hstart : trimStart (b ++ 'i' :: tail) = 'i' :: tail := by
      rw [trimStart_append hb.blanks]
      exact trimStart_of_flush (flush_cons (by decide) _)
    rw [second?, hstart]
    rfl
  | @two _ _ b₁ b₂ _ ref' h hb₁ hb₂ h' =>
    obtain ⟨rfl, name, hname⟩ := h
    obtain ⟨rfl, name', hname'⟩ := h'
    refine ⟨b₁ ++ ',' :: (b₂ ++ (ref' ++ (b ++ 'i' :: tail))), ?_, ?_⟩
    · have hcontrol := control?_of_control hname
        (stops_comma hb₁ (b₂ ++ (ref' ++ (b ++ 'i' :: tail))))
      simpa using hcontrol
    · have hcomma : trimStart (b₁ ++ ',' :: (b₂ ++ (ref' ++ (b ++ 'i' :: tail)))) =
          [','] ++ (b₂ ++ (ref' ++ (b ++ 'i' :: tail))) := by
        rw [trimStart_append hb₁]
        exact trimStart_of_flush (flush_cons (by decide) _)
      obtain ⟨rest', hdollar⟩ := hname'.exists_cons
      have hstart : trimStart (b₂ ++ (ref' ++ (b ++ 'i' :: tail))) =
          ref' ++ (b ++ 'i' :: tail) := by
        rw [trimStart_append hb₂, hdollar]
        exact trimStart_of_flush (flush_cons (by decide) _)
      rw [second?, hcomma, stripPrefix?_append]
      dsimp only
      rw [hstart, control?_of_control hname' (hb.stops _)]
      rfl

theorem layout_of_parts? {first subject : List Char} {second : Option (List Char)} (hcs : Tight cs)
    (h : parts? cs = some (first, second, subject)) : Layout Written first second subject cs := by
  obtain ⟨afterFor, hfor, h⟩ := Option.bind_eq_some_iff.mp h
  obtain ⟨atFirst, hblanks, h⟩ := Option.bind_eq_some_iff.mp h
  obtain ⟨⟨_, afterFirst⟩, hfirst, h⟩ := Option.bind_eq_some_iff.mp h
  obtain ⟨⟨_, afterSecond⟩, hsecond, h⟩ := Option.bind_eq_some_iff.mp h
  obtain ⟨atIn, hblanks', h⟩ := Option.bind_eq_some_iff.mp h
  obtain ⟨afterIn, hin, h⟩ := Option.bind_eq_some_iff.mp h
  obtain ⟨expression, hblanks'', h⟩ := Option.bind_eq_some_iff.mp h
  split at h
  · cases h
  · rename_i hexpression
    cases h
    obtain ⟨b, hb, -, rfl⟩ := blanks?_eq_some_iff.mp hblanks
    obtain ⟨b', hb', -, rfl⟩ := blanks?_eq_some_iff.mp hblanks'
    obtain ⟨b'', hb'', hflush, rfl⟩ := blanks?_eq_some_iff.mp hblanks''
    obtain ⟨controls, hcontrols, rfl⟩ := controls_sound hfirst hsecond
    rw [stripPrefix?_eq_some_iff.mp hin] at hfor
    have heq := stripPrefix?_eq_some_iff.mp hfor
    have htight : Tight subject := by
      have hall : Tight (("for".toList ++ (b ++ (controls ++ (b' ++ ("in".toList ++ b''))))) ++
          subject) := by simpa [heq] using hcs
      exact hall.of_append hflush
    have hsubject : Subject subject := by
      simp only [Bool.or_eq_true, List.isEmpty_iff, List.contains_iff_mem, not_or] at hexpression
      exact ⟨hexpression.1, htight, hexpression.2⟩
    rw [heq]
    exact .intro hb hcontrols hb' hb'' hsubject

theorem parts?_of_layout {first subject : List Char} {second : Option (List Char)}
    (h : Layout Written first second subject cs) : parts? cs = some (first, second, subject) := by
  obtain ⟨hb, hcontrols, hb', hb'', hsubject⟩ := h
  rename_i b controls b' b''
  have hflush : Flush (controls ++ (b' ++ ("in".toList ++ (b'' ++ subject)))) := by
    obtain ⟨rest, hrest⟩ := hcontrols.exists_cons
    rw [hrest]
    exact flush_cons (by decide) _
  have hin : Flush ("in".toList ++ (b'' ++ subject)) :=
    flush_cons (show isBlank 'i' = false by decide) _
  have hletter : ("in".toList ++ (b'' ++ subject)).head? = some 'i' := rfl
  obtain ⟨behind, hfirst, hsecond⟩ := controls_complete hcontrols hb' hletter
  have hline : (subject.isEmpty || subject.contains '\n') = false := by
    simp [hsubject.nonempty, hsubject.line]
  rw [parts?, stripPrefix?_append, Option.bind_some,
    blanks?_eq_some_iff.mpr ⟨b, hb, hflush, rfl⟩, Option.bind_some, hfirst, Option.bind_some]
  dsimp only
  rw [hsecond, Option.bind_some]
  dsimp only
  rw [blanks?_eq_some_iff.mpr ⟨b', hb', hin, rfl⟩, Option.bind_some,
    stripPrefix?_append, Option.bind_some,
    blanks?_eq_some_iff.mpr ⟨b'', hb'', hsubject.tight.first, rfl⟩, Option.bind_some, hline]
  rfl

/-- **The parts of a header** are those that it is laid out with. -/
theorem parts?_eq_some_iff {first subject : List Char} {second : Option (List Char)}
    (hcs : Tight cs) :
    parts? cs = some (first, second, subject) ↔ Layout Written first second subject cs :=
  ⟨layout_of_parts? hcs, parts?_of_layout⟩

end

/-! ## Reading a header -/

section

variable {header : String} {first subject cs : List Char} {second : Option (List Char)}

/-- What is written for control variables is read as names. -/
theorem Layout.exists_names (h : Layout Written first second subject cs) :
    ∃ first second, Layout Control first second subject cs := by
  obtain ⟨hb, hcontrols, hb', hb'', hsubject⟩ := h
  cases hcontrols with
  | one h =>
    obtain ⟨rfl, name, hname⟩ := h
    exact ⟨name, none, .intro hb (.one hname) hb' hb'' hsubject⟩
  | two h hb₁ hb₂ h' =>
    obtain ⟨rfl, name, hname⟩ := h
    obtain ⟨rfl, name', hname'⟩ := h'
    exact ⟨name, some name', .intro hb (.two hname hb₁ hb₂ hname') hb' hb'' hsubject⟩

/-- What a header is laid out with is what is read from it. -/
theorem read_of_layout (h : Layout Control first second subject (trim header.toList)) :
    read header =
      .ok ⟨String.ofList first, second.map String.ofList, String.ofList subject⟩ := by
  have hsubject := h.subject
  have htrim : Text.trim (String.ofList subject) = String.ofList subject := by
    rw [Text.trim, String.toList_ofList, trim_of_tight hsubject.tight]
  rw [read]
  generalize trim header.toList = cs at h
  obtain ⟨hb, hcontrols, hb', hb'', -⟩ := h
  cases hcontrols with
  | one h =>
    rw [parts?_of_layout (.intro hb (.one ⟨rfl, _, h⟩) hb' hb'' hsubject)]
    dsimp only
    rw [h.variableName_eq, htrim]
    rfl
  | two h hb₁ hb₂ h' =>
    rw [parts?_of_layout
      (.intro hb (.two ⟨rfl, _, h⟩ hb₁ hb₂ ⟨rfl, _, h'⟩) hb' hb'' hsubject)]
    dsimp only
    rw [h.variableName_eq, h'.variableName_eq, htrim]
    rfl

/-- **Loop headers** are exactly the texts that spell them, blanks around them aside. -/
theorem read_eq_ok_iff {l : LoopHeader} :
    read header = .ok l ↔ l.Spelled Control (trim header.toList) := by
  constructor
  · intro h
    have hparts : ∃ parts, parts? (trim header.toList) = some parts := by
      rw [read] at h
      split at h
      · cases h
      · exact ⟨_, ‹_›⟩
    obtain ⟨⟨first, second, subject⟩, hparts⟩ := hparts
    obtain ⟨first', second', hlayout⟩ :=
      ((parts?_eq_some_iff (tight_trim _)).mp hparts).exists_names
    cases (read_of_layout hlayout).symm.trans h
    simpa [Spelled, Option.map_map, Function.comp_def] using hlayout
  · intro h
    have hread := read_of_layout h
    simpa [Option.map_map, Function.comp_def] using hread

end

end LoopHeader

/-! ## Finding a name again -/

namespace Template

/-- A reference is one piece of a template. -/
theorem pieces_of_refers {ref name : List Char} (h : Refers Name ref name) :
    pieces ref = [.bare name] ∨ pieces ref = [.braced name] := by
  have hsingle : ∀ p : Piece, VariableRef p [] → pieces p.source = [p] := by
    intro p hp
    have hread : variableMarkup.Reads [] [p] (p.source ++ []) := .ref hp .nil
    rw [List.append_nil] at hread
    exact (reads_pieces_iff.mp hread).symm
  cases h with
  | bare h => exact .inl (hsingle (.bare name) (.bare ⟨h, nofun⟩))
  | braced h => exact .inr (hsingle (.braced name) (.braced h))

/-- A reference to a variable stands for its text. -/
theorem interpolate_of_refers {ref name : List Char} (h : Refers Name ref name) {vars : Vars}
    {v : Value} (hv : vars.get? (String.ofList name) = some v) :
    interpolate vars (String.ofList ref) = v.render := by
  rw [interpolate, String.toList_ofList]
  rcases pieces_of_refers h with hpieces | hpieces
  · rw [hpieces]
    simp [Piece.expand, hv]
  · rw [hpieces]
    simp [Piece.expand, hv]

end Template

/-- A name that is found again, bare and in braces: an expression reads the variable, and a template
has its text. -/
def Readable (x : String) : Prop :=
  ∀ ref, Refers (fun _ => True) ref x.toList →
    Expr.read (String.ofList ref) = .ok ⟨false, .variable x⟩ ∧
      ∀ (vars : Vars) (v : Value), vars.get? x = some v →
        Template.interpolate vars (String.ofList ref) = v.render

theorem spelled_of_refers {ref name : List Char} (h : Refers Name ref name) :
    Expr.Spelled ⟨false, .variable (String.ofList name)⟩ ref := by
  have hspelled := Query.Spelled.reference (q := []) (by decide) h
  rw [List.nil_append, List.append_nil] at hspelled
  exact .plain hspelled

/-- A reference is an expression that reads the variable. -/
theorem read_of_refers {ref name : List Char} (h : Refers Name ref name) :
    Expr.read (String.ofList ref) = .ok ⟨false, .variable (String.ofList name)⟩ := by
  refine Expr.Spelled.read_eq ?_
  rw [String.toList_ofList, trim_of_tight (tight_of_refers h)]
  exact spelled_of_refers h

theorem readable_of_name {x : String} (h : Name x.toList) : Readable x := by
  intro ref href
  have hname := href.of_name h
  refine ⟨?_, fun vars v hv => Template.interpolate_of_refers hname ?_⟩
  · simpa using read_of_refers hname
  · simpa using hv

/-! ## Control variables without lone braces -/

namespace LoopHeader

variable {l : LoopHeader} {cs : List Char}

/-- Without a brace in its name, a control variable is a reference. -/
theorem Control.refers {ref name : List Char} (h : Control ref name) (hopen : '{' ∉ name)
    (hclose : '}' ∉ name) : Refers Name ref name := by
  cases h with
  | reference h => exact h
  | opened _ => exact absurd List.mem_cons_self hopen
  | closed _ => exact absurd (by simp) hclose

theorem forall_names_iff (l : LoopHeader) (P : List Char → Prop) :
    (∀ x ∈ l.names, P x.toList) ↔
      ∀ name ∈ l.first.toList :: (l.second.map String.toList).toList, P name := by
  obtain ⟨first, second, expression⟩ := l
  cases second <;> simp [LoopHeader.names]

/-- The control variables of a header that is written with references are words. -/
theorem Spelled.named (h : l.Spelled (Refers Name) cs) : ∀ x ∈ l.names, Name x.toList := by
  refine (l.forall_names_iff Name).mpr fun name hname => ?_
  obtain ⟨ref, href⟩ := h.exists_ref name hname
  exact href.named

/-- The control variables of a header are written as references if there is no brace in a name. -/
theorem Spelled.refers_iff (h : l.Spelled Control cs) :
    l.Spelled (Refers Name) cs ↔ ∀ x ∈ l.names, '{' ∉ x.toList ∧ '}' ∉ x.toList := by
  constructor
  · intro hrefers x hx
    have hword := hrefers.named x hx
    exact ⟨hword.not_mem (by decide), hword.not_mem (by decide)⟩
  · intro hbraces
    have hnames := (l.forall_names_iff fun name => '{' ∉ name ∧ '}' ∉ name).mp hbraces
    exact h.imp fun name hname ref href => href.refers (hnames name hname).1 (hnames name hname).2

end LoopHeader

open LoopHeader

/-- **What is read as a loop header** is laid out as one: `for`, one or two control variables with a
comma between them, `in`, and an expression without blanks at its ends, with nothing but blanks in
between. Its control variables are references in matching braces or none exactly if no name that
is read has a brace in it. Then all names are words, and they are found again. -/
theorem header_spelled_of_read {header : String} {l : LoopHeader}
    (h : LoopHeader.read header = .ok l) :
    l.Spelled Control (trim header.toList) ∧
    (l.Spelled (Refers Name) (trim header.toList) ↔
      ∀ x ∈ l.names, '{' ∉ x.toList ∧ '}' ∉ x.toList) ∧
    (l.Spelled (Refers Name) (trim header.toList) →
      ∀ x ∈ l.names, Name x.toList ∧ Readable x) := by
  have hspelled := read_eq_ok_iff.mp h
  refine ⟨hspelled, hspelled.refers_iff, fun hrefers x hx => ?_⟩
  have hword := hrefers.named x hx
  exact ⟨hword, readable_of_name hword⟩

/-- A header with a bare control variable and one in braces. -/
theorem header_spelled_of_read_pair :
    LoopHeader.read "for $k , $\x7bv\x7d in $m" = .ok ⟨"k", some "v", "$m"⟩ ∧
    Readable "k" ∧ Readable "v" := by
  have hread : LoopHeader.read "for $k , $\x7bv\x7d in $m" = .ok ⟨"k", some "v", "$m"⟩ :=
    eq_ok_of_toOption (by decide +kernel)
  obtain ⟨-, hbraces, hnames⟩ := header_spelled_of_read hread
  have hreadable := hnames (hbraces.mpr (by decide))
  exact ⟨hread, (hreadable "k" (by decide)).2, (hreadable "v" (by decide)).2⟩

/-- **A lone brace** is read as a part of the name. -/
theorem not_header_spelled_of_read_lone :
    ¬ ∀ header l, LoopHeader.read header = .ok l →
      l.Spelled (Refers Name) (trim header.toList) := by
  intro h
  have hread : LoopHeader.read "for $\x7ba in $x" = .ok ⟨"\x7ba", none, "$x"⟩ :=
    eq_ok_of_toOption (by decide +kernel)
  obtain ⟨ref, href⟩ := (h _ _ hread).exists_ref "\x7ba".toList List.mem_cons_self
  exact href.named.not_mem (c := '{') (by decide) (by decide)

end Scaffold
