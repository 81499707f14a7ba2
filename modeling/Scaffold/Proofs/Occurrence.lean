import Scaffold.Proofs.Header
import Scaffold.Proofs.Reading

/-!
# What occurs in a text

The names that a script reads stand in its texts. A name is written with a dollar sign in front, and
a text that is put together from others has separators between them that are part of no reference.
So a name that a value refers to, rendered or not, occurs in one of the texts of the value.

* `Value.texts`, `Section.texts`: the texts and tags in a value, or a section, at every depth.
* `Omits`: a text in which another does not occur.
* `Cites`: a text in which a reference to a name begins.

Results:
* `cites_of_mem_references`: a text cites the names that it refers to.
* **`texts_of_cites_render`**: what the rendered text of a value cites, one of its texts cites.
* **`texts_of_mem_references`**: so the names that a value refers to occur in its texts.
* `infix_of_variableName`, `infix_of_read`: the names in an expression occur in it.
* `texts_nested`: the texts of the entries at every depth are texts of the section.
-/

namespace Scaffold

/-! ## Texts of values and sections -/

namespace Value

mutual

/-- The texts and tags in a value. -/
def texts : Value → List String
  | .text s => [s]
  | .list items => textsList items
  | .mapping entries => textsEntries entries
  | .tagged t v => t :: texts v
  | _ => []

/-- The texts and tags in items. -/
def textsList : List Value → List String
  | [] => []
  | v :: rest => texts v ++ textsList rest

/-- The texts and tags in the keys and values of entries. -/
def textsEntries : List (Value × Value) → List String
  | [] => []
  | (k, v) :: rest => texts k ++ texts v ++ textsEntries rest

end

end Value

/-- The tag of an entry, and the texts and tags in its argument. -/
def Entry.texts (e : Entry) : List String := e.tag :: e.argument.texts

/-- The texts and tags in a section. -/
def Section.texts (s : Section) : List String := s.flatMap Entry.texts

/-- The texts and tags in named sections, and their names. -/
def sectionTexts (t : Table Section) : List String :=
  t.entries.flatMap fun e => e.1 :: Section.texts e.2

/-- A text does not occur in another. -/
def Omits (x t : String) : Prop := ¬x.toList <:+: t.toList

instance (x t : String) : Decidable (Omits x t) := inferInstanceAs (Decidable ¬_)

theorem Omits.of_isInfix {x s t : String} (h : Omits x t) (hst : s.toList <:+: t.toList) :
    Omits x s := fun hx => h (hx.trans hst)

theorem Omits.ne {x n t : String} (h : Omits x t) (hn : n.toList <:+: t.toList) : n ≠ x :=
  fun hx => h (hx ▸ hn)

/-! ## Texts put together from others -/

/-- A reference to a name begins in a text: a dollar sign, perhaps a brace, and the name. -/
def Cites (cs name : List Char) : Prop :=
  (∀ c ∈ name, isWord c = true) ∧ ∃ brace ∈ [[], ['{']], '$' :: (brace ++ name) <:+: cs

/-- A character that is part of no reference. -/
def Separates (c : Char) : Prop := c ≠ '$' ∧ c ≠ '{' ∧ isWord c = false

instance (c : Char) : Decidable (Separates c) := inferInstanceAs (Decidable (_ ∧ _))

/-- A text between others, of characters that are part of no reference. -/
def Separator (sep : List Char) : Prop := sep ≠ [] ∧ ∀ c ∈ sep, Separates c

-- the characters of the text are tried, not all that there are
instance (sep : List Char) : Decidable (Separator sep) :=
  have : Decidable (∀ c ∈ sep, Separates c) := List.decidableBAll Separates sep
  inferInstanceAs (Decidable (_ ∧ _))

theorem isInfix_or_isInfix {α : Type} {c : α} {p a b : List α} (hc : c ∉ p)
    (h : p <:+: a ++ c :: b) : p <:+: a ∨ p <:+: b := by
  have hempty : ∀ {q}, q <+: c :: b → (∀ d ∈ q, d ∈ p) → q = [] := by
    rintro (_ | ⟨d, q⟩) hq hmem
    · rfl
    · obtain ⟨rfl, -⟩ := List.cons_prefix_cons.mp hq
      exact absurd (hmem d List.mem_cons_self) hc
  rcases List.infix_append_iff.mp h with h | h | ⟨l, r, rfl, hl, hr⟩
  · exact .inl h
  · rcases List.infix_cons_iff.mp h with h | h
    · rw [hempty h fun _ => id]
      exact .inl List.nil_infix
    · exact .inr h
  · rw [hempty hr fun _ hd => List.mem_append_right _ hd, List.append_nil]
    exact .inl hl.isInfix

namespace Cites

variable {cs a b name : List Char} {c : Char}

theorem name_isInfix (h : Cites cs name) : name <:+: cs := by
  obtain ⟨-, brace, -, h⟩ := h
  exact ((List.suffix_append ('$' :: brace) name).isInfix).trans h

theorem mono (h : Cites a name) (hab : a <:+: b) : Cites b name := by
  obtain ⟨hword, brace, hbrace, h⟩ := h
  exact ⟨hword, brace, hbrace, h.trans hab⟩

/-- A reference does not go over a separator. -/
theorem append (hc : Separates c) (h : Cites (a ++ c :: b) name) : Cites a name ∨ Cites b name := by
  obtain ⟨hword, brace, hbrace, h⟩ := h
  obtain ⟨hdollar, hopen, hnot⟩ := hc
  have hmem : c ∉ '$' :: (brace ++ name) := by
    have hname : c ∉ name := fun hin => by rw [hword c hin] at hnot; cases hnot
    simp only [List.mem_cons, List.not_mem_nil, or_false] at hbrace
    rcases hbrace with rfl | rfl <;> simp [hdollar, hopen, hname]
  exact (isInfix_or_isInfix hmem h).imp (⟨hword, brace, hbrace, ·⟩) (⟨hword, brace, hbrace, ·⟩)

/-- A reference begins with a dollar sign. -/
theorem tail (hc : c ≠ '$') (h : Cites (c :: cs) name) : Cites cs name := by
  obtain ⟨hword, brace, hbrace, h⟩ := h
  refine ⟨hword, brace, hbrace, ?_⟩
  rcases List.infix_cons_iff.mp h with h | h
  · exact absurd (List.cons_prefix_cons.mp h).1.symm hc
  · exact h

theorem mem (h : Cites cs name) : '$' ∈ cs := by
  obtain ⟨-, brace, -, h⟩ := h
  exact h.subset List.mem_cons_self

theorem across {sep : List Char} (hsep : Separator sep) (h : Cites (a ++ sep ++ b) name) :
    Cites a name ∨ Cites b name := by
  induction sep generalizing a with
  | nil => exact absurd rfl hsep.1
  | cons c rest ih =>
    rw [List.append_assoc, List.cons_append] at h
    refine (append (hsep.2 c List.mem_cons_self) h).imp_right fun h => ?_
    cases rest with
    | nil => exact h
    | cons d rest =>
      have hrest := ih (a := []) ⟨nofun, fun c hc => hsep.2 c (List.mem_cons_of_mem _ hc)⟩ h
      exact hrest.resolve_left fun h => nomatch h.mem

/-- A reference in parts with separators between them is in one of the parts. -/
theorem join {sep : String} (hsep : Separator sep.toList) :
    ∀ {parts : List String}, Cites (Text.join sep parts).toList name →
      ∃ part ∈ parts, Cites part.toList name := by
  intro parts
  rw [Text.join_eq_intercalate]
  induction parts with
  | nil => exact fun h => nomatch h.mem
  | cons part rest ih =>
    intro h
    cases rest with
    | nil => exact ⟨part, List.mem_cons_self, by rwa [String.intercalate_singleton] at h⟩
    | cons next rest =>
      rw [String.intercalate_cons_cons, String.toList_append, String.toList_append] at h
      rcases across hsep h with h | h
      · exact ⟨part, List.mem_cons_self, h⟩
      · obtain ⟨q, hq, h⟩ := ih h
        exact ⟨q, List.mem_cons_of_mem _ hq, h⟩

/-- A reference in such parts with brackets around them. -/
theorem inside {left right sep : String} {parts : List String}
    (hleft : ∃ c, left.toList = [c] ∧ c ≠ '$') (hright : ∃ c, right.toList = [c] ∧ Separates c)
    (hsep : Separator sep.toList)
    (h : Cites ((left.toList ++ (Text.join sep parts).toList) ++ right.toList) name) :
    ∃ part ∈ parts, Cites part.toList name := by
  obtain ⟨c, hc, hdollar⟩ := hleft
  obtain ⟨d, hd, hseparates⟩ := hright
  rw [hc, hd] at h
  rcases append hseparates h with h | h
  · exact join hsep (h.tail hdollar)
  · exact nomatch h.mem

end Cites

/-! ## Numbers -/

/-- Whether a number can be written with a character. -/
def isNumeral (c : Char) : Bool := c.isDigit || ['-', '.', 'e', 'i', 'n', 'f', 'a'].contains c

section Numbers

variable {c : Char}

theorem ne_of_isNumeral {d : Char} (hc : isNumeral c = false) (hd : isNumeral d = true) :
    c ≠ d := by
  rintro rfl
  rw [hc] at hd
  cases hd

theorem notMem_toDigits (hc : isNumeral c = false) (n : Nat) : c ∉ Nat.toDigits 10 n := by
  intro h
  have hdigit := Nat.isDigit_of_mem_toDigits (by decide) (by decide) h
  rw [isNumeral, hdigit] at hc
  cases hc

theorem notMem_natText (hc : isNumeral c = false) (n : Nat) : c ∉ (toString n).toList := by
  have hdigits : (toString n).toList = Nat.toDigits 10 n := by
    simp [toString, Nat.repr]
  rw [hdigits]
  exact notMem_toDigits hc n

theorem notMem_intText (hc : isNumeral c = false) (n : Int) : c ∉ (toString n).toList := by
  cases n with
  | ofNat n => exact notMem_natText hc n
  | negSucc n =>
    have htext : (toString (Int.negSucc n)).toList = '-' :: (toString (n + 1)).toList := by
      simp [toString, Int.repr]
    rw [htext, List.mem_cons]
    rintro (h | h)
    · exact ne_of_isNumeral hc (by decide) h
    · exact notMem_natText hc (n + 1) h

theorem notMem_positive (hc : isNumeral c = false) (digits : Nat) (exponent : Int) :
    c ∉ (Binary64.positive digits exponent).toList := by
  have hdigits := notMem_toDigits hc digits
  have htake : ∀ n, c ∉ (Nat.toDigits 10 digits).take n :=
    fun n h => hdigits (List.mem_of_mem_take h)
  have hdrop : ∀ n, c ∉ (Nat.toDigits 10 digits).drop n :=
    fun n h => hdigits (List.mem_of_mem_drop h)
  have hzero : c ≠ '0' := ne_of_isNumeral hc (by decide)
  have hpoint : c ≠ '.' := ne_of_isNumeral hc (by decide)
  have hletter : c ≠ 'e' := ne_of_isNumeral hc (by decide)
  unfold Binary64.positive
  dsimp only
  split
  · simp [hdigits, hzero, hpoint]
  split
  · simp [htake, hdrop, hpoint]
  split
  · simp [hdigits, hzero, hpoint]
  · rw [String.toList_append, List.mem_append]
    rintro (h | h)
    · split at h <;> simp_all
    · exact notMem_intText hc _ h

theorem notMem_floatText (hc : isNumeral c = false) (x : Binary64) : c ∉ x.text.toList := by
  have hword : ∀ s : String, s.toList.all isNumeral = true → c ∉ s.toList :=
    fun s hs h => ne_of_isNumeral hc (List.all_eq_true.mp hs c h) rfl
  have hsigned : ∀ s : String, c ∉ s.toList →
      c ∉ ((if x.negative then "-" else "") ++ s).toList := fun s hs => by
    rw [String.toList_append, List.mem_append]
    exact not_or.mpr ⟨by split <;> exact hword _ (by decide), hs⟩
  fun_cases Binary64.text x
  · exact hword ".nan" (by decide)
  · exact hsigned ".inf" (hword ".inf" (by decide))
  · exact hsigned "0.0" (hword "0.0" (by decide))
  · exact hsigned _ (notMem_positive hc _ _)

end Numbers

/-! ## Rendered values -/

section Rendering

variable {name : List Char}

mutual

/-- What the flow notation of a value cites, one of its texts cites. -/
theorem texts_of_cites_flow : ∀ {v : Value}, Cites v.flow.toList name →
    ∃ t ∈ v.texts, Cites t.toList name
  | .null, h => absurd h.mem (by decide)
  | .bool true, h | .bool false, h => absurd h.mem (by decide)
  | .int n, h => absurd h.mem (notMem_intText (by decide) n)
  | .float x, h => absurd h.mem (notMem_floatText (by decide) x)
  | .text s, h => ⟨s, List.mem_cons_self, h⟩
  | .list items, h => by
    rw [Value.flow, String.toList_append, String.toList_append] at h
    obtain ⟨part, hpart, h⟩ :=
      Cites.inside ⟨'[', rfl, by decide⟩ ⟨']', rfl, by decide⟩ (by decide) h
    exact texts_of_cites_flowList hpart h
  | .mapping entries, h => by
    rw [Value.flow, String.toList_append, String.toList_append] at h
    obtain ⟨part, hpart, h⟩ :=
      Cites.inside ⟨'{', rfl, by decide⟩ ⟨'}', rfl, by decide⟩ (by decide) h
    exact texts_of_cites_flowEntries hpart h
  | .tagged t v, h => by
    rw [Value.flow, String.toList_append, String.toList_append, String.toList_append] at h
    rcases Cites.across (by decide) h with h | h
    · exact ⟨t, List.mem_cons_self, h.tail (by decide)⟩
    · obtain ⟨s, hs, h⟩ := texts_of_cites_flow h
      exact ⟨s, List.mem_cons_of_mem _ hs, h⟩

theorem texts_of_cites_flowList : ∀ {vs : List Value} {part : String},
    part ∈ Value.flowList vs → Cites part.toList name →
      ∃ t ∈ Value.textsList vs, Cites t.toList name
  | v :: vs, part, hpart, h => by
    rw [Value.textsList]
    rcases List.mem_cons.mp hpart with rfl | hpart
    · obtain ⟨t, ht, h⟩ := texts_of_cites_flow h
      exact ⟨t, List.mem_append_left _ ht, h⟩
    · obtain ⟨t, ht, h⟩ := texts_of_cites_flowList hpart h
      exact ⟨t, List.mem_append_right _ ht, h⟩

theorem texts_of_cites_flowEntries : ∀ {es : List (Value × Value)} {part : String},
    part ∈ Value.flowEntries es → Cites part.toList name →
      ∃ t ∈ Value.textsEntries es, Cites t.toList name
  | (k, v) :: es, part, hpart, h => by
    rw [Value.textsEntries]
    rcases List.mem_cons.mp hpart with rfl | hpart
    · rw [String.toList_append, String.toList_append] at h
      rcases Cites.across (by decide) h with h | h
      · obtain ⟨t, ht, h⟩ := texts_of_cites_flow h
        exact ⟨t, List.mem_append_left _ (List.mem_append_left _ ht), h⟩
      · obtain ⟨t, ht, h⟩ := texts_of_cites_flow h
        exact ⟨t, List.mem_append_left _ (List.mem_append_right _ ht), h⟩
    · obtain ⟨t, ht, h⟩ := texts_of_cites_flowEntries hpart h
      exact ⟨t, List.mem_append_right _ ht, h⟩

end

mutual

/-- **What the rendered text** of a value cites, one of its texts cites. -/
theorem texts_of_cites_render : ∀ {v : Value}, Cites v.render.toList name →
    ∃ t ∈ v.texts, Cites t.toList name
  | .null, h => absurd h.mem (by decide)
  | .bool true, h | .bool false, h => absurd h.mem (by decide)
  | .int n, h => absurd h.mem (notMem_intText (by decide) n)
  | .float x, h => absurd h.mem (notMem_floatText (by decide) x)
  | .text s, h => ⟨s, List.mem_cons_self, h⟩
  | .list items, h => by
    rw [Value.render] at h
    obtain ⟨part, hpart, h⟩ := Cites.join (by decide) h
    exact texts_of_cites_renderList hpart h
  | .mapping _, h => texts_of_cites_flow h
  | .tagged _ _, h => texts_of_cites_flow h

theorem texts_of_cites_renderList : ∀ {vs : List Value} {part : String},
    part ∈ Value.renderList vs → Cites part.toList name →
      ∃ t ∈ Value.textsList vs, Cites t.toList name
  | v :: vs, part, hpart, h => by
    rw [Value.textsList]
    rcases List.mem_cons.mp hpart with rfl | hpart
    · obtain ⟨t, ht, h⟩ := texts_of_cites_render h
      exact ⟨t, List.mem_append_left _ ht, h⟩
    · obtain ⟨t, ht, h⟩ := texts_of_cites_renderList hpart h
      exact ⟨t, List.mem_append_right _ ht, h⟩

end

end Rendering

/-! ## Names that are read -/

namespace Template

/-- A reference cites its name. -/
theorem VariableRef.cites {p : Piece} {after : List Char} {n : String} (h : VariableRef p after)
    (hn : p.name? = some n) : Cites p.source n.toList := by
  cases h with
  | @bare name _ h =>
    cases hn
    rw [String.toList_ofList]
    exact ⟨h.name.word, [], by simp, List.infix_rfl⟩
  | @braced name _ h =>
    cases hn
    rw [String.toList_ofList]
    exact ⟨h.word, ['{'], by simp, List.IsPrefix.isInfix ⟨['}'], by simp [Piece.source]⟩⟩

/-- A template cites the names of its pieces. -/
theorem cites_of_mem_pieces {cs : List Char} {p : Piece} {n : String} (hp : p ∈ pieces cs)
    (hn : p.name? = some n) : Cites cs n.toList := by
  obtain ⟨l, r, hpieces⟩ := List.append_of_mem hp
  have hread : variableMarkup.Reads [] (l ++ p :: r) cs := hpieces ▸ reads_pieces [] cs
  have hsource : p.source <:+: cs := by
    refine ⟨l.flatMap Piece.source, r.flatMap Piece.source, ?_⟩
    have hcs : (l ++ p :: r).flatMap Piece.source = cs := hread.flatMap_source
    rw [← hcs, List.flatMap_append, List.flatMap_cons, List.append_assoc]
  -- a character has no name, so the piece is a reference that stands there
  rcases hread.ref_or_char with href | ⟨c, rfl⟩
  · exact (VariableRef.cites href hn).mono hsource
  · cases hn

theorem cites_of_mem_references {s n : String} (h : n ∈ references s) :
    Cites s.toList n.toList := by
  obtain ⟨p, hp, hn⟩ := List.mem_filterMap.mp h
  exact cites_of_mem_pieces hp hn

end Template

mutual

/-- The names that a value refers to occur in its texts. -/
theorem texts_of_mem_references : ∀ {v : Value} {n : String}, n ∈ v.references →
    ∃ t ∈ v.texts, n.toList <:+: t.toList
  | .text s, n, h => ⟨s, List.mem_cons_self, (Template.cites_of_mem_references h).name_isInfix⟩
  | .list items, n, h => by
    rw [Value.references] at h
    exact texts_of_mem_referencesList h
  | .mapping entries, n, h => by
    rw [Value.references] at h
    exact texts_of_mem_referencesEntries h
  | .null, _, h | .bool _, _, h | .int _, _, h | .float _, _, h | .tagged _ _, _, h => nomatch h

theorem texts_of_mem_referencesList : ∀ {vs : List Value} {n : String},
    n ∈ Value.referencesList vs → ∃ t ∈ Value.textsList vs, n.toList <:+: t.toList
  | v :: vs, n, h => by
    rw [Value.textsList]
    rcases List.mem_append.mp h with h | h
    · obtain ⟨t, ht, h⟩ := texts_of_mem_references h
      exact ⟨t, List.mem_append_left _ ht, h⟩
    · obtain ⟨t, ht, h⟩ := texts_of_mem_referencesList h
      exact ⟨t, List.mem_append_right _ ht, h⟩

theorem texts_of_mem_referencesEntries : ∀ {es : List (Value × Value)} {n : String},
    n ∈ Value.referencesEntries es → ∃ t ∈ Value.textsEntries es, n.toList <:+: t.toList
  | (k, v) :: es, n, h => by
    rw [Value.textsEntries]
    rcases List.mem_append.mp h with h | h
    · obtain ⟨t, ht, h⟩ := texts_of_mem_references h
      exact ⟨t, List.mem_append_left _ (List.mem_append_right _ ht), h⟩
    · obtain ⟨t, ht, h⟩ := texts_of_mem_referencesEntries h
      exact ⟨t, List.mem_append_right _ ht, h⟩

end

/-- So do those that its rendered text refers to. -/
theorem texts_of_mem_references_render {v : Value} {n : String}
    (h : n ∈ Template.references v.render) : ∃ t ∈ v.texts, n.toList <:+: t.toList := by
  obtain ⟨t, ht, hn⟩ := texts_of_cites_render (Template.cites_of_mem_references h)
  exact ⟨t, ht, hn.name_isInfix⟩

/-! ## Expressions -/

namespace Chars

theorem trim_isInfix (cs : List Char) : trim cs <:+: cs := by
  have hstart : trimStart cs <:+ cs := List.dropWhile_suffix _
  have hend : trim cs <+: trimStart cs := by
    rw [trim, trimEnd, ← List.reverse_suffix, List.reverse_reverse]
    exact List.dropWhile_suffix _
  exact hend.isInfix.trans hstart.isInfix

theorem stripPrefix?_suffix {p cs rest : List Char} (h : stripPrefix? p cs = some rest) :
    rest <:+ cs := eq_append_of_stripPrefix? h ▸ List.suffix_append p rest

theorem Refers.name_isInfix {N : List Char → Prop} {ref name : List Char}
    (h : Refers N ref name) : name <:+: ref := by
  cases h with
  | bare _ => exact (List.suffix_cons _ _).isInfix
  | braced _ => exact ⟨['$', '{'], ['}'], by simp⟩

end Chars

theorem Text.stripPrefix?_suffix {p s rest : String} (h : stripPrefix? p s = some rest) :
    rest.toList <:+ s.toList := by
  obtain ⟨cs, hcs, rfl⟩ := Option.map_eq_some_iff.mp h
  rw [String.toList_ofList]
  exact Chars.stripPrefix?_suffix hcs

/-- A name that is read is written in the reference. -/
theorem infix_of_variableName {reference n : String} (h : variableName reference = .ok n) :
    n.toList <:+: reference.toList := by
  obtain ⟨q, -, ref, htrim, href⟩ := refers_of_variableName h
  have hquoted : ref <:+: Chars.trim reference.toList := ⟨q, q, by rw [htrim, List.append_assoc]⟩
  exact href.name_isInfix.trans (hquoted.trans (Chars.trim_isInfix _))

/-- The text of a query: the command, or the name that is read. -/
def Query.text : Query → String
  | .command t | .variable t | .defined t => t

theorem infix_of_readQuery {raw : String} {cs : List Char} {q : Query}
    (h : Query.read raw cs = .ok q) : q.text.toList <:+: cs := by
  have hname : ∀ {rest : List Char} {n : String}, variableName (String.ofList rest) = .ok n →
      n.toList <:+: rest := fun hn => by
    have hinfix := infix_of_variableName hn
    rwa [String.toList_ofList] at hinfix
  cases Query.readFrom_of_read h with
  | command line =>
    rw [Query.text, String.toList_ofList]
    exact ⟨"$(".toList, [')'], by rw [List.append_assoc]⟩
  | reference _ hn => exact hname hn
  | defined hn => exact (hname hn).trans (List.suffix_append _ _).isInfix

/-- What an expression asks for is written in it. -/
theorem infix_of_read {raw : String} {e : Expr} (h : Expr.read raw = .ok e) :
    e.query.text.toList <:+: raw.toList := by
  obtain ⟨cs, hread, ⟨-, htrim⟩ | ⟨-, -, b, -, htrim⟩⟩ := Expr.exists_of_read h
  · exact (infix_of_readQuery hread).trans (htrim ▸ Chars.trim_isInfix _)
  · have hcs : cs <:+ Chars.trim raw.toList := by
      rw [htrim, ← List.append_assoc]
      exact List.suffix_append _ _
    exact (infix_of_readQuery hread).trans (hcs.isInfix.trans (Chars.trim_isInfix _))

namespace LoopHeader

theorem Layout.subject_isSuffix {R : List Char → List Char → Prop} {first subject cs : List Char}
    {second : Option (List Char)} (h : Layout R first second subject cs) : subject <:+ cs := by
  obtain ⟨-, -, -, -, -⟩ := h
  simp only [← List.append_assoc]
  exact List.suffix_append _ _

/-- The expression of a loop is written in its header. -/
theorem expression_isInfix {header : String} {l : LoopHeader} (h : read header = .ok l) :
    l.expression.toList <:+: header.toList :=
  (read_eq_ok_iff.mp h).subject_isSuffix.isInfix.trans (Chars.trim_isInfix _)

end LoopHeader

/-! ## Entries at every depth -/

theorem Value.texts_untagged (v : Value) : v.untagged.texts ⊆ v.texts := by
  fun_induction Value.untagged v with
  | case1 t v ih => exact fun s hs => List.mem_cons_of_mem _ (ih hs)
  | case2 v _ => exact List.Subset.refl _

theorem Entry.texts_ofItem {item : Value} {e : Entry} (h : Entry.ofItem item = .ok e) :
    e.texts ⊆ item.texts := by
  unfold Entry.ofItem at h
  split at h
  · cases h
  · rename_i key argument hm
    split at h
    · rename_i tag htag
      cases h
      have hkey : tag ∈ key.texts := by
        refine key.texts_untagged ?_
        unfold Value.asText? at htag
        split at htag <;> cases htag
        rename_i hu
        rw [hu]
        exact List.mem_cons_self
      refine List.Subset.trans ?_ item.texts_untagged
      unfold Value.asMapping? at hm
      split at hm <;> cases hm
      rename_i hu
      rw [hu]
      intro s hs
      simp only [Value.texts, Value.textsEntries, List.append_nil, List.mem_append]
      rcases List.mem_cons.mp hs with rfl | hs
      · exact .inl hkey
      · exact .inr hs
    · cases h
  · cases h

theorem Section.texts_ofItems : ∀ {items : List Value} {s : Section},
    Section.ofItems items = .ok s → s.texts ⊆ Value.textsList items
  | [], _, h => by
    cases h
    exact List.Subset.refl _
  | item :: rest, s, h => by
    unfold Section.ofItems at h
    rcases he : Entry.ofItem item with x | e
    · simp [he, bind, Except.bind] at h
    · rcases hr : Section.ofItems rest with x | es
      · simp [he, hr, bind, Except.bind] at h
      · simp only [he, hr, bind, Except.bind, pure, Except.pure, Except.ok.injEq] at h
        subst h
        rw [Section.texts, List.flatMap_cons, Value.textsList]
        exact List.append_subset.mpr
          ⟨List.Subset.trans (Entry.texts_ofItem he) (List.subset_append_left _ _),
            List.Subset.trans (Section.texts_ofItems hr) (List.subset_append_right _ _)⟩

/-- The texts of a body are texts of its entry. -/
theorem Entry.texts_body {e : Entry} {b : Section} (h : e.body = .ok b) :
    Section.texts b ⊆ e.texts := by
  unfold Entry.body at h
  rcases hv : Section.ofValue e.argument with x | s <;> rw [hv] at h <;> cases h
  refine List.Subset.trans ?_ (List.subset_cons_self _ _)
  unfold Section.ofValue at hv
  split at hv
  · cases hv
    exact List.nil_subset _
  · rename_i items harg
    rw [harg]
    exact Section.texts_ofItems hv
  · cases hv

/-- The texts of entries at every depth are texts of the section. -/
theorem texts_nested (s : Section) : ∀ e ∈ s.nested, e.texts ⊆ Section.texts s := by
  match s with
  | [] =>
    rw [Section.nested_nil]
    nofun
  | e :: rest =>
    have hcons : Section.texts (e :: rest) = e.texts ++ Section.texts rest := List.flatMap_cons
    rw [hcons, Section.nested_cons]
    intro f hf
    rcases List.mem_cons.mp hf with rfl | hf
    · exact List.subset_append_left _ _
    rcases List.mem_append.mp hf with hf | hf
    · split at hf
      · split at hf
        · rename_i b hb
          have hlt := Entry.size_body_lt hb
          exact List.Subset.trans (texts_nested b f hf)
            (List.Subset.trans (Entry.texts_body hb) (List.subset_append_left _ _))
        · cases hf
      · cases hf
    · exact List.Subset.trans (texts_nested rest f hf) (List.subset_append_right _ _)
termination_by Section.size s
decreasing_by
  · simp only [Section.size_cons]
    omega
  · simp only [Section.size_cons, Entry.size]
    omega

end Scaffold
