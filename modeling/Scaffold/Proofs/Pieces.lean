import Scaffold.Proofs.Spelling

/-!
# Texts with references

Templates refer to variables and command lines to files. In both, a text is read from left to right
as pieces: a reference where one stands, and a character that stands for itself anywhere else. What
counts as a reference is up to the text around it, so it is said here as a relation between a piece,
what is in front of it and what is behind it, without the readers.

* `Markup`: a way to write references, by the character they begin with and the places they stand.
* `Markup.Reads`: a text as pieces, with what is in front of it.
* `Markup.fill`: the text of pieces, with what they refer to put in.
* `variableMarkup`, `fileMarkup`: references to variables and to files.

Results:
* **`Reads.unique`**: a text is read in one way.
* **`Reads.exists_split`**: every place where a reference stands is a piece of the reading.
* **`Reads.append`**, **`Reads.join`**: where texts are read apart.
* **`reads_pieces_iff`**, **`reads_filePieces_iff`**: the readers give the reading.
* `variable_separates_of_blank`, `file_separates_of_blank`: texts are read apart at a blank.
-/

namespace Scaffold

open Chars

namespace Template

/-! ## Markups -/

/-- A way to write references in a text. A piece of such a text is a reference or a character. -/
structure Markup (P : Type) where
  /-- The character that references begin with, and that comes nowhere else in one. -/
  sigil : Char
  char : Char → P
  source : P → List Char
  /-- Whether a piece is a reference, with what is in front of it and what is behind it. -/
  Ref : List Char → P → List Char → Prop
  source_char (c : Char) : source (char c) = [c]
  source_ref {before after : List Char} {p : P} (h : Ref before p after) :
    ∃ tail, source p = sigil :: tail ∧ sigil ∉ tail
  ref_unique {before after after' : List Char} {p q : P} (hp : Ref before p after)
    (hq : Ref before q after') (h : source p ++ after = source q ++ after') : p = q

namespace Markup

variable {P : Type} {M : Markup P} {before cs ds : List Char} {ps qs : List P}

/-- A reference comes first. -/
def RefAt (M : Markup P) (before cs : List Char) : Prop :=
  ∃ p after, M.Ref before p after ∧ cs = M.source p ++ after

/-- A text as pieces: references where they stand, and characters where none does. -/
inductive Reads (M : Markup P) : List Char → List P → List Char → Prop
  | nil {before : List Char} : Reads M before [] []
  | ref {before after : List Char} {p : P} {ps : List P} (h : M.Ref before p after)
    (hrest : Reads M (before ++ M.source p) ps after) :
    Reads M before (p :: ps) (M.source p ++ after)
  | char {before after : List Char} {c : Char} {ps : List P} (h : ¬ M.RefAt before (c :: after))
    (hrest : Reads M (before ++ [c]) ps after) : Reads M before (M.char c :: ps) (c :: after)

theorem RefAt.head (h : M.RefAt before cs) : cs.head? = some M.sigil := by
  obtain ⟨p, after, hp, rfl⟩ := h
  obtain ⟨tail, htail, -⟩ := M.source_ref hp
  rw [htail]
  rfl

/-- Reading loses nothing. -/
theorem Reads.flatMap_source (h : M.Reads before ps cs) : ps.flatMap M.source = cs := by
  induction h with
  | nil => rfl
  | ref _ _ ih => rw [List.flatMap_cons, ih]
  | char _ _ ih =>
    rw [List.flatMap_cons, ih, M.source_char]
    rfl

/-- **A text is read in one way.** -/
theorem Reads.unique (h : M.Reads before ps cs) (h' : M.Reads before qs cs) : ps = qs := by
  induction h generalizing qs with
  | nil =>
    generalize hcs : ([] : List Char) = ds at h'
    cases h' with
    | nil => rfl
    | ref hq _ =>
      obtain ⟨tail, htail, -⟩ := M.source_ref hq
      rw [htail] at hcs
      cases hcs
    | char _ _ => cases hcs
  | @ref before after p ps hp _ ih =>
    generalize hcs : M.source p ++ after = ds at h'
    cases h' with
    | nil =>
      obtain ⟨tail, htail, -⟩ := M.source_ref hp
      rw [htail] at hcs
      cases hcs
    | ref hq hrest =>
      obtain rfl := M.ref_unique hp hq hcs
      obtain rfl := List.append_cancel_left hcs
      rw [ih hrest]
    | char hnone _ => exact absurd ⟨p, after, hp, hcs.symm⟩ hnone
  | @char before after c ps hnone _ ih =>
    generalize hcs : c :: after = ds at h'
    cases h' with
    | nil => cases hcs
    | ref hq _ => exact absurd ⟨_, _, hq, hcs⟩ hnone
    | char _ hrest =>
      cases hcs
      rw [ih hrest]

/-- Where `ds` begins with a character that is not in `tail`, all of `tail` is in front of `ds`. -/
theorem exists_append_of_head_notMem {d : Char} {tail after : List Char} (hcs : cs ≠ [])
    (hds : ∀ c ∈ ds.head?, c ∉ tail) (h : d :: tail ++ after = cs ++ ds) :
    ∃ rest, cs = d :: tail ++ rest ∧ after = rest ++ ds := by
  rcases List.append_eq_append_iff.mp h with ⟨rest, hrest, hafter⟩ | ⟨rest, hrest, hafter⟩
  · exact ⟨rest, hrest, hafter⟩
  · cases rest with
    | nil => exact ⟨[], by simpa using hrest.symm, by simpa using hafter.symm⟩
    | cons c rest =>
      obtain ⟨e, cs, rfl⟩ := List.exists_cons_of_ne_nil hcs
      have htail : tail = cs ++ c :: rest := (List.cons.inj hrest).2
      refine absurd ?_ (hds c (by rw [hafter]; rfl))
      rw [htail]
      exact List.mem_append_right _ List.mem_cons_self

/-- **Every place where a reference stands** is a piece of the reading. -/
theorem Reads.exists_split {u w : List Char} {p : P} (h : M.Reads before ps cs)
    (hcs : cs = u ++ (M.source p ++ w)) (hp : M.Ref (before ++ u) p w) :
    ∃ l r, ps = l ++ p :: r ∧ l.flatMap M.source = u ∧ r.flatMap M.source = w := by
  obtain ⟨tail, htail, -⟩ := M.source_ref hp
  induction h generalizing u with
  | nil =>
    rw [htail] at hcs
    simp at hcs
  | @ref before after q qs hq hrest ih =>
    cases u with
    | nil =>
      rw [List.append_nil] at hp
      obtain rfl := M.ref_unique hq hp hcs
      obtain rfl := List.append_cancel_left hcs
      exact ⟨[], qs, rfl, rfl, hrest.flatMap_source⟩
    | cons c u =>
      -- the next reference begins behind this one
      obtain ⟨tail', htail', hsigil⟩ := M.source_ref hq
      have hhead : ∀ c ∈ (M.source p ++ w).head?, c ∉ tail' := by
        rw [htail]
        rintro c ⟨⟩
        exact hsigil
      rw [htail'] at hcs
      obtain ⟨rest, hu, hafter⟩ := exists_append_of_head_notMem (List.cons_ne_nil _ _) hhead hcs
      rw [hu, ← htail'] at hp ⊢
      obtain ⟨l, r, rfl, hl, hr⟩ := ih hafter (by rwa [List.append_assoc])
      exact ⟨q :: l, r, rfl, by rw [List.flatMap_cons, hl], hr⟩
  | @char before after c ps hnone _ ih =>
    cases u with
    | nil =>
      rw [List.append_nil] at hp
      exact absurd ⟨p, w, hp, hcs⟩ hnone
    | cons d u =>
      obtain ⟨rfl, hafter⟩ := List.cons.inj hcs
      obtain ⟨l, r, rfl, hl, hr⟩ := ih hafter (by rwa [List.append_assoc])
      exact ⟨M.char c :: l, r, rfl, by rw [List.flatMap_cons, hl, M.source_char]; rfl, hr⟩

/-- Each piece of a reading is a reference that stands there, or a character. -/
theorem Reads.ref_or_char {l r : List P} {p : P} (h : M.Reads before (l ++ p :: r) cs) :
    M.Ref (before ++ l.flatMap M.source) p (r.flatMap M.source) ∨ ∃ c, p = M.char c := by
  generalize hps : l ++ p :: r = ps at h
  induction h generalizing l with
  | nil => simp at hps
  | ref hq hrest ih =>
    cases l with
    | nil =>
      cases hps
      left
      rw [hrest.flatMap_source]
      simpa using hq
    | cons a l =>
      cases hps
      simpa using ih rfl
  | @char _ _ c _ _ _ ih =>
    cases l with
    | nil =>
      cases hps
      exact .inr ⟨c, rfl⟩
    | cons a l =>
      cases hps
      simpa [M.source_char] using ih rfl

/-- A text in which no reference can begin. -/
theorem reads_of_notMem (h : M.sigil ∉ cs) : M.Reads before (cs.map M.char) cs := by
  induction cs generalizing before with
  | nil => exact .nil
  | cons c cs ih =>
    rw [List.mem_cons, not_or] at h
    refine .char (fun href => h.1 ?_) (ih h.2)
    exact (Option.some.inj href.head).symm

/-! ### Filling in -/

/-- The text of pieces, with what is given for a piece put in its place. -/
def fill (M : Markup P) (value? : P → Option (List Char)) (ps : List P) : List Char :=
  ps.flatMap fun p => (value? p).getD (M.source p)

section

variable {value? : P → Option (List Char)}

theorem fill_append : M.fill value? (ps ++ qs) = M.fill value? ps ++ M.fill value? qs :=
  List.flatMap_append

theorem fill_cons {p : P} :
    M.fill value? (p :: ps) = (value? p).getD (M.source p) ++ M.fill value? ps :=
  List.flatMap_cons

theorem fill_join {c : Char} (hc : value? (M.char c) = none) :
    M.fill value? (ps ++ M.char c :: qs) = M.fill value? ps ++ ([c] ++ M.fill value? qs) := by
  rw [fill_append, fill_cons, hc, Option.getD_none, M.source_char]

/-- Where nothing is given, a text stays as it is. -/
theorem Reads.fill_of_none (h : M.Reads before ps cs) (hvalue : ∀ p ∈ ps, value? p = none) :
    M.fill value? ps = cs := by
  have hsource : ∀ p ∈ ps, (value? p).getD (M.source p) = M.source p := fun p hp => by
    rw [hvalue p hp, Option.getD_none]
  rw [fill, List.flatMap_congr hsource, h.flatMap_source]

end

/-! ### Reading apart -/

/-- A text that changes nothing in what is in front of it. -/
structure Stops (M : Markup P) (ds : List Char) : Prop where
  behind {before after : List Char} {p : P} : M.Ref before p (after ++ ds) ↔ M.Ref before p after
  inside {before after : List Char} {p : P} (h : M.Ref before p after) :
    ∀ c ∈ ds.head?, c ∉ (M.source p).tail

theorem RefAt.of_append (hds : M.Stops ds) (hcs : cs ≠ []) (h : M.RefAt before (cs ++ ds)) :
    M.RefAt before cs := by
  obtain ⟨p, after, hp, heq⟩ := h
  obtain ⟨tail, htail, -⟩ := M.source_ref hp
  have hinside : ∀ c ∈ ds.head?, c ∉ tail := by simpa [htail] using hds.inside hp
  rw [htail] at heq
  obtain ⟨rest, rfl, rfl⟩ := exists_append_of_head_notMem hcs hinside heq.symm
  exact ⟨p, rest, hds.behind.mp hp, by rw [htail]⟩

/-- **A text in front of one that stops it** is read by itself. -/
theorem Reads.append (hds : M.Stops ds) (hps : M.Reads before ps cs)
    (hqs : M.Reads (before ++ cs) qs ds) : M.Reads before (ps ++ qs) (cs ++ ds) := by
  induction hps with
  | nil => simpa using hqs
  | ref h _ ih =>
    rw [List.cons_append, List.append_assoc]
    exact .ref (hds.behind.mpr h) (ih (by rwa [List.append_assoc]))
  | char h _ ih =>
    refine .char (fun href => h (href.of_append hds (List.cons_ne_nil _ _))) (ih ?_)
    rwa [List.append_assoc]

/-- A text behind one that makes no difference to its references is read by itself. -/
theorem Reads.front {u : List Char}
    (hu : ∀ {before p after}, M.Ref (u ++ before) p after ↔ M.Ref before p after)
    (h : M.Reads before ps cs) : M.Reads (u ++ before) ps cs := by
  induction h with
  | nil => exact .nil
  | ref h _ ih => exact .ref (hu.mpr h) (by rwa [List.append_assoc])
  | char h _ ih =>
    refine .char ?_ (by rwa [List.append_assoc])
    rintro ⟨p, after, hp, heq⟩
    exact h ⟨p, after, hu.mp hp, heq⟩

/-- A character that what is in front of it and what is behind it are read apart at. -/
structure Separates (M : Markup P) (c : Char) : Prop where
  ne_sigil : c ≠ M.sigil
  stops (ds : List Char) : M.Stops (c :: ds)
  front {u before after : List Char} {p : P} :
    M.Ref (u ++ [c] ++ before) p after ↔ M.Ref before p after

/-- **Texts with such a character between them** are read apart. -/
theorem Reads.join {c : Char} (hc : M.Separates c) (hps : M.Reads [] ps cs)
    (hqs : M.Reads [] qs ds) : M.Reads [] (ps ++ M.char c :: qs) (cs ++ c :: ds) := by
  refine hps.append (hc.stops ds) (.char (fun href => ?_) ?_)
  · exact hc.ne_sigil (Option.some.inj href.head)
  · have hfront := hqs.front (u := cs ++ [c]) hc.front
    rwa [List.append_nil] at hfront

end Markup

/-! ## Words -/

/-- A word that goes on as long as it can. -/
structure Longest (name after : List Char) : Prop where
  name : Name name
  ends : ∀ c ∈ after.head?, isWord c = false

section

variable {name name' after after' cs ds : List Char}

theorem longest_takeWhile (h : cs.takeWhile isWord ≠ []) :
    Longest (cs.takeWhile isWord) (cs.dropWhile isWord) where
  name := ⟨h, fun _ => List.mem_takeWhile_imp⟩
  ends c hc := by
    have hhead := List.head?_dropWhile_not isWord cs
    rw [show (cs.dropWhile isWord).head? = some c from hc] at hhead
    simpa using hhead

theorem Longest.unique (h : Longest name after) (h' : Longest name' after')
    (heq : name ++ after = name' ++ after') : name = name' := by
  rw [← (h.name.span_append h.ends).1, heq, (h'.name.span_append h'.ends).1]

/-- A word ends where it did, with a text behind it that begins with no word character. -/
theorem longest_append_iff (hds : ∀ c ∈ ds.head?, isWord c = false) :
    Longest name (after ++ ds) ↔ Longest name after := by
  cases after with
  | nil => exact ⟨fun h => ⟨h.name, nofun⟩, fun h => ⟨h.name, hds⟩⟩
  | cons c after => exact ⟨fun h => ⟨h.name, h.ends⟩, fun h => ⟨h.name, h.ends⟩⟩

end

/-! ## References to variables -/

/-- A reference to a variable, bare or in braces, with what is behind it. -/
inductive VariableRef : Piece → List Char → Prop
  | bare {name after : List Char} (h : Longest name after) : VariableRef (.bare name) after
  | braced {name after : List Char} (h : Name name) : VariableRef (.braced name) after

theorem VariableRef.source_eq {p : Piece} {after : List Char} (h : VariableRef p after) :
    ∃ tail, p.source = '$' :: tail ∧ ∀ c ∈ tail, isWord c = true ∨ c = '{' ∨ c = '}' := by
  cases h with
  | @bare name _ h => exact ⟨name, rfl, fun c hc => .inl (h.name.word c hc)⟩
  | @braced name _ h =>
    refine ⟨'{' :: (name ++ ['}']), rfl, fun c hc => ?_⟩
    simp only [List.mem_cons, List.mem_append, List.not_mem_nil, or_false] at hc
    rcases hc with rfl | hc | rfl
    · exact .inr (.inl rfl)
    · exact .inl (h.word c hc)
    · exact .inr (.inr rfl)

theorem VariableRef.unique {p q : Piece} {after after' : List Char} (hp : VariableRef p after)
    (hq : VariableRef q after') (h : p.source ++ after = q.source ++ after') : p = q := by
  have hclosed : ∀ {name : List Char}, Name name → ∀ after, Longest name ('}' :: after) :=
    fun hname _ => ⟨hname, by rintro c ⟨⟩; decide⟩
  -- a word does not begin with a brace
  have hbrace : ∀ {name after rest : List Char}, Name name → name ++ after ≠ '{' :: rest := by
    intro name after rest hname heq
    obtain ⟨c, tail, rfl⟩ := List.exists_cons_of_ne_nil hname.nonempty
    exact hname.not_mem (c := '{') (by decide) ((List.cons.inj heq).1 ▸ List.mem_cons_self)
  cases hp with
  | bare hname =>
    cases hq with
    | bare hname' => rw [hname.unique hname' (List.cons.inj h).2]
    | braced _ => exact absurd (List.cons.inj h).2 (hbrace hname.name)
  | braced hname =>
    cases hq with
    | bare hname' => exact absurd (List.cons.inj h).2.symm (hbrace hname'.name)
    | braced hname' =>
      simp only [Piece.source, List.cons_append, List.append_assoc, List.nil_append,
        List.cons.injEq, true_and] at h
      rw [(hclosed hname _).unique (hclosed hname' _) h]

/-- References to variables in templates. -/
def variableMarkup : Markup Piece where
  sigil := '$'
  char := .char
  source := Piece.source
  Ref _ p after := VariableRef p after
  source_char _ := rfl
  source_ref h := by
    obtain ⟨tail, htail, hchars⟩ := h.source_eq
    refine ⟨tail, htail, fun hmem => ?_⟩
    exact absurd (hchars '$' hmem) (by decide)
  ref_unique hp hq h := hp.unique hq h

/-- What begins with neither a word nor a brace changes nothing in what is in front of it. -/
theorem variable_stops_of_head {ds : List Char}
    (hds : ∀ c ∈ ds.head?, isWord c = false ∧ c ≠ '{' ∧ c ≠ '}') : variableMarkup.Stops ds where
  behind := by
    intro _ after p
    have hword : ∀ {name}, Longest name (after ++ ds) ↔ Longest name after :=
      longest_append_iff fun c hc => (hds c hc).1
    constructor
    · intro h
      cases h with
      | bare h => exact .bare (hword.mp h)
      | braced h => exact .braced h
    · intro h
      cases h with
      | bare h => exact .bare (hword.mpr h)
      | braced h => exact .braced h
  inside := by
    intro _ _ p h c hc hmem
    obtain ⟨tail, htail, hchars⟩ := VariableRef.source_eq h
    obtain ⟨hword, hopen, hclose⟩ := hds c hc
    rw [show variableMarkup.source p = '$' :: tail from htail, List.tail_cons] at hmem
    rcases hchars c hmem with h | h | h
    · rw [hword] at h
      cases h
    · exact hopen h
    · exact hclose h

theorem variable_separates_of_blank {c : Char} (hc : isBlank c = true) :
    variableMarkup.Separates c where
  ne_sigil := ne_of_isBlank hc (by decide)
  stops ds := by
    refine variable_stops_of_head ?_
    rintro d ⟨⟩
    exact ⟨isWord_of_isBlank hc, ne_of_isBlank hc (by decide), ne_of_isBlank hc (by decide)⟩
  front := Iff.rfl

/-- Behind a dollar sign, a word or a word in braces makes a reference. -/
theorem refAt_dollar_iff {before rest : List Char} :
    variableMarkup.RefAt before ('$' :: rest) ↔
      rest.takeWhile isWord ≠ [] ∨
        ∃ name after, Name name ∧ rest = '{' :: (name ++ '}' :: after) := by
  constructor
  · rintro ⟨p, after, hp, heq⟩
    cases hp with
    | @bare name _ h =>
      have hrest : rest = name ++ after := (List.cons.inj heq).2
      left
      rw [hrest, (h.name.span_append h.ends).1]
      exact h.name.nonempty
    | @braced name _ h =>
      refine .inr ⟨name, after, h, ?_⟩
      rw [(List.cons.inj heq).2]
      simp
  · rintro (hne | ⟨name, after, hname, rfl⟩)
    · refine ⟨_, _, .bare (longest_takeWhile hne), ?_⟩
      exact congrArg _ List.takeWhile_append_dropWhile.symm
    · refine ⟨_, after, .braced hname, ?_⟩
      simp [variableMarkup, Piece.source]

/-- The reader gives a reading. -/
theorem reads_pieces (before cs : List Char) : variableMarkup.Reads before (pieces cs) cs := by
  fun_induction pieces cs generalizing before with
  | case1 => exact .nil
  | case2 rest name after h ih =>
    simp only [Bool.and_eq_true, Bool.not_eq_true', List.isEmpty_eq_false_iff, beq_iff_eq] at h
    have hafter : after = '}' :: after.tail := List.eq_cons_of_mem_head? h.2
    have hrest : rest = name ++ '}' :: after.tail := by
      rw [← hafter]
      exact List.takeWhile_append_dropWhile.symm
    have hsource : variableMarkup.source (.braced name) ++ after.tail = '$' :: '{' :: rest := by
      rw [hrest]
      simp [variableMarkup, Piece.source]
    rw [← hsource]
    exact .ref (.braced (longest_takeWhile h.1).name) (ih _)
  | case3 rest name after h ih =>
    refine .char (fun href => ?_) (ih _)
    rcases refAt_dollar_iff.mp href with hword | ⟨name', after', hname', hrest⟩
    · exact hword rfl
    · have hends : ∀ c ∈ ('}' :: after').head?, isWord c = false := by
        rintro c ⟨⟩
        decide
      obtain ⟨htake, hdrop⟩ := hname'.span_append hends
      cases hrest
      refine h ?_
      simp only [name, after, htake, hdrop]
      simpa using hname'.nonempty
  | case4 rest hopen name h ih =>
    have hname : name ≠ [] := by simpa using h
    have hsource : variableMarkup.source (.bare name) ++ rest.dropWhile isWord = '$' :: rest :=
      congrArg _ List.takeWhile_append_dropWhile
    rw [← hsource]
    exact .ref (.bare (longest_takeWhile hname)) (ih _)
  | case5 rest hopen name h ih =>
    refine .char (fun href => ?_) (ih _)
    rcases refAt_dollar_iff.mp href with hword | ⟨name', after', -, hrest⟩
    · have hname : name ≠ [] := hword
      exact h (by simpa using hname)
    · exact hopen _ hrest
  | case6 c rest hbraced hbare ih =>
    exact .char (fun href => hbare (Option.some.inj href.head)) (ih _)

/-- **The reading of a template.** -/
theorem reads_pieces_iff {before cs : List Char} {ps : List Piece} :
    variableMarkup.Reads before ps cs ↔ ps = pieces cs :=
  ⟨fun h => h.unique (reads_pieces before cs), fun h => h ▸ reads_pieces before cs⟩

/-! ## References to files -/

/-- A place at the start of a text or behind a blank. -/
def Opens (before : List Char) : Prop := ∀ c ∈ before.getLast?, isBlank c = true

theorem opens_nil : Opens [] := nofun

theorem opens_append_singleton {before : List Char} {c : Char} :
    Opens (before ++ [c]) ↔ isBlank c = true := by
  simp [Opens]

theorem opens_append {before cs : List Char} (hcs : cs ≠ []) : Opens (before ++ cs) ↔ Opens cs := by
  rw [Opens, Opens, List.getLast?_append_of_ne_nil _ hcs]

theorem not_opens_of_name {name : List Char} (h : Name name) (cs : List Char) :
    ¬ Opens (cs ++ name) := by
  intro hopens
  have hne : cs ++ name ≠ [] := by simp [h.nonempty]
  have hflush := h.flush_reverse cs
  rw [Flush, List.head?_reverse, List.getLast?_eq_some_getLast hne] at hflush
  rw [Opens, List.getLast?_eq_some_getLast hne] at hopens
  have hblank := hopens _ rfl
  rw [hflush _ rfl] at hblank
  cases hblank

/-- A reference to a file, with what is in front of it and what is behind it. -/
inductive FileRef : List Char → FilePiece → List Char → Prop
  | intro {before name after : List Char} (hbefore : Opens before) (h : Longest name after) :
    FileRef before (.file name) after

/-- References to files in command lines. -/
def fileMarkup : Markup FilePiece where
  sigil := '*'
  char := .char
  source := FilePiece.source
  Ref := FileRef
  source_char _ := rfl
  source_ref := by
    rintro _ _ _ ⟨-, h⟩
    exact ⟨_, rfl, h.name.not_mem (by decide)⟩
  ref_unique := by
    rintro _ _ _ _ _ ⟨-, h⟩ ⟨-, h'⟩ heq
    rw [h.unique h' (List.cons.inj heq).2]

theorem file_stops_of_head {ds : List Char} (hds : ∀ c ∈ ds.head?, isWord c = false) :
    fileMarkup.Stops ds where
  behind := by
    intro _ _ _
    constructor
    · rintro ⟨hbefore, h⟩
      exact .intro hbefore ((longest_append_iff hds).mp h)
    · rintro ⟨hbefore, h⟩
      exact .intro hbefore ((longest_append_iff hds).mpr h)
  inside := by
    rintro _ _ _ ⟨-, h⟩ c hc
    exact h.name.not_mem (hds c hc)

theorem file_separates_of_blank {c : Char} (hc : isBlank c = true) : fileMarkup.Separates c where
  ne_sigil := ne_of_isBlank hc (by decide)
  stops ds := file_stops_of_head (by rintro d ⟨⟩; exact isWord_of_isBlank hc)
  front := by
    intro u before after p
    have hopens : Opens (u ++ [c] ++ before) ↔ Opens before := by
      cases before with
      | nil =>
        rw [List.append_nil, opens_append_singleton]
        exact iff_of_true hc opens_nil
      | cons d before => exact opens_append (List.cons_ne_nil _ _)
    constructor
    · rintro ⟨hbefore, h⟩
      exact .intro (hopens.mp hbefore) h
    · rintro ⟨hbefore, h⟩
      exact .intro (hopens.mpr hbefore) h

/-- The reader gives a reading, if it is told what is in front. -/
theorem reads_filePieces {before : List Char} {open_ : Bool} (hopen : open_ = true ↔ Opens before)
    (cs : List Char) : fileMarkup.Reads before (filePieces open_ cs) cs := by
  fun_induction filePieces open_ cs generalizing before with
  | case1 => exact .nil
  | case2 open_ c rest h ih =>
    simp only [Bool.and_eq_true, beq_iff_eq, Bool.not_eq_true', List.isEmpty_eq_false_iff] at h
    obtain ⟨⟨hopened, rfl⟩, hname⟩ := h
    have hlongest := longest_takeWhile hname
    have hsource : fileMarkup.source (.file (rest.takeWhile isWord)) ++ rest.dropWhile isWord =
        '*' :: rest := congrArg _ List.takeWhile_append_dropWhile
    have hbehind : false = true ↔ Opens (before ++ '*' :: rest.takeWhile isWord) := by
      have hclosed := not_opens_of_name hlongest.name (before ++ ['*'])
      rw [List.append_assoc, List.singleton_append] at hclosed
      exact iff_of_false Bool.false_ne_true hclosed
    rw [← hsource]
    exact .ref (.intro (hopen.mp hopened) hlongest) (ih hbehind)
  | case3 open_ c rest h ih =>
    refine .char ?_ (ih opens_append_singleton.symm)
    rintro ⟨_, after, ⟨hbefore, hlongest⟩, heq⟩
    rename_i name
    obtain ⟨rfl, hrest⟩ : c = '*' ∧ rest = name ++ after := List.cons.inj heq
    refine h ?_
    rw [hopen.mpr hbefore, hrest, (hlongest.name.span_append hlongest.ends).1]
    simpa using hlongest.name.nonempty

/-- **The reading of a command line.** -/
theorem reads_filePieces_iff {cs : List Char} {ps : List FilePiece} :
    fileMarkup.Reads [] ps cs ↔ ps = filePieces true cs := by
  have hread : fileMarkup.Reads [] (filePieces true cs) cs :=
    reads_filePieces (iff_of_true rfl opens_nil) cs
  exact ⟨fun h => h.unique hread, fun h => h ▸ hread⟩

end Template

end Scaffold
