import Scaffold.Proofs.Pieces
import Scaffold.Proofs.Reading

/-!
# Templates are filled in once

A template is read into pieces before any variable is looked at, and each piece gives its text by
itself. So the text of a variable is never read for references, and two references are filled in
the same way whatever they give.

* `Piece.value?`: what is put for a piece, if it refers to a variable that is set.
* `OnePass`: what it is to fill in a template with one pass over its pieces.

Results:
* `pieces_append_ref`: what is in front of a reference and what is behind it are read by themselves.
* `interpolate_append_ref`, `interpolate_append_blank`: texts are filled in apart around a
  reference, and around a blank.
* **`interpolate_one_pass`**: every template has one reading, and is filled in with one pass over
  it.
-/

namespace Scaffold

namespace Template

variable {vars vars' : Vars} {p : Piece}

/-- The text of the variable that a piece refers to, if it is set. -/
def Piece.value? (vars : Vars) (p : Piece) : Option (List Char) :=
  p.name?.bind fun n => (vars.get? n).map fun v => v.render.toList

/-- A piece gives the text of its variable, or stays as it is written. -/
theorem Piece.expand_eq (vars : Vars) (p : Piece) :
    p.expand vars = (p.value? vars).getD p.source := by
  cases p with
  | char c => rfl
  | bare name | braced name =>
    simp only [Piece.expand, Piece.value?, Piece.name?, Option.bind_some]
    cases vars.get? (String.ofList name) <;> rfl

theorem interpolate_eq_fill (vars : Vars) (s : String) :
    interpolate vars s =
      String.ofList (variableMarkup.fill (Piece.value? vars) (pieces s.toList)) := by
  rw [interpolate, funext (Piece.expand_eq vars)]
  rfl

theorem Piece.value?_of_unset (h : ∀ n, p.name? = some n → vars.get? n = none) :
    p.value? vars = none := by
  rcases hname : p.name? with _ | n
  · rw [Piece.value?, hname]
    rfl
  · rw [Piece.value?, hname, Option.bind_some, h n hname]
    rfl

/-! ## Reading apart -/

/-- What is in front of a reference and what is behind it are read by themselves. -/
theorem pieces_append_ref {after : List Char} (h : VariableRef p after) (before : List Char) :
    pieces (before ++ (p.source ++ after)) = pieces before ++ p :: pieces after := by
  have hstops : variableMarkup.Stops (p.source ++ after) := by
    refine variable_stops_of_head ?_
    obtain ⟨tail, htail, -⟩ := h.source_eq
    rw [htail]
    rintro c ⟨⟩
    decide
  have hread := (reads_pieces [] before).append hstops (.ref h (reads_pieces _ after))
  exact (reads_pieces_iff.mp hread).symm

/-- What is in front of a reference and what is behind it are filled in by themselves. -/
theorem interpolate_append_ref {t u : String} (h : VariableRef p u.toList) :
    interpolate vars (t ++ String.ofList p.source ++ u) =
      interpolate vars t ++ String.ofList ((p.value? vars).getD p.source) ++
        interpolate vars u := by
  simp only [interpolate_eq_fill, String.toList_append, String.toList_ofList, List.append_assoc]
  rw [pieces_append_ref h, Markup.fill_append, Markup.fill_cons, String.ofList_append,
    String.ofList_append, String.append_assoc]
  rfl

/-- What is in front of a blank and what is behind it are filled in by themselves. -/
theorem interpolate_append_blank {b : Char} (hb : isBlank b = true) (vars : Vars) (t u : String) :
    interpolate vars (t ++ String.singleton b ++ u) =
      interpolate vars t ++ String.singleton b ++ interpolate vars u := by
  have hread := (reads_pieces [] t.toList).join (variable_separates_of_blank hb)
    (reads_pieces [] u.toList)
  simp only [interpolate_eq_fill, String.toList_append, String.toList_singleton, List.append_assoc,
    List.singleton_append]
  rw [← reads_pieces_iff.mp hread, Markup.fill_join rfl, String.ofList_append,
    String.ofList_append, String.append_assoc, String.singleton_eq_ofList]

/-- A text without a dollar sign stays as it is. -/
theorem interpolate_of_notMem {s : String} (h : '$' ∉ s.toList) : interpolate vars s = s := by
  have hread : variableMarkup.Reads [] (s.toList.map .char) s.toList := Markup.reads_of_notMem h
  have hvalue : ∀ p ∈ s.toList.map Piece.char, p.value? vars = none :=
    List.forall_mem_map.mpr fun _ _ => rfl
  rw [interpolate_eq_fill, ← reads_pieces_iff.mp hread, hread.fill_of_none hvalue,
    String.ofList_toList]

/-! ## One pass -/

/-- A template is filled in with one pass over pieces. -/
structure OnePass (s : String) (ps : List Piece) : Prop where
  /-- The template is read as these pieces, and as no others. -/
  reading : ∀ qs, variableMarkup.Reads [] qs s.toList ↔ qs = ps
  /-- Each piece gives the text of its variable if that is set, and stays as written otherwise. -/
  filled : ∀ vars, interpolate vars s = String.ofList (variableMarkup.fill (Piece.value? vars) ps)
  /-- What a reference gives is not read again, neither by itself nor with what is around it. -/
  once : ∀ (vars : Vars) (t u : String) (p : Piece), VariableRef p u.toList →
    s = t ++ String.ofList p.source ++ u →
      interpolate vars s =
        interpolate vars t ++ String.ofList ((p.value? vars).getD p.source) ++ interpolate vars u
  /-- Only the variables that are referred to matter. -/
  depends : ∀ vars vars' : Vars, (∀ p ∈ ps, ∀ n, p.name? = some n → vars'.get? n = vars.get? n) →
    interpolate vars' s = interpolate vars s
  /-- With none of them set, the template stays as it is. -/
  unset : ∀ vars : Vars, (∀ p ∈ ps, ∀ n, p.name? = some n → vars.get? n = none) →
    interpolate vars s = s

end Template

open Template

/-- **Filling in a template is one pass.** Every text is read in one way into references in braces,
bare references that are as long as possible, and characters that start neither. It is filled in
with the text of each variable that is set, and all else as it is written; nothing of what is put in
is read again. So only the variables that are referred to matter, and with none of them set the text
stays as it is. -/
theorem interpolate_one_pass (s : String) : ∃ ps : List Piece, OnePass s ps := by
  refine ⟨pieces s.toList, fun qs => reads_pieces_iff, fun vars => interpolate_eq_fill vars s,
    ?_, ?_, fun vars hvars => ?_⟩
  · rintro vars t u p hp rfl
    exact interpolate_append_ref hp
  · intro vars vars' h
    refine interpolate_congr fun n hn => ?_
    obtain ⟨p, hp, hname⟩ := List.mem_filterMap.mp hn
    exact h p hp n hname
  · have hvalue : ∀ p ∈ pieces s.toList, p.value? vars = none :=
      fun p hp => Piece.value?_of_unset (hvars p hp)
    rw [interpolate_eq_fill, (reads_pieces [] s.toList).fill_of_none hvalue, String.ofList_toList]

/-- A text with a reference in it is put in as it is, also behind a dollar sign. -/
example :
    interpolate (.ofList [("a", .text "$b"), ("b", .text "c")]) "$a-$\x7bb\x7d$$b $\x7ba $ab" =
      "$b-c$c $\x7ba $ab" := by decide +kernel

end Scaffold
