import Scaffold.Proofs.FileReference
import Scaffold.Proofs.Occurrence
import Scaffold.Proofs.Substitution
import Scaffold.Run.Context

/-!
# Formatting and rendering lists

The arguments of a command are filled in before they are put into a command line, and the target of
a call is put together first and filled in then. Both give the same text: a blank is part of no
reference, to a variable or to a file, so a text is filled in apart on both sides of it. What the
variables give plays no part in this, although the references to files are looked for behind it.

* `Value.Plain`: values of texts, numbers and the like in lists.

Results:
* `format_append_blank`, `format_join`: a text is filled in part by part, with blanks between them.
* `format_of_notMem`: a text without sigils stays as it is.
* `render_formatValue`: rendering a plain value that is filled in is filling in what is rendered.
* **`formatting_commutes`**: both laws, in every context.
-/

namespace Scaffold

/-- A value of null, booleans, numbers, texts and lists of such values. -/
inductive Value.Plain : Value → Prop
  | null : Plain .null
  | bool (b : Bool) : Plain (.bool b)
  | int (n : Int) : Plain (.int n)
  | float (x : Binary64) : Plain (.float x)
  | text (s : String) : Plain (.text s)
  | list {items : List Value} (h : ∀ v ∈ items, Plain v) : Plain (.list items)

namespace Template

variable {vars : Vars} {files : Option FileTable}

/-! ## Texts with blanks between them -/

/-- A text is filled in apart on both sides of a blank. -/
theorem format_append_blank {b : Char} (hb : isBlank b = true) (vars : Vars)
    (files : Option FileTable) (s t : String) :
    format vars files (s ++ String.singleton b ++ t) =
      format vars files s ++ String.singleton b ++ format vars files t := by
  cases files with
  | none => exact interpolate_append_blank hb vars s t
  | some table =>
    simp only [format]
    rw [interpolate_append_blank hb, interpolateFiles_append_blank hb]

theorem format_append_space (vars : Vars) (files : Option FileTable) (s t : String) :
    format vars files (s ++ " " ++ t) = format vars files s ++ " " ++ format vars files t := by
  rw [show " " = String.singleton ' ' from rfl]
  exact format_append_blank (by decide) vars files s t

/-- A text without a dollar sign or a star stays as it is. -/
theorem format_of_notMem {s : String} (hdollar : '$' ∉ s.toList) (hstar : '*' ∉ s.toList) :
    format vars files s = s := by
  cases files with
  | none => exact interpolate_of_notMem hdollar
  | some table =>
    simp only [format]
    rw [interpolate_of_notMem hdollar, interpolateFiles_of_notMem hstar]

/-- **Texts with spaces between them** are filled in one by one. -/
theorem format_join (vars : Vars) (files : Option FileTable) (parts : List String) :
    format vars files (Text.join " " parts) =
      Text.join " " (parts.map (format vars files)) := by
  rw [Text.join_eq_intercalate, Text.join_eq_intercalate]
  induction parts with
  | nil => exact format_of_notMem (by decide) (by decide)
  | cons part rest ih =>
    cases rest with
    | nil => simp only [List.map_singleton, String.intercalate_singleton]
    | cons next rest =>
      rw [List.map_cons, List.map_cons, String.intercalate_cons_cons, String.intercalate_cons_cons,
        ← List.map_cons, ← ih, format_append_space]

/-! ## Values -/

theorem formatList_eq_map (vs : List Value) :
    formatList vars files vs = vs.map (formatValue vars files) := by
  induction vs with
  | nil => rfl
  | cons v vs ih => rw [formatList, ih, List.map_cons]

/-- The keys of a mapping are not filled in. -/
theorem formatEntries_eq_map (es : List (Value × Value)) :
    formatEntries vars files es = es.map fun e => (e.1, formatValue vars files e.2) := by
  induction es with
  | nil => rfl
  | cons e es ih =>
    obtain ⟨k, v⟩ := e
    rw [formatEntries, ih, List.map_cons]

/-- **Rendering a value that is filled in** is filling in what is rendered. -/
theorem render_formatValue {v : Value} (h : v.Plain) :
    (formatValue vars files v).render = format vars files v.render := by
  induction h with
  | null =>
    simp only [formatValue, Value.render]
    rw [format_of_notMem (by decide) (by decide)]
  | bool b =>
    simp only [formatValue, Value.render]
    cases b <;> exact (format_of_notMem (by decide) (by decide)).symm
  | int n =>
    simp only [formatValue, Value.render]
    rw [format_of_notMem (notMem_intText (by decide) n) (notMem_intText (by decide) n)]
  | float x =>
    simp only [formatValue, Value.render]
    rw [format_of_notMem (notMem_floatText (by decide) x) (notMem_floatText (by decide) x)]
  | text s => simp only [formatValue, Value.render]
  | @list items _ ih =>
    have hitems : (items.map (formatValue vars files)).map Value.render =
        (items.map Value.render).map (format vars files) := by
      rw [List.map_map, List.map_map]
      exact List.map_congr_left ih
    simp only [formatValue, Value.render]
    rw [formatList_eq_map, Value.renderList_eq_map, Value.renderList_eq_map, format_join, hitems]

end Template

open Template

/-- **Formatting commutes with rendering**: a value of texts, numbers and the like in nested lists
renders, once it is filled in, as its rendered text does that is filled in; and a text is filled in
apart on both sides of a space. This holds in every context, whatever its variables have in them and
whatever files are pushed. -/
theorem formatting_commutes (c : Context) :
    (∀ v : Value, v.Plain → (c.formatValue v).render = c.format v.render) ∧
    ∀ s t : String, c.format (s ++ " " ++ t) = c.format s ++ " " ++ c.format t :=
  ⟨fun _ hv => render_formatValue hv, format_append_space c.vars c.currentFiles⟩

/-- A context in which a variable gives a reference to a file. -/
def Context.starred : Context where
  vars := .ofList [("from", .text "*main")]
  files := [{ files := .mapping [(.text "main", .mapping [(.text "source", .text "main.py")])],
              dir := "/f" }]

/-- A command line with an empty word between two references to a file. -/
def Value.copying : Value :=
  .list [.text "cp", .list [.text "$from", .null, .text "*main"], .int (-1)]

theorem formatting_commutes_copying :
    Value.copying.Plain ∧
    (Context.starred.formatValue .copying).render = Context.starred.format Value.copying.render ∧
    Context.starred.format Value.copying.render = "cp /f/main.py  /f/main.py -1" := by
  have hinner : (Value.list [.text "$from", .null, .text "*main"]).Plain :=
    .list (by simp [Value.Plain.text, Value.Plain.null])
  have hplain : Value.copying.Plain := .list (by simp [Value.Plain.text, Value.Plain.int, hinner])
  exact ⟨hplain, (formatting_commutes .starred).1 _ hplain, by decide +kernel⟩

end Scaffold
