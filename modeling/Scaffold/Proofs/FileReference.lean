import Scaffold.Proofs.Pieces

/-!
# File references are replaced where they stand

A star with a word behind it refers to a file if it is at the start of a text or behind a blank.
The blank belongs to no reference, so references with a single blank between them are all replaced,
and everything but the references stays as it is.

* `FilePiece.name?`, `FilePiece.value?`: the file that a piece refers to, and what is put for it.
* `InPlace`: what it is to replace the references of a text where they stand.

Results:
* `interpolateFiles_append_blank`: references are replaced apart on both sides of a blank.
* `filePieces_split_iff`: the references that are read are those that stand in the text.
* **`interpolateFiles_in_place`**: every text has its references replaced where they stand.
-/

namespace Scaffold

open Chars

namespace Template

/-- The file that a piece refers to. -/
def FilePiece.name? : FilePiece → Option String
  | .char _ => none
  | .file name => some (String.ofList name)

/-- The path of the file that a piece refers to, if the table has one. -/
def FilePiece.value? (table : FileTable) (p : FilePiece) : Option (List Char) :=
  p.name?.bind fun n => (table.path? n).map String.toList

/-- A piece gives the path of its file, or stays as it is written. -/
theorem FilePiece.expand_eq (table : FileTable) (p : FilePiece) :
    p.expand table = (p.value? table).getD p.source := by
  cases p with
  | char c => rfl
  | file name =>
    simp only [FilePiece.expand, FilePiece.value?, FilePiece.name?, Option.bind_some]
    cases table.path? (String.ofList name) <;> rfl

theorem interpolateFiles_eq_fill (table : FileTable) (s : String) :
    interpolateFiles table s =
      String.ofList (fileMarkup.fill (FilePiece.value? table) (filePieces true s.toList)) := by
  rw [interpolateFiles, funext (FilePiece.expand_eq table)]
  rfl

/-! ## Reading apart -/

/-- What is in front of a blank and what is behind it have their references replaced by
themselves. -/
theorem interpolateFiles_append_blank {b : Char} (hb : isBlank b = true) (table : FileTable)
    (t u : String) :
    interpolateFiles table (t ++ String.singleton b ++ u) =
      interpolateFiles table t ++ String.singleton b ++ interpolateFiles table u := by
  have hread : fileMarkup.Reads []
      (filePieces true t.toList ++ fileMarkup.char b :: filePieces true u.toList)
      (t.toList ++ b :: u.toList) :=
    (reads_filePieces_iff.mpr rfl).join (file_separates_of_blank hb) (reads_filePieces_iff.mpr rfl)
  simp only [interpolateFiles_eq_fill, String.toList_append, String.toList_singleton,
    List.append_assoc, List.singleton_append]
  rw [← reads_filePieces_iff.mp hread, Markup.fill_join rfl, String.ofList_append,
    String.ofList_append, String.append_assoc, String.singleton_eq_ofList]

/-- A text without a star stays as it is. -/
theorem interpolateFiles_of_notMem {table : FileTable} {s : String} (h : '*' ∉ s.toList) :
    interpolateFiles table s = s := by
  have hread : fileMarkup.Reads [] (s.toList.map .char) s.toList := Markup.reads_of_notMem h
  have hvalue : ∀ p ∈ s.toList.map FilePiece.char, p.value? table = none :=
    List.forall_mem_map.mpr fun _ _ => rfl
  rw [interpolateFiles_eq_fill, ← reads_filePieces_iff.mp hread, hread.fill_of_none hvalue,
    String.ofList_toList]

/-! ## The references of a text -/

/-- The references that are read are those that stand in the text. -/
theorem filePieces_split_iff {cs before name after : List Char} :
    (∃ l r, filePieces true cs = l ++ .file name :: r ∧ l.flatMap FilePiece.source = before ∧
      r.flatMap FilePiece.source = after) ↔
    cs = before ++ '*' :: (name ++ after) ∧ Opens before ∧ Longest name after := by
  have hread : fileMarkup.Reads [] (filePieces true cs) cs := reads_filePieces_iff.mpr rfl
  constructor
  · rintro ⟨l, r, hpieces, rfl, rfl⟩
    rw [hpieces] at hread
    refine ⟨?_, ?_⟩
    · rw [← hread.flatMap_source, List.flatMap_append, List.flatMap_cons]
      rfl
    · rcases hread.ref_or_char with ⟨hbefore, hlongest⟩ | ⟨c, hc⟩
      · exact ⟨hbefore, hlongest⟩
      · cases hc
  · rintro ⟨hcs, hbefore, hlongest⟩
    have href : fileMarkup.Ref ([] ++ before) (.file name) after := .intro hbefore hlongest
    exact hread.exists_split hcs href

/-- **What is put in** is the directory of the table, joined with the source of the file. -/
theorem value?_file_iff {table : FileTable} {name path : List Char} :
    FilePiece.value? table (.file name) = some path ↔
      ∃ entry source, table.files.get? (String.ofList name) = some entry ∧
        (entry.get? "source").bind Value.asText? = some source ∧
        (Path.join table.dir source).toList = path := by
  rw [FilePiece.value?, FilePiece.name?, Option.bind_some, FileTable.path?]
  rcases table.files.get? (String.ofList name) with _ | entry
  · simp
  · simp only [Option.bind_some, Option.map_map, Option.map_eq_some_iff, Function.comp_apply,
      Option.some.injEq, exists_eq_left', exists_and_left]

/-- References of a text are replaced where they stand. -/
structure InPlace (s : String) (ps : List FilePiece) : Prop where
  /-- The text is read as these pieces, with nothing lost. -/
  source : ps.flatMap FilePiece.source = s.toList
  /-- A star and a word are read as a reference exactly at the start or behind a blank, and the word
  is as long as possible. -/
  places : ∀ before name after : List Char,
    (∃ l r, ps = l ++ .file name :: r ∧ l.flatMap FilePiece.source = before ∧
      r.flatMap FilePiece.source = after) ↔
    s.toList = before ++ '*' :: (name ++ after) ∧ Opens before ∧ Longest name after
  /-- Each reference gives the path of its file if the table has one; all else stays as written. -/
  replaced : ∀ table,
    interpolateFiles table s = String.ofList (fileMarkup.fill (FilePiece.value? table) ps)
  /-- The table has a path for a name whose entry has a text as its `source`: that text, joined to
  the directory of the table. -/
  joined : ∀ (table : FileTable) (name path : List Char),
    FilePiece.value? table (.file name) = some path ↔
      ∃ entry source, table.files.get? (String.ofList name) = some entry ∧
        (entry.get? "source").bind Value.asText? = some source ∧
        (Path.join table.dir source).toList = path
  /-- References on both sides of a blank are replaced by themselves, and the blank stays. -/
  apart : ∀ (table : FileTable) (b : Char) (t u : String), isBlank b = true →
    s = t ++ String.singleton b ++ u →
      interpolateFiles table s =
        interpolateFiles table t ++ String.singleton b ++ interpolateFiles table u

end Template

open Template

/-- **File references are replaced exactly where they stand**: at the start of a text and behind a
blank, up to the end of the word, by the path of the file if the table has one. Everything else
stays as it is, the blanks between references among it, and no path that is put in is read again. -/
theorem interpolateFiles_in_place (s : String) : ∃ ps : List FilePiece, InPlace s ps := by
  refine ⟨filePieces true s.toList, source_filePieces true _, fun _ _ _ => filePieces_split_iff,
    fun table => interpolateFiles_eq_fill table s, fun _ _ _ => value?_file_iff, ?_⟩
  rintro table b t u hb rfl
  exact interpolateFiles_append_blank hb table t u

/-- References with single blanks between them are all replaced, globs and unknown names are not. -/
example :
    let table : FileTable :=
      { files := .mapping [(.text "main", .mapping [(.text "source", .text "*main")])]
        dir := "/f" }
    interpolateFiles table "*main *main\t*main *.py x*main *other" =
      "/f/*main /f/*main\t/f/*main *.py x*main *other" := by decide +kernel

end Scaffold
