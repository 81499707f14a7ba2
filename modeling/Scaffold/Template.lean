import Scaffold.Path
import Scaffold.Table
import Scaffold.Text.Word
import Scaffold.Value

/-!
# Templates

Texts with references. A template is read once, from left to right, into pieces; what a reference
is replaced by is not read again.

* `$name` and `${name}` stand for the text of a variable; a reference to an unknown variable stays
  as written. `Template.pieces` is the reading, **`source_pieces`** says that it loses nothing.
* `*name` at the start or after a blank stands for the path of a file of a file table.
  `Template.filePieces` is the reading, **`source_filePieces`** says that it loses nothing.
-/

namespace Scaffold

/-- The values of variables by name. -/
abbrev Vars := Table Value

/-- A files section and the directory its sources are relative to. -/
structure FileTable where
  files : Value
  dir : String
deriving DecidableEq, Repr, Inhabited

/-- The path of a named file: the directory joined with the text `source` of its entry. -/
def FileTable.path? (t : FileTable) (name : String) : Option String :=
  (((t.files.get? name).bind (·.get? "source")).bind Value.asText?).map (Path.join t.dir)

namespace Template

/-! ### Variable references -/

/-- A part of a template: a character that stands for itself, or a reference to a variable. -/
inductive Piece where
  | char (c : Char)
  | bare (name : List Char)
  | braced (name : List Char)
deriving DecidableEq, Repr, Inhabited

/-- A piece as it is written. -/
def Piece.source : Piece → List Char
  | .char c => [c]
  | .bare name => '$' :: name
  | .braced name => '$' :: '{' :: (name ++ ['}'])

/-- The pieces of a template. A dollar sign followed by a word, or by a word in braces, starts a
reference; the word of a bare reference is as long as possible. -/
def pieces (cs : List Char) : List Piece :=
  match cs with
  | [] => []
  | '$' :: '{' :: rest =>
    let name := rest.takeWhile isWord
    let after := rest.dropWhile isWord
    if !name.isEmpty && after.head? == some '}' then .braced name :: pieces after.tail
    else .char '$' :: pieces ('{' :: rest)
  | '$' :: rest =>
    let name := rest.takeWhile isWord
    if !name.isEmpty then .bare name :: pieces (rest.dropWhile isWord)
    else .char '$' :: pieces rest
  | c :: rest => .char c :: pieces rest
termination_by cs.length
decreasing_by
  all_goals simp_wf
  · have := (List.dropWhile_sublist (l := rest) isWord).length_le
    omega
  · have := (List.dropWhile_sublist (l := rest) isWord).length_le
    omega

/-- The text a piece stands for. -/
def Piece.expand (vars : Vars) (p : Piece) : List Char :=
  match p with
  | .char c => [c]
  | .bare name | .braced name =>
    match vars.get? (String.ofList name) with
    | some value => value.render.toList
    | none => p.source

/-- Put the texts of variables for the references to them. -/
def interpolate (vars : Vars) (s : String) : String :=
  String.ofList ((pieces s.toList).flatMap (Piece.expand vars))

/-- Reading a template loses nothing. -/
theorem source_pieces (cs : List Char) : (pieces cs).flatMap Piece.source = cs := by
  fun_induction pieces cs with
  | case1 => rfl
  | case2 rest name after h ih =>
    simp only [Bool.and_eq_true, beq_iff_eq] at h
    have hafter : after = '}' :: after.tail := by
      cases hc : after with
      | nil => simp [hc] at h
      | cons a t => simp [hc] at h; simp [h.2]
    have hrest : name ++ after = rest := List.takeWhile_append_dropWhile
    rw [List.flatMap_cons, ih, Piece.source, ← hrest]
    conv => rhs; rw [hafter]
    simp
  | case3 rest name after h ih => simp [ih, Piece.source]
  | case4 rest _ name h ih =>
    have hrest : name ++ rest.dropWhile isWord = rest := List.takeWhile_append_dropWhile
    rw [List.flatMap_cons, ih, Piece.source, List.cons_append, hrest]
  | case5 rest _ name h ih => simp [ih, Piece.source]
  | case6 c rest _ _ ih => simp [ih, Piece.source]

/-! ### File references -/

/-- A part of a text: a character that stands for itself, or a reference to a file. -/
inductive FilePiece where
  | char (c : Char)
  | file (name : List Char)
deriving DecidableEq, Repr, Inhabited

/-- A piece as it is written. -/
def FilePiece.source : FilePiece → List Char
  | .char c => [c]
  | .file name => '*' :: name

/-- The pieces of a text with file references. A star followed by a word starts a reference where
`open_` holds, which is at the start and after a blank. -/
def filePieces (open_ : Bool) (cs : List Char) : List FilePiece :=
  match cs with
  | [] => []
  | c :: rest =>
    if open_ && c == '*' && !(rest.takeWhile isWord).isEmpty then
      .file (rest.takeWhile isWord) :: filePieces false (rest.dropWhile isWord)
    else .char c :: filePieces (isBlank c) rest
termination_by cs.length
decreasing_by
  · have := (List.dropWhile_sublist (l := rest) isWord).length_le
    simp_wf
    omega
  · simp_wf

/-- The text a piece stands for. -/
def FilePiece.expand (table : FileTable) (p : FilePiece) : List Char :=
  match p with
  | .char c => [c]
  | .file name =>
    match table.path? (String.ofList name) with
    | some path => path.toList
    | none => p.source

/-- Put the paths of files for the references to them. -/
def interpolateFiles (table : FileTable) (s : String) : String :=
  String.ofList ((filePieces true s.toList).flatMap (FilePiece.expand table))

/-- Reading file references loses nothing. -/
theorem source_filePieces (open_ : Bool) (cs : List Char) :
    (filePieces open_ cs).flatMap FilePiece.source = cs := by
  fun_induction filePieces open_ cs with
  | case1 => rfl
  | case2 open_ c rest h ih =>
    simp only [Bool.and_eq_true, beq_iff_eq] at h
    rw [List.flatMap_cons, ih, FilePiece.source, List.cons_append,
      List.takeWhile_append_dropWhile, h.1.2]
  | case3 open_ c rest h ih => simp [ih, FilePiece.source]

/-! ### Formatting -/

/-- Variables first, then the files of the innermost file table. -/
def format (vars : Vars) (files : Option FileTable) (s : String) : String :=
  match files with
  | some table => interpolateFiles table (interpolate vars s)
  | none => interpolate vars s

mutual

/-- Format every text inside lists and mapping values. -/
def formatValue (vars : Vars) (files : Option FileTable) : Value → Value
  | .text s => .text (format vars files s)
  | .list items => .list (formatList vars files items)
  | .mapping entries => .mapping (formatEntries vars files entries)
  | v => v

/-- Format each item. -/
def formatList (vars : Vars) (files : Option FileTable) : List Value → List Value
  | [] => []
  | v :: vs => formatValue vars files v :: formatList vars files vs

/-- Format each value, keys left alone. -/
def formatEntries (vars : Vars) (files : Option FileTable) :
    List (Value × Value) → List (Value × Value)
  | [] => []
  | (k, v) :: rest => (k, formatValue vars files v) :: formatEntries vars files rest

end

end Template

end Scaffold
