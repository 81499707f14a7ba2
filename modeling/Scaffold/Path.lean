import Scaffold.Text.Basic

/-!
# Paths

Slash separated paths as texts. A path is shown as it was put together, so nothing here normalises
one; `Path.components` gives the meaning of a path, where empty and dot parts are nothing.
-/

namespace Scaffold

namespace Path

/-- Whether a path starts at the root. -/
def isAbsolute (p : String) : Bool := Text.startsWith "/" p

/-- A path relative to a directory: an absolute path stands for itself. -/
def join (dir p : String) : String :=
  if isAbsolute p then p
  else if dir.isEmpty || Text.endsWith "/" dir then dir ++ p
  else dir ++ "/" ++ p

/-- The named parts of a path, in order, dot parts aside. -/
def components (p : String) : List String :=
  (Text.split '/' p).filter fun c => !c.isEmpty && c != "."

/-- The last named part, unless the path is empty, is the root or ends in a parent step. -/
def fileName? (p : String) : Option String :=
  match (components p).getLast? with
  | some ".." => none
  | some name => some name
  | none => none

/-- The base name of a path, empty where there is none. -/
def baseName (p : String) : String := (fileName? p).getD ""

/-- A file name without its last extension; a leading dot starts no extension. -/
def stem (name : String) : String :=
  match Chars.splitLast? '.' name.toList with
  | some (before, _) => if before.isEmpty then name else String.ofList before
  | none => name

/-- The last extension of a file name. -/
def extension? (name : String) : Option String :=
  match Chars.splitLast? '.' name.toList with
  | some (before, after) => if before.isEmpty then none else some (String.ofList after)
  | none => none

/-! ### The name at the end of a path -/

/-- A path that ends in a name has it as its base name. -/
theorem baseName_of_split (before : List (List Char)) {p name : String}
    (hsplit : Chars.split (· == '/') p.toList = before ++ [name.toList]) (hne : name ≠ "")
    (hdot : name ≠ ".") (hparent : name ≠ "..") : baseName p = name := by
  have hkept : (!name.isEmpty && name != ".") = true := by
    simpa using ⟨hne, hdot⟩
  have hcomponents : components p =
      ((before.map String.ofList).filter fun c => !c.isEmpty && c != ".") ++ [name] := by
    rw [components, Text.split, hsplit, List.map_append, List.filter_append, List.map_singleton,
      String.ofList_toList, List.filter_cons_of_pos (by exact hkept), List.filter_nil]
  have hlast : (components p).getLast? = some name := by
    rw [hcomponents, List.getLast?_append, List.getLast?_singleton, Option.some_or]
  rw [baseName, fileName?, hlast]
  split
  · rename_i heq
    exact absurd (Option.some.inj heq) hparent
  · rename_i heq
    cases heq
    rfl
  · rename_i heq
    cases heq

/-- A file in a directory has its own name as base name. -/
theorem baseName_join (base : String) {name : String} (hslash : '/' ∉ name.toList)
    (hne : name ≠ "") (hdot : name ≠ ".") (hparent : name ≠ "..") :
    baseName (join base name) = name := by
  have hname : Chars.split (· == '/') name.toList = [name.toList] :=
    Chars.split_of_forall_not fun c hc => by
      simpa using fun heq : c = '/' => hslash (heq ▸ hc)
  have habsolute : isAbsolute name = false := by
    rw [Bool.eq_false_iff]
    intro h
    obtain ⟨rest, hrest⟩ := Text.startsWith_iff.mp h
    exact hslash (hrest ▸ List.mem_append_left rest (by decide))
  rw [join, habsolute, if_neg (by decide)]
  split
  · rename_i hbase
    rcases Bool.or_eq_true_iff.mp hbase with hempty | hend
    · have hnil : base = "" := by simpa using hempty
      subst hnil
      rw [String.empty_append]
      exact baseName_of_split [] hname hne hdot hparent
    · obtain ⟨before, hbefore⟩ := Text.exists_of_endsWith hend
      refine baseName_of_split (Chars.split (· == '/') before.toList) ?_ hne hdot hparent
      rw [hbefore, String.toList_append, String.toList_append, List.append_assoc]
      change Chars.split (· == '/') (before.toList ++ '/' :: name.toList) = _
      rw [Chars.split_append (by decide), hname]
  · refine baseName_of_split (Chars.split (· == '/') base.toList) ?_ hne hdot hparent
    rw [String.toList_append, String.toList_append, List.append_assoc]
    change Chars.split (· == '/') (base.toList ++ '/' :: name.toList) = _
    rw [Chars.split_append (by decide), hname]

/-- Stem and extension of a name, if there is something in front of the extension. -/
theorem stem_append {s ext : String} (hs : s ≠ "") (hext : '.' ∉ ext.toList) :
    stem (s ++ ("." ++ ext)) = s ∧ extension? (s ++ ("." ++ ext)) = some ext := by
  have hsplit : Chars.splitLast? '.' (s ++ ("." ++ ext)).toList = some (s.toList, ext.toList) := by
    rw [String.toList_append, String.toList_append]
    exact Chars.splitLast?_append hext
  have hnonempty : s.toList.isEmpty = false := by
    simpa using hs
  constructor
  · simp only [stem, hsplit, hnonempty]
    exact String.ofList_toList
  · simp only [extension?, hsplit, hnonempty]
    exact congrArg some String.ofList_toList

end Path

end Scaffold
