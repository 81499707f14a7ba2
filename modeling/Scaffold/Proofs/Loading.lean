import Mathlib.Data.String.Basic
import Scaffold.Library

/-!
# What a library is loaded from

A library is put together from roots, and what an earlier root has shadows what a later one has. For
assistants this is decided by the name at the top: the tree that counts comes from one root as a
whole. For snippets it is decided by the name of the file, before the file is read. In a directory,
the first file of a name counts.

* `Host.Lists`: the names in a directory are names, not paths.
* `Library.fileOf?`: the script file of a directory that a name stands for.
* `Library.roleForest`, `Library.forestOf?`, `Library.snippetOf?`: what one root provides.
* `Library.Grown`: what a library has after more roots were read.
* `Library.Union`: a library that has of each name what the first root has that provides it.

Results:
* `scriptName_of_mem`, `pairwise_scriptFiles`: what script files are called, and their order.
* **`fileOf?_of_yaml`**: a file is not passed over for one with the shorter extension.
* `find?_loadForest`: what a directory provides under a name comes from the file it stands for.
* `find?_mergeForest`: merging forests keeps what was there.
* `grown_of_loadRoot`, `grown_of_foldlM`: from one root to all of them.
* **`union_of_load`**: a loaded library is the union of its roots.
* **`load_left_biased`**: the whole, and that more roots change nothing that resolves.
-/

namespace Scaffold

variable {W : Type}

namespace Forest

theorem find?_cons (t : Tree) (f : Forest) (name : String) :
    find? (t :: f) name = if t.name = name then some t else f.find? name := by
  rw [find?, List.find?_cons]
  by_cases hname : t.name = name
  · rw [if_pos hname, beq_iff_eq.mpr hname]
  · rw [if_neg hname, beq_false_of_ne hname]
    rfl

theorem find?_append (f g : Forest) (name : String) :
    find? (f ++ g) name = (f.find? name).or (g.find? name) :=
  List.find?_append

end Forest

theorem Assistant.name_of_ofScript {name : String} {script : Script} {a : Assistant}
    (h : Assistant.ofScript name script = .ok a) : a.name = name := by
  obtain ⟨_, -, h⟩ := exists_of_bind_ok h
  obtain ⟨sections, -, h⟩ := exists_of_bind_ok h
  exact (congrArg Assistant.name (Except.ok.inj h)).symm

theorem Snippet.name_of_ofScript {name : String} {script : Script} {s : Snippet}
    (h : Snippet.ofScript name script = .ok s) : s.name = name := by
  obtain ⟨_, -, h⟩ := exists_of_bind_ok h
  obtain ⟨sections, -, h⟩ := exists_of_bind_ok h
  exact (congrArg Snippet.name (Except.ok.inj h)).symm

/-- The names in a directory are names, not paths. -/
def Host.Lists (host : Host W) (w : W) (dir : String) : Prop :=
  ∀ name ∈ host.listDir w dir, '/' ∉ name.toList

namespace Library

/-- What a script file is called: something, and one of two extensions. -/
inductive ScriptName : String → Prop
  | yaml (s : String) : ScriptName (s ++ ("." ++ "yaml"))
  | yml (s : String) : ScriptName (s ++ ("." ++ "yml"))

/-! ## Names of script files -/

section Names

variable {host : Host W} {w : W} {dir : String}

theorem ScriptName.ne {n k : String} (h : ScriptName n) (hk : k.length < 4) : n ≠ k := by
  rintro rfl
  cases h with
  | yaml s =>
    rw [String.length_append, show ("." ++ "yaml").length = 5 by decide] at hk
    omega
  | yml s =>
    rw [String.length_append, show ("." ++ "yml").length = 4 by decide] at hk
    omega

/-- The path of a listed file is shown under its directory, or just by its name. -/
def shownPath (dir name : String) : String :=
  if shownDir dir == "." then name else Path.join (shownDir dir) name

/-- The names of script files, in order. -/
def scriptNames (host : Host W) (w : W) (dir : String) : List String :=
  ((host.listDir w dir).filter fun name =>
    Text.endsWith ".yaml" name || Text.endsWith ".yml" name).mergeSort (· ≤ ·)

theorem scriptFiles_eq (host : Host W) (w : W) (dir : String) :
    scriptFiles host w dir =
      ((scriptNames host w dir).map (shownPath dir)).filter (host.isFile w) := rfl

theorem scriptName_of_listed {n : String} (h : n ∈ scriptNames host w dir) : ScriptName n := by
  obtain ⟨-, hn⟩ := List.mem_filter.mp (List.mem_mergeSort.mp h)
  rcases Bool.or_eq_true_iff.mp hn with hn | hn
  · obtain ⟨s, rfl⟩ := Text.exists_of_endsWith hn
    exact .yaml s
  · obtain ⟨s, rfl⟩ := Text.exists_of_endsWith hn
    exact .yml s

theorem baseName_shownPath (hlists : host.Lists w dir) {n : String}
    (h : n ∈ scriptNames host w dir) : Path.baseName (shownPath dir n) = n := by
  have hscript := scriptName_of_listed h
  have hslash := hlists n (List.mem_filter.mp (List.mem_mergeSort.mp h)).1
  have hjoin := fun base => Path.baseName_join base hslash (hscript.ne (by decide))
    (hscript.ne (by decide)) (hscript.ne (by decide))
  unfold shownPath
  split
  · have hown := hjoin ""
    have habsolute : Path.isAbsolute n = false := by
      rw [Bool.eq_false_iff]
      intro h
      obtain ⟨rest, hrest⟩ := Text.startsWith_iff.mp h
      exact hslash (hrest ▸ List.mem_append_left rest (by decide))
    rwa [Path.join, habsolute, if_neg (by decide), if_pos (by decide), String.empty_append] at hown
  · exact hjoin _

/-- The files of a directory are in the order of their names. -/
theorem pairwise_scriptFiles (hlists : host.Lists w dir) :
    (scriptFiles host w dir).Pairwise fun p q => Path.baseName p ≤ Path.baseName q := by
  have hsorted : (scriptNames host w dir).Pairwise fun m n => decide (m ≤ n) = true :=
    List.pairwise_mergeSort
      (fun a b c hab hbc => by
        rw [decide_eq_true_eq] at *
        exact String.le_trans hab hbc)
      (fun a b => by simpa using String.le_total a b) _
  rw [scriptFiles_eq]
  refine List.Pairwise.filter _ (List.pairwise_map.mpr (hsorted.imp_of_mem fun hm hn h => ?_))
  rw [baseName_shownPath hlists hm, baseName_shownPath hlists hn]
  exact decide_eq_true_eq.mp h

theorem scriptName_of_mem (hlists : host.Lists w dir) {p : String}
    (h : p ∈ scriptFiles host w dir) :
    ScriptName (Path.baseName p) ∧ shownPath dir (Path.baseName p) = p := by
  rw [scriptFiles_eq] at h
  obtain ⟨n, hn, rfl⟩ := List.mem_map.mp (List.mem_filter.mp h).1
  rw [baseName_shownPath hlists hn]
  exact ⟨scriptName_of_listed hn, rfl⟩

/-- The longer extension comes first. -/
theorem yaml_lt_yml (s : String) : s ++ ("." ++ "yaml") < s ++ ("." ++ "yml") := by
  rw [String.lt_iff_toList_lt, String.toList_append, @String.toList_append s]
  exact List.append_left_lt (by decide : ("." ++ "yaml").toList < ("." ++ "yml").toList)

/-- A script file with an extension has something in front of it; one without is called like what it
provides. -/
theorem ScriptName.cases_stem {n : String} (h : ScriptName n) :
    (∃ s ≠ "", n = s ++ ("." ++ "yaml") ∧ Path.stem n = s ∧ Path.extension? n = some "yaml") ∨
    (∃ s ≠ "", n = s ++ ("." ++ "yml") ∧ Path.stem n = s ∧ Path.extension? n = some "yml") ∨
    (Path.stem n = n ∧ Path.extension? n = none) := by
  cases h with
  | yaml s =>
    by_cases hs : s = ""
    · subst hs
      exact .inr (.inr (by decide))
    · exact .inl ⟨s, hs, rfl, Path.stem_append hs (by decide)⟩
  | yml s =>
    by_cases hs : s = ""
    · subst hs
      exact .inr (.inr (by decide))
    · exact .inr (.inl ⟨s, hs, rfl, Path.stem_append hs (by decide)⟩)

/-- The script file of a directory that a name stands for. -/
def fileOf? (host : Host W) (w : W) (dir name : String) : Option String :=
  (scriptFiles host w dir).find? (scriptName · == name)

/-- **The longer extension counts.** Of the files with one name in a directory, one with the
extension `yaml` is not passed over for one with the extension `yml`: the name stands for that file,
or for a file whose whole name it is, since a leading dot starts no extension. -/
theorem fileOf?_of_yaml (hlists : host.Lists w dir) {p : String} (hp : p ∈ scriptFiles host w dir)
    (hext : Path.extension? (Path.baseName p) = some "yaml") :
    ∃ q, fileOf? host w dir (scriptName p) = some q ∧
      (q = p ∨ Path.baseName q = scriptName p ∧ Path.extension? (Path.baseName q) = none) := by
  obtain ⟨q, hq⟩ : ∃ q, fileOf? host w dir (scriptName p) = some q :=
    Option.isSome_iff_exists.mp (List.find?_isSome.mpr ⟨p, hp, beq_self_eq_true _⟩)
  refine ⟨q, hq, ?_⟩
  obtain ⟨hsame, before, behind, hfiles, hbefore⟩ := List.find?_eq_some_iff_append.mp hq
  have hstem : Path.stem (Path.baseName q) = Path.stem (Path.baseName p) := beq_iff_eq.mp hsame
  obtain ⟨hpscript, hpshown⟩ := scriptName_of_mem hlists hp
  obtain ⟨hqscript, hqshown⟩ := scriptName_of_mem hlists (List.mem_of_find?_eq_some hq)
  -- the file itself has the name, so it is not in front of the first
  have hle : Path.baseName q ≤ Path.baseName p := by
    rw [hfiles] at hp
    rcases List.mem_append.mp hp with hmem | hmem
    · exact absurd (hbefore p hmem) (by simp)
    · rcases List.mem_cons.mp hmem with rfl | hmem
      · exact String.le_refl _
      · have hsorted := hfiles ▸ pairwise_scriptFiles hlists
        exact List.rel_of_pairwise_cons (List.pairwise_append.mp hsorted).2.1 hmem
  obtain ⟨s, -, hname, hs, -⟩ | ⟨s, -, -, -, hyml⟩ | ⟨-, hnone⟩ := hpscript.cases_stem
  · obtain ⟨t, -, hother, ht, -⟩ | ⟨t, -, hother, ht, -⟩ | ⟨hown, hnone⟩ := hqscript.cases_stem
    · have hbase : Path.baseName q = Path.baseName p := by
        rw [hother, hname, ← ht, ← hs, hstem]
      exact .inl (by rw [← hqshown, hbase, hpshown])
    · -- the shorter extension would come later
      have hst : t = s := by rw [← ht, ← hs, hstem]
      rw [hother, hname, hst] at hle
      exact absurd (yaml_lt_yml s) (String.not_lt.mpr hle)
    · exact .inr ⟨hown.symm.trans hstem, hnone⟩
  · rw [hext] at hyml
    exact absurd (Option.some.inj hyml) (by decide)
  · rw [hext] at hnone
    cases hnone

end Names

/-! ## What one root provides -/

section Roots

variable (host : Host W) (w : W)

/-- What a directory provides, if there is one. -/
def forestAt (depth : Nat) (dir filesDir : String) : Except Error Forest :=
  if host.isDir w dir then loadForest host w depth dir filesDir else .ok []

/-- The tree of one script file, with what its directory provides below it. -/
def loadTree (depth : Nat) (dir filesDir path : String) : Except Error Tree := do
  let a ← readAssistant host w path filesDir
  let children ← forestAt host w depth (Path.join dir (scriptName path))
    (Path.join filesDir (scriptName path))
  return .node a children

/-- The assistants of a role that a root provides. -/
def roleForest (role root : String) : Except Error Forest :=
  forestAt host w nestingLimit (Path.join (Path.join root "assistants") role)
    (Path.join (Path.join root "files") role)

/-- The tree of a name that a root provides. -/
def treeOf? (role name root : String) : Option Tree :=
  match roleForest host w role root with
  | .ok f => f.find? name
  | .error _ => none

/-- The assistants of a role that a root provides, if one with a name is among them. -/
def forestOf? (role name root : String) : Option Forest :=
  match roleForest host w role root with
  | .ok f => if (f.find? name).isSome then some f else none
  | .error _ => none

/-- The snippet of a name that a root provides. -/
def snippetOf? (name root : String) : Option (Except Error Snippet) :=
  let dir := Path.join root "snippets"
  if host.isDir w dir then
    (fileOf? host w dir name).map
      (readSnippet host w · (Path.join (Path.join root "files") "snippets"))
  else none

/-- The assistants on a path of names in a forest. -/
def chainIn (role : String) (f : Forest) (names : List String) :
    Except ConfigError (List Assistant) :=
  match f.chain? names with
  | some assistants => .ok assistants
  | none => .error (notFound role names)

variable {host w}

theorem name_of_readAssistant {path filesDir : String} {a : Assistant}
    (h : readAssistant host w path filesDir = .ok a) : a.name = scriptName path := by
  obtain ⟨script, -, h⟩ := exists_of_bind_ok h
  obtain ⟨read, hread, h⟩ := exists_of_bind_ok h
  have hname := Assistant.name_of_ofScript (eq_ok_of_mapError hread)
  cases h
  exact hname

theorem name_of_readSnippet {path filesDir : String} {s : Snippet}
    (h : readSnippet host w path filesDir = .ok s) : s.name = scriptName path := by
  obtain ⟨script, -, h⟩ := exists_of_bind_ok h
  obtain ⟨read, hread, h⟩ := exists_of_bind_ok h
  have hname := Snippet.name_of_ofScript (eq_ok_of_mapError hread)
  cases h
  exact hname

theorem name_of_loadTree {depth : Nat} {dir filesDir path : String} {t : Tree}
    (h : loadTree host w depth dir filesDir path = .ok t) : t.name = scriptName path := by
  obtain ⟨a, ha, h⟩ := exists_of_bind_ok h
  obtain ⟨children, -, h⟩ := exists_of_bind_ok h
  cases h
  exact name_of_readAssistant ha

theorem find?_mapM_ok {α : Type} {f : α → Except Error Tree} {nameOf : α → String}
    (hname : ∀ {a t}, f a = .ok t → t.name = nameOf a) (name : String) :
    ∀ {as : List α} {ts : Forest}, as.mapM f = .ok ts →
      (as.find? (nameOf · == name)).map f = (ts.find? name).map .ok
  | [], _, h => by
    cases h
    rfl
  | a :: as, ts, h => by
    rw [List.mapM_cons] at h
    obtain ⟨t, ht, h⟩ := exists_of_bind_ok h
    obtain ⟨rest, hrest, h⟩ := exists_of_bind_ok h
    cases h
    rw [Forest.find?, List.find?_cons, List.find?_cons, hname ht]
    cases nameOf a == name with
    | true => exact congrArg some ht
    | false => exact find?_mapM_ok hname name hrest

theorem loadForest_succ (depth : Nat) (dir filesDir : String) :
    loadForest host w (depth + 1) dir filesDir =
      (scriptFiles host w dir).mapM (loadTree host w depth dir filesDir) := by
  rw [loadForest]
  congr 1
  funext path
  rw [loadTree, forestAt]
  dsimp only
  split <;> rfl

/-- What a directory provides under a name comes from its first script file of the name. -/
theorem find?_loadForest {depth : Nat} {dir filesDir : String} {f : Forest}
    (h : loadForest host w (depth + 1) dir filesDir = .ok f) (name : String) :
    (fileOf? host w dir name).map (loadTree host w depth dir filesDir) =
      (f.find? name).map .ok :=
  find?_mapM_ok name_of_loadTree name (loadForest_succ depth dir filesDir ▸ h)

/-- Merging forests keeps what was there and adds what has a new name. -/
theorem find?_mergeForest (f new : Forest) (name : String) :
    Forest.find? (mergeForest f new) name = (f.find? name).or (new.find? name) := by
  induction new generalizing f with
  | nil => exact Option.or_none.symm
  | cons t rest ih =>
    have hstep : mergeForest f (t :: rest) =
        mergeForest (if (f.find? t.name).isSome then f else f ++ [t]) rest := rfl
    rw [hstep, ih, Forest.find?_cons t rest]
    by_cases hold : (f.find? t.name).isSome
    · rw [if_pos hold]
      split
      · -- the one that is there shadows the new one
        rename_i hname
        obtain ⟨old, hold⟩ := Option.isSome_iff_exists.mp (hname ▸ hold)
        rw [hold, Option.some_or, Option.some_or]
      · rfl
    · rw [if_neg hold, Forest.find?_append, Option.or_assoc, Forest.find?_cons t []]
      split
      · rw [Option.some_or]
      · rw [show Forest.find? [] name = none from rfl, Option.none_or]

theorem findSome?_treeOf? (role name : String) (roots : List String) :
    roots.findSome? (treeOf? host w role name) =
      (roots.findSome? (forestOf? host w role name)).bind (·.find? name) := by
  induction roots with
  | nil => rfl
  | cons root roots ih =>
    rw [List.findSome?_cons, List.findSome?_cons, treeOf?, forestOf?]
    cases roleForest host w role root with
    | error e => exact ih
    | ok f =>
      cases hf : f.find? name with
      | none => simpa [hf] using ih
      | some t => simp [hf]

end Roots

/-! ## Root after root -/

section Union

variable (host : Host W) (w : W)

/-- What a library has under a name after more roots: what it had, and else what the first of the
roots provides. -/
structure Grown (roots : List String) (l l' : Library) : Prop where
  /-- Every root was read. -/
  loads : ∀ role ∈ Scaffold.roles, ∀ root ∈ roots, ∃ f, roleForest host w role root = .ok f
  tree : ∀ role ∈ Scaffold.roles, ∀ name, (l'.forest role).find? name =
    ((l.forest role).find? name).or (roots.findSome? (treeOf? host w role name))
  other : ∀ role ∉ Scaffold.roles, l'.forest role = l.forest role
  snippet : ∀ name, (l'.snippet? name).map .ok =
    ((l.snippet? name).map .ok).or (roots.findSome? (snippetOf? host w name))

/-- A library that has of each name what the first of the roots has that provides it: an assistant
with all that is below it in this root, a snippet as it reads there. -/
structure Union (roots : List String) (l : Library) : Prop where
  /-- Every root was read. -/
  loads : ∀ role ∈ Scaffold.roles, ∀ root ∈ roots, ∃ f, roleForest host w role root = .ok f
  chain : ∀ role ∈ Scaffold.roles, ∀ name rest, l.chain role (name :: rest) =
    match roots.findSome? (forestOf? host w role name) with
    | some f => chainIn role f (name :: rest)
    | none => .error (notFound role (name :: rest))
  snippet : ∀ name, (l.snippet? name).map .ok = roots.findSome? (snippetOf? host w name)

variable {host w}

theorem forest_loadRole {root role : String} {l l' : Library}
    (h : loadRole host w root l role = .ok l') :
    ∃ new, roleForest host w role root = .ok new ∧
      (∀ name, (l'.forest role).find? name = ((l.forest role).find? name).or (new.find? name)) ∧
      (∀ r ≠ role, l'.forest r = l.forest r) ∧ l'.snippets = l.snippets := by
  rw [roleForest, forestAt]
  rw [loadRole] at h
  split at h
  · rename_i hdir
    rw [if_pos hdir]
    obtain ⟨new, hnew, h⟩ := exists_of_bind_ok h
    refine ⟨new, hnew, ?_⟩
    split at h
    · rename_i hempty
      cases h
      rw [List.isEmpty_iff.mp hempty]
      exact ⟨fun _ => Option.or_none.symm, fun _ _ => rfl, rfl⟩
    · cases h
      refine ⟨fun name => ?_, fun r hr => ?_, rfl⟩
      · rw [forest, Table.get?_insert_self, Option.getD_some, find?_mergeForest]
      · rw [forest, Table.get?_insert_of_ne _ _ (Ne.symm hr)]
        rfl
  · rename_i hdir
    rw [if_neg hdir]
    cases h
    exact ⟨[], rfl, fun _ => Option.or_none.symm, fun _ _ => rfl, rfl⟩

theorem forest_foldlM_loadRole {root : String} : ∀ {roles : List String} {l l' : Library},
    roles.Nodup → roles.foldlM (loadRole host w root) l = .ok l' →
      (∀ role ∈ roles, ∃ new, roleForest host w role root = .ok new ∧
        ∀ name, (l'.forest role).find? name =
          ((l.forest role).find? name).or (new.find? name)) ∧
      (∀ role ∉ roles, l'.forest role = l.forest role) ∧ l'.snippets = l.snippets
  | [], l, l', _, h => by
    cases h
    exact ⟨fun _ hmem => absurd hmem (List.not_mem_nil), fun _ _ => rfl, rfl⟩
  | role :: roles, l, l', hnodup, h => by
    obtain ⟨hnot, hnodup⟩ := List.nodup_cons.mp hnodup
    rw [List.foldlM_cons] at h
    obtain ⟨l₁, hstep, h⟩ := exists_of_bind_ok h
    obtain ⟨new, hnew, hrole, hother, hsnippets⟩ := forest_loadRole hstep
    obtain ⟨hroles, hothers, hall⟩ := forest_foldlM_loadRole hnodup h
    refine ⟨fun r hr => ?_, fun r hr => ?_, hall.trans hsnippets⟩
    · rcases List.mem_cons.mp hr with rfl | hmem
      · exact ⟨new, hnew, fun name => by rw [hothers r hnot, hrole]⟩
      · rw [← hother r (ne_of_mem_of_not_mem hmem hnot)]
        exact hroles r hmem
    · obtain ⟨hne, hr⟩ := List.ne_and_not_mem_of_not_mem_cons hr
      rw [hothers r hr, hother r hne]

theorem snippet_loadSnippet {root path : String} {l l' : Library}
    (h : loadSnippet host w root l path = .ok l') :
    l'.assistants = l.assistants ∧ ∀ name, (l'.snippet? name).map Except.ok =
      ((l.snippet? name).map .ok).or (if scriptName path = name then
        some (readSnippet host w path (Path.join (Path.join root "files") "snippets"))
        else none) := by
  rw [loadSnippet] at h
  split at h
  · rename_i hold
    cases h
    refine ⟨rfl, fun name => ?_⟩
    split
    · rename_i hname
      obtain ⟨s, hs⟩ := Option.isSome_iff_exists.mp (hname ▸ hold)
      rw [snippet?, hs]
      rfl
    · exact Option.or_none.symm
  · rename_i hnew
    obtain ⟨s, hs, h⟩ := exists_of_map_ok h
    cases h
    refine ⟨rfl, fun name => ?_⟩
    rw [snippet?, addSnippet, Table.get?_insert, name_of_readSnippet hs, hs]
    split
    · rename_i hname
      have hnone : l.snippet? name = none := by
        rw [← Option.isNone_iff_eq_none, ← Option.isSome_eq_false_iff, ← hname]
        exact Bool.not_eq_true _ ▸ hnew
      rw [hnone]
      rfl
    · exact Option.or_none.symm

theorem snippet_foldlM_loadSnippet {root : String} : ∀ {paths : List String} {l l' : Library},
    paths.foldlM (loadSnippet host w root) l = .ok l' →
      l'.assistants = l.assistants ∧ ∀ name, (l'.snippet? name).map Except.ok =
        ((l.snippet? name).map .ok).or ((paths.find? (scriptName · == name)).map
          (readSnippet host w · (Path.join (Path.join root "files") "snippets")))
  | [], l, l', h => by
    cases h
    exact ⟨rfl, fun _ => Option.or_none.symm⟩
  | path :: paths, l, l', h => by
    rw [List.foldlM_cons] at h
    obtain ⟨l₁, hstep, h⟩ := exists_of_bind_ok h
    obtain ⟨hassistants, hsnippet⟩ := snippet_loadSnippet hstep
    obtain ⟨hall, hsnippets⟩ := snippet_foldlM_loadSnippet h
    refine ⟨hall.trans hassistants, fun name => ?_⟩
    rw [hsnippets, hsnippet, Option.or_assoc, List.find?_cons]
    by_cases hname : scriptName path = name
    · rw [if_pos hname, beq_iff_eq.mpr hname]
      rfl
    · rw [if_neg hname, beq_false_of_ne hname]
      rfl

theorem snippet_of_directory {root : String} {l l' : Library}
    (h : (if host.isDir w (Path.join root "snippets") then
        (scriptFiles host w (Path.join root "snippets")).foldlM (loadSnippet host w root) l
      else .ok l) = .ok l') :
    l'.assistants = l.assistants ∧ ∀ name, (l'.snippet? name).map .ok =
      ((l.snippet? name).map .ok).or (snippetOf? host w name root) := by
  unfold snippetOf?
  dsimp only
  split at h
  · rename_i hdir
    simp only [if_pos hdir]
    exact snippet_foldlM_loadSnippet h
  · rename_i hdir
    simp only [if_neg hdir]
    cases h
    exact ⟨rfl, fun _ => Option.or_none.symm⟩

/-- One root. -/
theorem grown_of_loadRoot {root : String} {l l' : Library}
    (h : loadRoot host w l root = .ok l') : Grown host w [root] l l' := by
  obtain ⟨l₁, hroles, h⟩ := exists_of_bind_ok h
  obtain ⟨hforest, hother, hsnippets⟩ := forest_foldlM_loadRole (by decide) hroles
  obtain ⟨hassistants, hsnippet⟩ := snippet_of_directory h
  have hall : ∀ role, l'.forest role = l₁.forest role := fun role => by
    rw [forest, forest, hassistants]
  refine ⟨fun role hrole r hr => ?_, fun role hrole name => ?_, fun role hrole => ?_,
    fun name => ?_⟩
  · obtain ⟨new, hnew, -⟩ := hforest role hrole
    rw [List.mem_singleton.mp hr]
    exact ⟨new, hnew⟩
  · obtain ⟨new, hnew, hfind⟩ := hforest role hrole
    have htree : treeOf? host w role name root = new.find? name := by
      rw [treeOf?, hnew]
    rw [hall, hfind, List.findSome?_singleton, htree]
  · rw [hall, hother role hrole]
  · rw [hsnippet, List.findSome?_singleton, snippet?, hsnippets]
    rfl

theorem Grown.refl (l : Library) : Grown host w [] l l where
  loads _ _ _ hmem := absurd hmem List.not_mem_nil
  tree _ _ _ := Option.or_none.symm
  other _ _ := rfl
  snippet _ := Option.or_none.symm

theorem Grown.trans {roots more : List String} {l₁ l₂ l₃ : Library}
    (h : Grown host w roots l₁ l₂) (h' : Grown host w more l₂ l₃) :
    Grown host w (roots ++ more) l₁ l₃ where
  loads role hrole root hroot := (List.mem_append.mp hroot).elim
    (h.loads role hrole root) (h'.loads role hrole root)
  tree role hrole name := by
    rw [h'.tree role hrole, h.tree role hrole, List.findSome?_append, Option.or_assoc]
  other role hrole := (h'.other role hrole).trans (h.other role hrole)
  snippet name := by
    rw [h'.snippet, h.snippet, List.findSome?_append, Option.or_assoc]

theorem grown_of_foldlM : ∀ {roots : List String} {l l' : Library},
    roots.foldlM (loadRoot host w) l = .ok l' → Grown host w roots l l'
  | [], l, l', h => by
    cases h
    exact .refl l
  | root :: roots, l, l', h => by
    rw [List.foldlM_cons] at h
    obtain ⟨l₁, hstep, h⟩ := exists_of_bind_ok h
    exact (grown_of_loadRoot hstep).trans (grown_of_foldlM h)

/-- The assistants on a path depend on the tree at its start. -/
theorem chainIn_congr {f g : Forest} {name : String} (h : f.find? name = g.find? name)
    (role : String) (rest : List String) :
    chainIn role f (name :: rest) = chainIn role g (name :: rest) := by
  rw [chainIn, chainIn, Forest.chain?, Forest.chain?, h]

theorem chain_cons (l : Library) (role name : String) (rest : List String) :
    l.chain role (name :: rest) = chainIn role (l.forest role) (name :: rest) := by
  rw [chain, if_neg (by simp)]
  rfl

/-- **A loaded library is the union of its roots, where earlier ones come first.** -/
theorem union_of_load {roots : List String} {l : Library} (h : load host w roots = .ok l) :
    Union host w roots l := by
  have hgrown : Grown host w roots {} l := grown_of_foldlM h
  refine ⟨hgrown.loads, fun role hrole name rest => ?_, fun name => ?_⟩
  · have htree : (l.forest role).find? name =
        (roots.findSome? (forestOf? host w role name)).bind (·.find? name) := by
      rw [hgrown.tree role hrole, ← findSome?_treeOf?]
      rfl
    rw [chain_cons]
    cases hf : roots.findSome? (forestOf? host w role name) with
    | some f =>
      rw [hf, Option.bind_some] at htree
      exact chainIn_congr htree role rest
    | none =>
      rw [hf, Option.bind_none] at htree
      rw [chainIn, Forest.chain?, htree]
  · rw [hgrown.snippet]
    rfl

/-- More roots change nothing that resolves. -/
theorem Grown.chain_eq_ok {more : List String} {l l' : Library} (h : Grown host w more l l')
    {role : String} {names : List String} {assistants : List Assistant}
    (hchain : l.chain role names = .ok assistants) : l'.chain role names = .ok assistants := by
  cases names with
  | nil => cases hchain
  | cons name rest =>
    rw [chain_cons] at *
    by_cases hrole : role ∈ Scaffold.roles
    · cases ht : (l.forest role).find? name with
      | none =>
        rw [chainIn, Forest.chain?, ht] at hchain
        cases hchain
      | some t =>
        have hsame : (l'.forest role).find? name = (l.forest role).find? name := by
          rw [h.tree role hrole, ht, Option.some_or]
        rw [chainIn_congr hsame]
        exact hchain
    · rw [h.other role hrole]
      exact hchain

theorem Grown.snippet?_eq_some {more : List String} {l l' : Library} (h : Grown host w more l l')
    {name : String} {s : Snippet} (hs : l.snippet? name = some s) : l'.snippet? name = some s := by
  have := h.snippet name
  rw [hs, Option.map_some, Option.some_or] at this
  obtain ⟨s', hs', heq⟩ := Option.map_eq_some_iff.mp this
  cases heq
  exact hs'

/-- **Loading takes the union of the roots, the earlier ones first.** Each path of assistants is
looked up in what one root provides, the first that has the name at its start, and each snippet is
read from the first root that has a file for it; a name stands for one file of a directory, for one
with the extension `yaml` before one with `yml`. So no root behind the others changes what
resolves. -/
theorem load_left_biased {roots : List String} {l : Library} (h : load host w roots = .ok l) :
    Union host w roots l ∧
    (∀ depth dir filesDir f, loadForest host w (depth + 1) dir filesDir = .ok f → ∀ name,
      (fileOf? host w dir name).map (loadTree host w depth dir filesDir) =
        (f.find? name).map .ok) ∧
    (∀ dir, host.Lists w dir → ∀ p ∈ scriptFiles host w dir,
      Path.extension? (Path.baseName p) = some "yaml" →
        ∃ q, fileOf? host w dir (scriptName p) = some q ∧
          (q = p ∨ Path.baseName q = scriptName p ∧ Path.extension? (Path.baseName q) = none)) ∧
    ∀ more l', load host w (roots ++ more) = .ok l' →
      (∀ role names assistants, l.chain role names = .ok assistants →
        l'.chain role names = .ok assistants) ∧
      ∀ name s, l.snippet? name = some s → l'.snippet? name = some s := by
  refine ⟨union_of_load h, fun _ _ _ _ => find?_loadForest,
    fun _ hlists _ => fileOf?_of_yaml hlists, fun more l' hmore => ?_⟩
  rw [load, List.foldlM_append] at hmore
  obtain ⟨l₁, hroots, hmore⟩ := exists_of_bind_ok hmore
  have hl : l₁ = l := Except.ok.inj (hroots.symm.trans h)
  have hgrown : Grown host w more l l' := hl ▸ grown_of_foldlM hmore
  exact ⟨fun _ _ _ => hgrown.chain_eq_ok, fun _ _ => hgrown.snippet?_eq_some⟩

end Union

section Shelf

/-! A host with two roots, `near` and `far`, that both have an assistant `py` and a snippet `git`;
the assistant in `near` is there twice, and there is another below it. -/

/-- Directories, with the names in them. -/
def Shelf.dirs : List (String × List String) :=
  [("near/assistants/crt", ["py", "py.yaml", "py.yml"]),
   ("near/assistants/crt/py", ["web.yaml"]),
   ("near/snippets", ["git.yml"]),
   ("far/assistants/crt", ["py.yaml"]),
   ("far/assistants/crt/py", ["gui.yaml"]),
   ("far/snippets", ["git.yml"])]

/-- Files, with what they hold. -/
def Shelf.files : List (String × String) :=
  [("near/assistants/crt/py.yaml", "fullname: Near"),
   ("near/assistants/crt/py.yml", "fullname: Old"),
   ("near/assistants/crt/py/web.yaml", "fullname: Web"),
   ("near/snippets/git.yml", "run:\n- cl: git init\n"),
   ("far/assistants/crt/py.yaml", "fullname: Far"),
   ("far/assistants/crt/py/gui.yaml", "fullname: Gui"),
   ("far/snippets/git.yml", "run:\n- cl: git clone\n")]

/-- A host on which no process starts, with these files. -/
def Shelf.host : Host Unit where
  spawn w _ := (.error .noEntry, w)
  isDir _ dir := (dirs.lookup dir).isSome
  isFile _ path := (files.lookup path).isSome
  listDir _ dir := (dirs.lookup dir).getD []
  canonical? _ _ := none
  readText _ path := ((files.lookup path).map .ok).getD (.error .noEntry)
  writeText w _ _ := (.ok (), w)
  currentDir _ := "/"
  home? _ := none
  environment? _ _ := none

/-- What is read from roots: the full names on paths of assistants, and the section of a snippet. -/
def Shelf.summary (roots : List String) :
    Option (List (Option (List String)) × Option Section) :=
  (load Shelf.host () roots).toOption.map fun l =>
    ([["py"], ["py", "web"], ["py", "gui"]].map fun names =>
      (l.chain "crt" names).toOption.map (List.map Assistant.fullname),
    (l.snippet? "git").bind fun s => s.sections.get? "run")

theorem Shelf.scriptFiles_near : scriptFiles Shelf.host () "near/assistants/crt" =
    ["near/assistants/crt/py.yaml", "near/assistants/crt/py.yml"] := by
  have hlisted : ((Shelf.host.listDir () "near/assistants/crt").filter fun name =>
      Text.endsWith ".yaml" name || Text.endsWith ".yml" name) = ["py.yaml", "py.yml"] := by
    decide +kernel
  rw [scriptFiles_eq, scriptNames, hlisted, List.mergeSort_of_pairwise (by decide +kernel)]
  decide +kernel

theorem Shelf.summary_near :
    Shelf.summary ["near"] =
        some ([some ["Near"], some ["Near", "Web"], none], some [⟨"cl", .text "git init"⟩]) ∧
      Shelf.summary ["near", "far"] =
        some ([some ["Near"], some ["Near", "Web"], none], some [⟨"cl", .text "git init"⟩]) := by
  have hdir : Path.join (Path.join "near" "assistants") "crt" = "near/assistants/crt" := by
    decide +kernel
  constructor
  -- the directory with two files is listed before the rest is computed
  all_goals
    rw [Shelf.summary, load, List.foldlM_cons, loadRoot, Scaffold.roles, List.foldlM_cons, loadRole,
      hdir, show nestingLimit = 2047 + 1 from rfl, loadForest_succ, Shelf.scriptFiles_near]
    decide +kernel

/-- What `near` has below `py` resolves with and without `far`, and what `far` has there never
does. The snippet has the section that stands in the file of `near`, with and without `far`. -/
theorem load_left_biased_shelf : ∃ l l',
    load Shelf.host () ["near"] = .ok l ∧ load Shelf.host () ["near", "far"] = .ok l' ∧
    Union Shelf.host () ["near"] l ∧ (l'.chain "crt" ["py", "gui"]).toOption = none ∧
    fileOf? Shelf.host () "near/assistants/crt" "py" = some "near/assistants/crt/py.yaml" ∧
    (∃ assistants, l.chain "crt" ["py", "web"] = .ok assistants ∧
      l'.chain "crt" ["py", "web"] = .ok assistants ∧
      assistants.map Assistant.fullname = ["Near", "Web"]) ∧
    ∃ s, l.snippet? "git" = some s ∧ l'.snippet? "git" = some s ∧
      s.sections.get? "run" = some [⟨"cl", .text "git init"⟩] := by
  obtain ⟨hnear, hboth⟩ := Shelf.summary_near
  obtain ⟨l, hl, hsummary⟩ := Option.map_eq_some_iff.mp hnear
  obtain ⟨l', hl', hsummary'⟩ := Option.map_eq_some_iff.mp hboth
  obtain ⟨hunion, -, hfile, hmore⟩ := load_left_biased (eq_ok_of_toOption hl)
  obtain ⟨hkeeps, hkept⟩ := hmore ["far"] l' (eq_ok_of_toOption hl')
  have hweb : (l.chain "crt" ["py", "web"]).toOption.map (List.map Assistant.fullname) =
      some ["Near", "Web"] :=
    (List.cons.inj (List.cons.inj (Prod.mk.inj hsummary).1).2).1
  have hgui : (l'.chain "crt" ["py", "gui"]).toOption.map (List.map Assistant.fullname) = none :=
    (List.cons.inj (List.cons.inj (List.cons.inj (Prod.mk.inj hsummary').1).2).2).1
  obtain ⟨assistants, hchain, hnames⟩ := Option.map_eq_some_iff.mp hweb
  obtain ⟨s, hsnippet, hrun⟩ := Option.bind_eq_some_iff.mp (Prod.mk.inj hsummary).2
  refine ⟨l, l', eq_ok_of_toOption hl, eq_ok_of_toOption hl', hunion,
    Option.map_eq_none_iff.mp hgui, ?_, ⟨assistants, eq_ok_of_toOption hchain,
    hkeeps _ _ _ (eq_ok_of_toOption hchain), hnames⟩, s, hsnippet, hkept _ _ hsnippet, hrun⟩
  have hlists : Shelf.host.Lists () "near/assistants/crt" := by
    unfold Host.Lists
    decide +kernel
  obtain ⟨q, hq, hcases⟩ := hfile _ hlists "near/assistants/crt/py.yaml"
    (by rw [Shelf.scriptFiles_near]; decide) (by decide +kernel)
  have hname : scriptName "near/assistants/crt/py.yaml" = "py" := by decide +kernel
  rw [hname] at hq hcases
  rcases hcases with rfl | ⟨-, hext⟩
  · exact hq
  · have hmem := List.mem_of_find?_eq_some hq
    rw [Shelf.scriptFiles_near] at hmem
    have hextension : ∀ path ∈ ["near/assistants/crt/py.yaml", "near/assistants/crt/py.yml"],
        Path.extension? (Path.baseName path) ≠ none := by decide +kernel
    exact absurd hext (hextension q hmem)

end Shelf

end Library

end Scaffold
