import Scaffold.Proofs.Loading
import Scaffold.Proofs.Marker

/-!
# Adding to a library

An assistant is added below a path of names, and a path of names is resolved, by going down in the
same way: into the first tree of a name. So an assistant is found where it was added unless another
of its name was there before it, and nothing that resolves is lost or changed, however many trees
next to each other have one name.

* `Library.Resolves`: a path of names below a role is there.
* `Library.Adding`: what an addition does to the paths of a library.
* `Library.addAll`: a library after several additions.

Results:
* `find?_updateFirst`: what is found next to a tree that is changed.
* `isSome_add?`: an assistant can be added below what is there.
* **`chain?_add?`**, `chain?_addAssistant`: what resolves in a forest that was added to, and in a
  library.
* **`addAssistant_resolves`**: the same for libraries, and what every path has that resolves.
* `chain_addAll`: what resolves stays what it is through any additions.
-/

namespace Scaffold

namespace Tree

variable (a : Assistant) (ts : List Tree)

@[simp] theorem assistant_node : (node a ts).assistant = a := rfl

@[simp] theorem children_node : (node a ts).children = ts := rfl

@[simp] theorem name_node : (node a ts).name = a.name := rfl

end Tree

namespace Forest

variable {a : Assistant} {f g : Forest}

/-! ## Going down -/

theorem chain?_cons (f : Forest) (name : String) (rest : List String) :
    f.chain? (name :: rest) =
      (f.find? name).bind fun t => (chain? t.children rest).map (t.assistant :: ·) := by
  rw [chain?]
  cases f.find? name <;> rfl

theorem add?_cons (a : Assistant) (name : String) (rest : List String) (f : Forest) :
    f.add? a (name :: rest) =
      (f.find? name).bind fun t => (add? a rest t.children).map fun children =>
        f.updateFirst name fun t => .node t.assistant children := by
  rw [add?]
  cases f.find? name <;> rfl

/-- What is found next to a tree that is changed and keeps its name. -/
theorem find?_updateFirst {change : Tree → Tree} (hchange : ∀ t, (change t).name = t.name)
    (name n : String) (f : Forest) :
    (f.updateFirst name change).find? n =
      if n = name then (f.find? n).map change else f.find? n := by
  induction f with
  | nil => by_cases hn : n = name <;> simp [updateFirst, find?, hn]
  | cons t rest ih =>
    unfold updateFirst
    by_cases ht : t.name = name
    · rw [if_pos (beq_iff_eq.mpr ht), find?_cons, find?_cons, hchange, ht]
      by_cases hn : n = name
      · simp [hn]
      · simp [hn, Ne.symm hn]
    · have hbeq : ¬ (t.name == name) = true := by simpa using ht
      rw [if_neg hbeq, find?_cons, find?_cons, ih]
      by_cases hn : t.name = n
      · simp [hn, show n ≠ name from hn ▸ ht]
      · simp [hn]

/-- An assistant can be added below what is there. -/
theorem isSome_add? (a : Assistant) : ∀ (parents : List String) (f : Forest),
    (f.add? a parents).isSome = (f.chain? parents).isSome
  | [], _ => rfl
  | name :: rest, f => by
    rw [chain?_cons, add?_cons]
    cases f.find? name with
    | none => rfl
    | some t =>
      simp only [Option.bind_some, Option.isSome_map]
      exact isSome_add? a rest t.children

/-! ## What resolves behind an addition -/

/-- An assistant at the end of a forest is found if no other of its name is. -/
theorem chain?_append (a : Assistant) (f : Forest) : ∀ names : List String,
    chain? (f ++ [.node a []]) names =
      (f.chain? names).or (if names = [a.name] then some [a] else none)
  | [] => rfl
  | name :: rest => by
    rw [chain?_cons, chain?_cons, find?_append, find?_cons]
    rcases hfound : f.find? name with _ | t
    · by_cases hname : a.name = name
      · -- a new assistant has nothing below it
        cases rest with
        | nil => simp [chain?, hname]
        | cons next rest => simp [chain?, find?, hname]
      · simp [find?, hname, Ne.symm hname]
    · cases rest with
      | nil => simp [chain?]
      | cons next rest => simp

/-- **What resolves in a forest that was added to**: what did before, and else the path to the
assistant that was added. -/
theorem chain?_add? : ∀ {parents : List String} {f g : Forest}, f.add? a parents = some g →
    ∀ names, g.chain? names = (f.chain? names).or
      (if names = parents ++ [a.name] then (f.chain? parents).map (· ++ [a]) else none)
  | [], f, g, h, names => by
    cases h
    exact chain?_append a f names
  | parent :: rest, f, g, h, [] => by
    simp [chain?]
  | parent :: rest, f, g, h, name :: names => by
    rw [add?_cons] at h
    obtain ⟨t, ht, h⟩ := Option.bind_eq_some_iff.mp h
    obtain ⟨children, hchildren, rfl⟩ := Option.map_eq_some_iff.mp h
    have hkeeps : ∀ t : Tree, (Tree.node t.assistant children).name = t.name := fun _ => rfl
    rw [chain?_cons, chain?_cons, chain?_cons, find?_updateFirst hkeeps]
    by_cases hname : name = parent
    · subst hname
      rw [if_pos rfl, ht]
      simp only [Option.map_some, Option.bind_some, Tree.children_node, Tree.assistant_node]
      rw [chain?_add? hchildren names, Option.map_or]
      by_cases hnames : names = rest ++ [a.name]
      · simp [hnames, Function.comp_def]
      · simp [hnames]
    · simp [hname]

/-- What is on the way to what resolves resolves too. -/
theorem chain?_of_append : ∀ {front behind : List String} {f : Forest} {chain : List Assistant},
    f.chain? (front ++ behind) = some chain → f.chain? front = some (chain.take front.length)
  | [], _, _, _, _ => rfl
  | name :: front, behind, f, chain, h => by
    rw [List.cons_append, chain?_cons] at h
    obtain ⟨t, ht, h⟩ := Option.bind_eq_some_iff.mp h
    obtain ⟨below, hbelow, rfl⟩ := Option.map_eq_some_iff.mp h
    rw [chain?_cons, ht, Option.bind_some, chain?_of_append hbelow, List.length_cons,
      List.take_succ_cons, Option.map_some]

end Forest

namespace Library

variable {l l' : Library} {role : String} {parents names : List String} {a : Assistant}
  {chain : List Assistant}

/-- A path of names below a role is there. -/
def Resolves (l : Library) (role : String) (names : List String) : Prop :=
  ∃ chain, l.chain role names = .ok chain

theorem chain_eq_ok_iff :
    l.chain role names = .ok chain ↔ names ≠ [] ∧ (l.forest role).chain? names = some chain := by
  refine ⟨chain_eq_ok, fun ⟨hnames, hchain⟩ => ?_⟩
  rw [Library.chain, if_neg (by simpa using hnames), hchain]

theorem resolves_iff :
    l.Resolves role names ↔ names ≠ [] ∧ ((l.forest role).chain? names).isSome = true := by
  unfold Resolves
  simp only [chain_eq_ok_iff, Option.isSome_iff_exists, exists_and_left]

/-! ## One addition -/

/-- What an addition does to the paths of a library. -/
structure Adding (l l' : Library) (role : String) (parents : List String) (a : Assistant) :
    Prop where
  /-- What resolved resolves to the same. -/
  kept : ∀ role' names chain, l.chain role' names = .ok chain → l'.chain role' names = .ok chain
  /-- The path to what is added resolves to what is above it and to it, if it did not resolve. -/
  added : ¬ l.Resolves role (parents ++ [a.name]) →
    ∃ above, (parents = [] ∧ above = [] ∨ l.chain role parents = .ok above) ∧
      l'.chain role (parents ++ [a.name]) = .ok (above ++ [a])
  /-- Every other path that did not resolve does not. -/
  others : ∀ role' names, (role', names) ≠ (role, parents ++ [a.name]) →
    ¬ l.Resolves role' names → ¬ l'.Resolves role' names

/-- What a path has that resolves. -/
structure Leads (l : Library) (role : String) (names : List String) (chain : List Assistant) :
    Prop where
  length : chain.length = names.length
  /-- Each assistant has the name that it is found by. -/
  named : chain.map Assistant.name = names
  /-- What is on the way resolves to the assistants up to there. -/
  front : ∀ front, front ≠ [] → front <+: names →
    l.chain role front = .ok (chain.take front.length)

theorem leads_of_chain (h : l.chain role names = .ok chain) : l.Leads role names chain where
  length := by rw [← names_of_chain h, List.length_map]
  named := names_of_chain h
  front front hfront hprefix := by
    obtain ⟨behind, rfl⟩ := hprefix
    exact chain_eq_ok_iff.mpr ⟨hfront, Forest.chain?_of_append (chain_eq_ok h).2⟩

theorem forest_insert (l : Library) (role r : String) (f : Forest) :
    forest { l with assistants := l.assistants.insert role f } r =
      if role = r then f else l.forest r := by
  unfold forest
  rw [Table.get?_insert]
  by_cases hr : role = r <;> simp [hr]

theorem addAssistant_of_add? {f : Forest} (h : (l.forest role).add? a parents = some f) :
    l.addAssistant role parents a =
      (.ok (), { l with assistants := l.assistants.insert role f }) := by
  rw [addAssistant, h]

/-- An addition that fails leaves the forest of every role as it was. -/
theorem forest_of_add?_eq_none (h : (l.forest role).add? a parents = none) (r : String) :
    (l.addAssistant role parents a).2.forest r = l.forest r := by
  rw [addAssistant, h]
  dsimp only
  rw [forest_insert]
  by_cases hr : role = r <;> simp [hr]

theorem addAssistant_ok_iff :
    (l.addAssistant role parents a).1 = .ok () ↔ parents = [] ∨ l.Resolves role parents := by
  have hadd : (l.addAssistant role parents a).1 = .ok () ↔
      ((l.forest role).add? a parents).isSome = true := by
    rcases h : (l.forest role).add? a parents with _ | f
    · rw [addAssistant, h]
      simp
    · rw [addAssistant_of_add? h]
      simp
  rw [hadd, Forest.isSome_add?, resolves_iff]
  by_cases hparents : parents = []
  · simp [hparents, Forest.chain?]
  · simp [hparents]

/-- What resolves in a library that was added to: what did before, and else the path to the
assistant that was added. -/
theorem chain?_addAssistant {f : Forest} (h : (l.forest role).add? a parents = some f)
    (r : String) (names : List String) :
    ((l.addAssistant role parents a).2.forest r).chain? names =
      ((l.forest r).chain? names).or
        (if (r, names) = (role, parents ++ [a.name]) then
          ((l.forest role).chain? parents).map (· ++ [a]) else none) := by
  rw [addAssistant_of_add? h, forest_insert]
  by_cases hr : role = r
  · subst hr
    rw [if_pos rfl, Forest.chain?_add? h]
    simp
  · have hother : (r, names) ≠ (role, parents ++ [a.name]) := fun heq =>
      hr (congrArg Prod.fst heq).symm
    rw [if_neg hr, if_neg hother, Option.or_none]

theorem adding_of_add? {f : Forest} (h : (l.forest role).add? a parents = some f) :
    Adding l (l.addAssistant role parents a).2 role parents a where
  kept role' names chain hchain := by
    obtain ⟨hnames, hchain⟩ := chain_eq_ok hchain
    refine chain_eq_ok_iff.mpr ⟨hnames, ?_⟩
    rw [chain?_addAssistant h, hchain, Option.some_or]
  added hnew := by
    have hnone : (l.forest role).chain? (parents ++ [a.name]) = none := by
      rw [resolves_iff] at hnew
      simpa using hnew
    have hparents : ((l.forest role).chain? parents).isSome = true := by
      rw [← Forest.isSome_add? a, h]
      rfl
    obtain ⟨above, habove⟩ := Option.isSome_iff_exists.mp hparents
    refine ⟨above, ?_, chain_eq_ok_iff.mpr ⟨by simp, ?_⟩⟩
    · by_cases hempty : parents = []
      · subst hempty
        cases habove
        exact .inl ⟨rfl, rfl⟩
      · exact .inr (chain_eq_ok_iff.mpr ⟨hempty, habove⟩)
    · rw [chain?_addAssistant h, hnone, if_pos rfl, habove]
      rfl
  others role' names hother hmissing hresolves := by
    rw [resolves_iff] at hmissing hresolves
    rw [chain?_addAssistant h, if_neg hother, Option.or_none] at hresolves
    exact hmissing hresolves

/-- **Adding an assistant** to any library, however it was built. It succeeds exactly if the path
that it is added below is empty or resolves. Then all that resolved still resolves to the same, the
path to the assistant resolves to it unless it resolved before, and nothing else has come to
resolve.
Every path that resolves gives assistants of its names, and so does every path on the way. -/
theorem addAssistant_resolves (l : Library) (role : String) (parents : List String)
    (a : Assistant) :
    ((l.addAssistant role parents a).1 = .ok () ↔ parents = [] ∨ l.Resolves role parents) ∧
    ((l.addAssistant role parents a).1 = .ok () →
      Adding l (l.addAssistant role parents a).2 role parents a) ∧
    ∀ role' names chain, l.chain role' names = .ok chain → l.Leads role' names chain := by
  refine ⟨addAssistant_ok_iff, fun h => ?_, fun _ _ _ => leads_of_chain⟩
  rcases hadd : (l.forest role).add? a parents with _ | f
  · rw [addAssistant, hadd] at h
    cases h
  · exact adding_of_add? hadd

/-! ## Several additions -/

/-- An assistant to be added, and where. -/
structure Addition where
  role : String
  parents : List String
  assistant : Assistant

/-- A library after additions, those that fail among them. -/
def addAll (l : Library) (additions : List Addition) : Library :=
  additions.foldl (fun l x => (l.addAssistant x.role x.parents x.assistant).2) l

/-- **What resolves stays what it is**, whatever is added, and whether it can be added or not. -/
theorem chain_addAll (h : l.chain role names = .ok chain) (additions : List Addition) :
    (l.addAll additions).chain role names = .ok chain := by
  induction additions generalizing l with
  | nil => exact h
  | cons x rest ih =>
    refine ih (l := (l.addAssistant x.role x.parents x.assistant).2) ?_
    rcases hadd : (l.forest x.role).add? x.assistant x.parents with _ | f
    · rw [chain_eq_ok_iff, forest_of_add?_eq_none hadd]
      exact chain_eq_ok h
    · exact (adding_of_add? hadd).kept role names chain h

/-- A library with two trees of one name, the first of which has another below it. -/
def twins : Library :=
  addAll {} [⟨"crt", [], { name := "python" }⟩, ⟨"crt", ["python"], { name := "django" }⟩,
    ⟨"crt", [], { name := "python", fullname := "Another" }⟩]

/-- An addition goes below the first of two trees with one name, where it is looked for. -/
theorem addAssistant_resolves_twins :
    (twins.addAssistant "crt" ["python"] { name := "flask" }).1 = .ok () ∧
    ∃ above, twins.chain "crt" ["python"] = .ok above ∧ above.map Assistant.fullname = [""] ∧
      (twins.addAssistant "crt" ["python"] { name := "flask" }).2.chain "crt" ["python", "flask"] =
        .ok (above ++ [{ name := "flask" }]) := by
  obtain ⟨hok, hadding, -⟩ := addAssistant_resolves twins "crt" ["python"] { name := "flask" }
  have hparents : twins.Resolves "crt" ["python"] := resolves_iff.mpr (by decide +kernel)
  have hsuccess := hok.mpr (.inr hparents)
  have hnew : ¬ twins.Resolves "crt" (["python"] ++ ["flask"]) := by
    rw [resolves_iff]
    decide +kernel
  obtain ⟨above, habove, hadded⟩ := (hadding hsuccess).added hnew
  have hchain : twins.chain "crt" ["python"] = .ok above := habove.resolve_left (by simp)
  have hfirst : (twins.chain "crt" ["python"]).toOption.map (·.map Assistant.fullname) =
      some [""] := by decide +kernel
  rw [hchain] at hfirst
  exact ⟨hsuccess, above, hchain, Option.some.inj hfirst, hadded⟩

end Library

end Scaffold
