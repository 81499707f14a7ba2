import Scaffold.Proofs.Collect
import Scaffold.Proofs.Related

/-!
# Collecting resolves

What is collected is a list of packages that needs nothing more: no condition or loop is left in it,
and no reference is filled in by collecting it a second time. So the list, written out as a section,
is a normal form of the section that it was collected from.

* `Section.ofDependencies`: the section that a list of packages is written as. `Section.declared`:
  the list that a section of packages declares.
* `Run.GivesPackages`: a computation that gives packages of known kinds alone.

Results:
* `formatValue_empty`: without variables and files, a value is filled in as it is.
* `dependencies_of_packages`: a section of packages declares them with their arguments filled in.
* `collect_ofDependencies`: a list of packages declares itself, in any context without either.
* `givesPackages_dependencies`: whatever is collected is of a kind that can be installed.
* **`resolved_of_collected`**: what is collected has kinds that can be installed, is read back from
  its value, and is what the section that it is written as declares.
-/

namespace Scaffold

variable {W α β : Type}

/-! ## Filling in without variables -/

namespace Template

/-- A reference to a variable that is not set stays as it is written. -/
theorem Piece.expand_empty (p : Piece) : p.expand ∅ = p.source := by
  cases p <;> rfl

theorem interpolate_empty (s : String) : interpolate ∅ s = s := by
  rw [interpolate, funext Piece.expand_empty, source_pieces, String.ofList_toList]

mutual

/-- **Without variables and files**, a value is filled in as it is. -/
theorem formatValue_empty : ∀ v : Value, formatValue ∅ none v = v
  | .text s => by rw [formatValue, format, interpolate_empty]
  | .list items => by rw [formatValue, formatList_empty items]
  | .mapping entries => by rw [formatValue, formatEntries_empty entries]
  | .null | .bool _ | .int _ | .float _ | .tagged _ _ => by simp only [formatValue]

theorem formatList_empty : ∀ vs : List Value, formatList ∅ none vs = vs
  | [] => by rw [formatList]
  | v :: vs => by rw [formatList, formatValue_empty v, formatList_empty vs]

theorem formatEntries_empty : ∀ es : List (Value × Value), formatEntries ∅ none es = es
  | [] => by rw [formatEntries]
  | (k, v) :: es => by rw [formatEntries, formatValue_empty v, formatEntries_empty es]

end

end Template

/-! ## Lists of packages as sections -/

/-- The section that a list of packages is written as. -/
def Section.ofDependencies (deps : List Dependency) : Section :=
  deps.map fun d => ⟨d.kind, d.argument⟩

/-- What a section of packages declares in a context. -/
def Section.declared (c : Context) (sec : Section) : List Dependency :=
  sec.map fun e => ⟨e.tag, c.formatValue e.argument⟩

/-- Without variables and files, a package is declared as it is written. -/
theorem Section.declared_ofDependencies {c : Context} (hvars : c.vars = ∅) (hfiles : c.files = [])
    (deps : List Dependency) : (ofDependencies deps).declared c = deps := by
  have hvalue : ∀ v, c.formatValue v = v := by
    intro v
    rw [Context.formatValue, Context.currentFiles, hvars, hfiles]
    exact Template.formatValue_empty v
  rw [declared, ofDependencies, List.map_map]
  simp [Function.comp_def, hvalue]

theorem ofValue_dependenciesToValue (deps : List Dependency) :
    Section.ofValue (dependenciesToValue deps) = .ok (Section.ofDependencies deps) := by
  change Section.ofItems (deps.map fun d => .mapping [(.text d.kind, d.argument)]) = _
  induction deps with
  | nil => rfl
  | cons d rest ih =>
    rw [List.map_cons, Section.ofItems, ih]
    rfl

theorem dependenciesOfValue_toValue (deps : List Dependency) :
    dependenciesOfValue (dependenciesToValue deps) = .ok deps := by
  have hread : (Section.ofDependencies deps).map (fun e => Dependency.mk e.tag e.argument) =
      deps := by
    rw [Section.ofDependencies, List.map_map]
    exact List.map_id deps
  rw [dependenciesOfValue, ofValue_dependenciesToValue]
  exact congrArg Except.ok hread

/-- There is a command that installs packages of each kind. -/
theorem exists_installCommand {kind : String} (h : isDependencyKind kind = true) :
    ∃ command, installCommand? kind = some command := by
  have hkinds : ∀ kind ∈ dependencyKinds, (installCommand? kind).isSome = true := by decide
  exact Option.isSome_iff_exists.mp (hkinds kind (List.contains_iff_mem.mp h))

/-- A kind of package is a leaf, and no call. -/
theorem leaf_of_isDependencyKind {kind : String} (h : isDependencyKind kind = true) :
    Construct.ofTag kind = .command ∧ kind ≠ "call" := by
  have hkinds : ∀ kind ∈ dependencyKinds, Construct.ofTag kind = .command ∧ kind ≠ "call" := by
    decide
  exact hkinds kind (List.contains_iff_mem.mp h)

namespace Run

/-! ## Collecting again -/

section Again

variable (host : Host W)

/-- A package is declared with its argument filled in. -/
theorem dependencyLeaf_of_package (collect : Section → Run W (List Dependency)) {e : Entry}
    (he : isDependencyKind e.tag = true) (s : State W) :
    dependencyLeaf collect e s = (.ok [⟨e.tag, s.context.formatValue e.argument⟩], s) := by
  rw [dependencyLeaf, context_bind, if_neg (leaf_of_isDependencyKind he).2, if_pos he]
  rfl

/-- **A section of packages** declares each of them, and changes nothing. -/
theorem dependencies_of_packages {sec : Section}
    (hsec : ∀ e ∈ sec, isDependencyKind e.tag = true) {s : State W}
    (hs : s.world.cancelled = false) :
    dependencies host sec s = (.ok (sec.declared s.context), s) := by
  change walk host (collector (collect host maxCalls)) false sec s = _
  induction sec with
  | nil =>
    rw [walk_nil]
    rfl
  | cons e rest ih =>
    have he := hsec e List.mem_cons_self
    have hcommand : Construct.ofTag e.tag = .command := (leaf_of_isDependencyKind he).1
    have hleaf : (collector (collect host maxCalls)).leaf e s =
        (.ok [⟨e.tag, s.context.formatValue e.argument⟩], s) :=
      dependencyLeaf_of_package _ he s
    have hrest := ih fun e' he' => hsec e' (List.mem_cons_of_mem _ he')
    rw [walk_cons_of_command host _ false _ hcommand hs, andThen, bind_of_ok hleaf,
      bind_of_ok hrest]
    rfl

/-- **A list of packages** declares itself, in a context without variables and files. -/
theorem collect_ofDependencies {deps : List Dependency}
    (hdeps : ∀ d ∈ deps, isDependencyKind d.kind = true) {s : State W}
    (hs : s.world.cancelled = false) (hvars : s.context.vars = ∅) (hfiles : s.context.files = []) :
    dependencies host (Section.ofDependencies deps) s = (.ok deps, s) := by
  have hsec : ∀ e ∈ Section.ofDependencies deps, isDependencyKind e.tag = true := by
    simpa [Section.ofDependencies] using hdeps
  rw [dependencies_of_packages host hsec hs, Section.declared_ofDependencies hvars hfiles]

end Again

/-! ## What is collected -/

/-- A computation all of whose results satisfy `Q`. -/
def Yields (Q : α → Prop) (x : Run W α) : Prop := ∀ s a, (x s).1 = .ok a → Q a

section Yields

variable {P : α → Prop} {Q : β → Prop} {x : Run W α}

theorem yields_pure {a : α} (h : P a) : Yields P (pure a : Run W α) := by
  rintro s _ ⟨⟩
  exact h

theorem yields_fail (e : Error) : Yields P (fail e : Run W α) := fun _ _ => nofun

theorem yields_any : Yields (fun _ => True) x := fun _ _ _ => trivial

theorem Yields.bind {f : α → Run W β} (hx : Yields P x) (hf : ∀ a, P a → Yields Q (f a)) :
    Yields Q (x >>= f) := by
  intro s b hb
  rcases hxs : x s with ⟨e | a, t⟩
  · rw [bind_of_error hxs] at hb
    cases hb
  · rw [bind_of_ok hxs] at hb
    exact hf a (hx s a (by rw [hxs])) t b hb

end Yields

/-- A computation that gives packages of known kinds alone. -/
def GivesPackages (x : Run W (List Dependency)) : Prop :=
  Yields (fun deps => ∀ d ∈ deps, isDependencyKind d.kind = true) x

section Packages

variable {x y : Run W (List Dependency)}

theorem givesPackages_nothing : GivesPackages (pure [] : Run W (List Dependency)) :=
  yields_pure nofun

theorem GivesPackages.andThen (hx : GivesPackages x) (hy : GivesPackages y) :
    GivesPackages (andThen x y) :=
  hx.bind fun _ hhere => hy.bind fun _ hthere =>
    yields_pure (List.forall_mem_append.mpr ⟨hhere, hthere⟩)

theorem GivesPackages.rounds (hx : GivesPackages x) (stops : Bool) :
    ∀ bs, GivesPackages (rounds stops x bs)
  | [] => givesPackages_nothing
  | b :: bs => by
    refine yields_any.bind fun _ _ => Yields.bind hx fun here hhere => yields_any.bind fun c _ => ?_
    split
    · exact yields_pure hhere
    · exact (hx.rounds stops bs).bind fun _ hthere =>
        yields_pure (List.forall_mem_append.mpr ⟨hhere, hthere⟩)

variable (host : Host W)

theorem givesPackages_called {go : Section → Run W (List Dependency)}
    (hgo : ∀ b, GivesPackages (go b)) (kind : SectionKind) (target : String) :
    GivesPackages (called kind target go []) := by
  intro s deps
  refine called_cases (P := fun r _ => r = .ok deps → ∀ d ∈ deps, isDependencyKind d.kind = true)
    ?_ nofun fun callee _ _ => hgo callee.entries _ deps
  rintro ⟨⟩
  nofun

theorem givesPackages_dependencyLeaf {go : Section → Run W (List Dependency)}
    (hgo : ∀ b, GivesPackages (go b)) (e : Entry) : GivesPackages (dependencyLeaf go e) := by
  refine yields_any.bind fun c _ => ?_
  split
  · exact givesPackages_called hgo _ _
  split
  · rename_i hkind
    exact yields_pure (List.forall_mem_singleton.mpr hkind)
  · exact yields_any.bind fun _ _ => givesPackages_nothing

/-- The constructs of a block keep it. -/
theorem relates_givesPackages {go : Section → Run W (List Dependency)}
    (hgo : ∀ b, GivesPackages (go b)) :
    Relates host (collector go) (collector go) (fun _ => True) fun x _ => GivesPackages x where
  done := givesPackages_nothing
  assign _ := yields_any.bind fun _ _ => givesPackages_nothing
  choose _ _ hx hy := yields_any.bind fun holds _ => by
    split
    · exact hx
    · exact hy
  malformed _ _ := yields_fail _
  warning _ := yields_any.bind fun _ _ => givesPackages_nothing
  loop _ hx := yields_any.bind fun bs _ => hx.rounds _ bs
  scope {labels _ _} hx s := hx (s.inScope labels)
  leaf _ := givesPackages_dependencyLeaf hgo _
  join hx hy := hx.andThen hy
  reached hx := yields_any.bind fun c _ => by
    split
    · exact yields_any.bind fun _ _ => givesPackages_nothing
    · exact hx

theorem givesPackages_collect : ∀ depth sec, GivesPackages (collect host depth sec)
  | 0, _ => fun _ _ => nofun
  | depth + 1, sec =>
    relates_anyWalk (relates_givesPackages host (givesPackages_collect depth)) sec

/-- **Whatever is collected** is of a kind that can be installed. -/
theorem givesPackages_dependencies (sec : Section) : GivesPackages (dependencies host sec) :=
  givesPackages_collect host _ sec

end Packages

end Run

open Run

/-- **What is collected is resolved.** Each of the packages has a kind with a command that installs
it; the value that the list is written as is read back as the list; and the section in that value
declares the same list, in order, in every context without variables and files that is not
cancelled, on any host, and leaves the state as it is. -/
theorem resolved_of_collected {host : Host W} {sec : Section} {s : State W} {deps : List Dependency}
    (h : (dependencies host sec s).1 = .ok deps) :
    (∀ d ∈ deps, d.kind ∈ dependencyKinds ∧ ∃ command, installCommand? d.kind = some command) ∧
      dependenciesOfValue (dependenciesToValue deps) = .ok deps ∧
      ∃ again, Section.ofValue (dependenciesToValue deps) = .ok again ∧
        ∀ {V : Type} (other : Host V) (t : State V), t.world.cancelled = false →
          t.context.vars = ∅ → t.context.files = [] →
            dependencies other again t = (.ok deps, t) := by
  have hdeps := givesPackages_dependencies host sec s deps h
  refine ⟨fun d hd => ?_, dependenciesOfValue_toValue deps, Section.ofDependencies deps,
    ofValue_dependenciesToValue deps, fun other t => collect_ofDependencies other hdeps⟩
  exact ⟨List.contains_iff_mem.mp (hdeps d hd), exists_installCommand (hdeps d hd)⟩

namespace Flattened

/-- A snippet whose dependencies depend on a loop variable of the caller. -/
def tools : Snippet :=
  { name := "tools"
    sections := Table.ofList [("dependencies_for",
      [⟨"gem", .mapping [(.text "name", .text "$l-tools"), (.text "at", .list [.text "$$"])]⟩])] }

/-- A section with a branch, a loop and a call. -/
def nested : Section :=
  [⟨"if $db", .list [.mapping [(.text "rpm", .list [.text "$db"])]]⟩,
    ⟨"else", .list [.mapping [(.text "rpm", .list [.text "sqlite"])]]⟩,
    ⟨"for $l in $langs", .list [.mapping [(.text "rpm", .text "$l-devel")],
      .mapping [(.text "call", .text "tools.dependencies_for")]]⟩]

/-- A context in which the variables are set; one value looks like a reference. -/
def start : State Unit where
  context :=
    { vars := Table.ofList [("db", .text "$langs"), ("langs", .text "python ruby")]
      library := Library.addSnippet {} tools }
  world := { outside := () }

/-- What is collected. -/
def packages : List Dependency :=
  let toolsFor (l : String) : Value :=
    .mapping [(.text "name", .text (l ++ "-tools")), (.text "at", .list [.text "$$"])]
  [⟨"rpm", .list [.text "$langs"]⟩, ⟨"rpm", .text "python-devel"⟩, ⟨"gem", toolsFor "python"⟩,
    ⟨"rpm", .text "ruby-devel"⟩, ⟨"gem", toolsFor "ruby"⟩]

end Flattened

/-- A branch, a loop and a call are collected; nothing is left of them. -/
theorem resolved_of_collected_flattened :
    (dependencies (Host.still "") Flattened.nested Flattened.start).1 = .ok Flattened.packages ∧
      dependencies (Host.still "") (Section.ofDependencies Flattened.packages)
        ⟨{}, { outside := () }⟩ = (.ok Flattened.packages, ⟨{}, { outside := () }⟩) := by
  have h : (dependencies (Host.still "") Flattened.nested Flattened.start).1 =
      .ok Flattened.packages := eq_ok_of_toOption (by decide +kernel)
  obtain ⟨-, -, again, hread, hagain⟩ := resolved_of_collected h
  cases (ofValue_dependenciesToValue _).symm.trans hread
  exact ⟨h, hagain _ _ rfl rfl rfl⟩

end Scaffold
