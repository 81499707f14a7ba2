import Scaffold.Proofs.Formatting
import Scaffold.Proofs.Resolved
import Scaffold.Run.Section
import Scaffold.Yaml.Decode

/-!
# Dependencies given inline

Packages can be declared in a section, or given to the `dependencies` command as its argument. The
command fills in the argument as a whole and reads the packages from what it gets; the collection
reads the section first, and fills in the arguments of its entries one by one. Filling in a value
keeps what can be read from it as a section, but for an item behind a tag, which is read and not
filled in. So without tags it makes no difference where packages are declared.

* `Section.filledIn`: a section with the arguments of its entries filled in.
* `Run.Hands`: the list that the command gives to any installer.

Results:
* `ofValue_formatValue`: reading a section commutes with filling in, also if it does not read.
* `Run.hands_iff`: the command gives the list that its argument, filled in, reads as.
* **`inline_agrees_with_collection`**: an argument that reads as a section gives the list that the
  section declares, and any other none.
-/

namespace Scaffold

variable {W : Type}

open Template Yaml

/-! ## Filling in before reading -/

/-- A section with the arguments of its entries filled in. -/
def Section.filledIn (c : Context) (sec : Section) : Section :=
  sec.map fun e => { e with argument := c.formatValue e.argument }

theorem formatValue_list (c : Context) (items : List Value) :
    c.formatValue (.list items) = .list (items.map c.formatValue) := by
  rw [Context.formatValue, formatValue, formatList_eq_map]
  rfl

theorem formatValue_mapping (c : Context) (entries : List (Value × Value)) :
    c.formatValue (.mapping entries) =
      .mapping (entries.map fun e => (e.1, c.formatValue e.2)) := by
  rw [Context.formatValue, formatValue, formatEntries_eq_map]
  rfl

/-- An item that is not behind a tag stands for the same entry when it is filled in, with the
argument filled in, or is refused for the same reason. -/
theorem ofItem_formatValue (c : Context) {item : Value} (h : hasTag item = false) :
    Entry.ofItem (c.formatValue item) =
      (Entry.ofItem item).map fun e => { e with argument := c.formatValue e.argument } := by
  cases item with
  | mapping entries =>
    rw [formatValue_mapping]
    -- One entry, with a key that is a text, is what is wanted. Neither keys nor number change.
    match entries with
    | [] => rfl
    | [(key, argument)] =>
      simp only [List.map_cons, List.map_nil, Entry.ofItem, Value.asMapping?, Value.untagged]
      rcases key.asText? with _ | tag <;> rfl
    | first :: second :: rest =>
      simp [Entry.ofItem, Value.asMapping?, Value.untagged, Except.map]
  | tagged t v => simp [hasTag] at h
  | _ => rfl

theorem ofItems_formatValue (c : Context) {items : List Value} (h : hasTagList items = false) :
    Section.ofItems (items.map c.formatValue) =
      (Section.ofItems items).map (Section.filledIn c) := by
  induction items with
  | nil => rfl
  | cons item rest ih =>
    rw [hasTagList, Bool.or_eq_false_iff] at h
    rw [List.map_cons, Section.ofItems, Section.ofItems, ofItem_formatValue c h.1, ih h.2]
    rcases Entry.ofItem item with x | e
    · rfl
    · rcases Section.ofItems rest with x | sec <;> rfl

/-- **Reading a section commutes with filling in.** A value without tags reads, filled in, as what
it reads as with the arguments filled in; and if it does not read as a section, the reason is the
same. -/
theorem ofValue_formatValue (c : Context) {v : Value} (h : hasTag v = false) :
    Section.ofValue (c.formatValue v) = (Section.ofValue v).map (Section.filledIn c) := by
  cases v with
  | list items =>
    rw [hasTag] at h
    rw [formatValue_list]
    exact ofItems_formatValue c h
  | _ => rfl

/-- A value without tags reads, filled in, as the packages that its section declares. -/
theorem dependenciesOfValue_formatValue (c : Context) {v : Value} (h : hasTag v = false) :
    dependenciesOfValue (c.formatValue v) =
      ((Section.ofValue v).mapError (SyntaxError.inside "dependency list")).map
        (Section.declared c) := by
  rw [dependenciesOfValue, ofValue_formatValue c h]
  rcases Section.ofValue v with x | sec
  · rfl
  · exact congrArg Except.ok List.map_map

/-! ## The command -/

namespace Run

variable (env : Env W) (inner : Interpreter W) {argument : Value} {s : State W}

/-- The `dependencies` command with an argument gives an installer a list, whichever installer it
is, and does nothing else. -/
def Hands (argument : Value) (s : State W) (deps : List Dependency) : Prop :=
  ∀ i : Installer W, runWith env inner ⟨dependenciesSectionName, argument⟩ (.dependencies i) s =
    (i.install inner deps >>= fun _ => pure .null) s

theorem runWith_of_dependencies {deps : List Dependency}
    (h : dependenciesOfValue (s.context.formatValue argument) = .ok deps) :
    Hands env inner argument s deps := by
  intro i
  rw [runWith, runDependencies, if_pos rfl, bind_assoc, context_bind, h]
  rfl

/-- An argument that does not read is refused, and no installer is asked. -/
theorem runWith_of_refused {x : SyntaxError}
    (h : dependenciesOfValue (s.context.formatValue argument) = .error x) (i : Installer W) :
    runWith env inner ⟨dependenciesSectionName, argument⟩ (.dependencies i) s =
      (.error (.error (.syntaxFault x)), s) := by
  rw [runWith, runDependencies, if_pos rfl, bind_assoc, context_bind, h]
  rfl

/-- The command gives the list that its argument, filled in, reads as, and no other. -/
theorem hands_iff {deps : List Dependency} :
    Hands env inner argument s deps ↔
      dependenciesOfValue (s.context.formatValue argument) = .ok deps := by
  refine ⟨fun h => ?_, runWith_of_dependencies env inner⟩
  -- An installer that takes this list alone tells whether it is the one that is given.
  let picky : Installer W :=
    .extra fun given => .done (if given = deps then .ok () else .error .exhausted)
  have htaken : runWith env inner ⟨dependenciesSectionName, argument⟩ (.dependencies picky) s =
      (.ok .null, s) := by
    rw [h picky]
    simp only [picky, Installer.install, Procedure.perform, if_true]
    rfl
  rcases hread : dependenciesOfValue (s.context.formatValue argument) with x | given
  · rw [runWith_of_refused env inner hread] at htaken
    cases htaken
  · rw [runWith_of_dependencies env inner hread picky] at htaken
    by_cases hgiven : given = deps
    · rw [hgiven]
    · simp only [picky, Installer.install, Procedure.perform, if_neg hgiven] at htaken
      cases htaken

end Run

open Run

/-- **Inline and collected packages agree.** Let a value without tags be the argument of the
`dependencies` command. The command gives an installer a list exactly if the value reads as a
section, and else fails with the reason for which it does not, with nothing done. The list has an
entry for each of the section, with its argument filled in; and if the entries of the section are
packages, this is what the section declares in the same context, in a run that is not cancelled. -/
theorem inline_agrees_with_collection (env : Env W) (inner : Interpreter W) {argument : Value}
    (hargument : hasTag argument = false) (s : State W) :
    ((∃ deps, Hands env inner argument s deps) ↔ ∃ sec, Section.ofValue argument = .ok sec) ∧
    (∀ x, Section.ofValue argument = .error x → ∀ i : Installer W,
      runWith env inner ⟨dependenciesSectionName, argument⟩ (.dependencies i) s =
        (.error (.error (.syntaxFault (x.inside "dependency list"))), s)) ∧
    ∀ sec, Section.ofValue argument = .ok sec →
      (∀ deps, Hands env inner argument s deps ↔ deps = sec.declared s.context) ∧
      (s.world.cancelled = false → (∀ e ∈ sec, isDependencyKind e.tag = true) →
        dependencies env.host sec s = (.ok (sec.declared s.context), s)) := by
  have hread := dependenciesOfValue_formatValue s.context hargument
  simp only [hands_iff]
  rcases hsec : Section.ofValue argument with x | sec <;> rw [hsec] at hread
  · refine ⟨?_, ?_, nofun⟩
    · rw [hread]
      simp [Except.map, Except.mapError]
    · rintro _ ⟨rfl⟩ i
      exact runWith_of_refused env inner hread i
  · refine ⟨?_, nofun, ?_⟩
    · rw [hread]
      simp [Except.map, Except.mapError]
    · rintro _ ⟨rfl⟩
      refine ⟨fun deps => ?_, fun hs hpackages => dependencies_of_packages env.host hpackages hs⟩
      rw [hread]
      exact ⟨fun h => by cases h; rfl, fun h => by rw [h]; rfl⟩

namespace Inline

/-- Packages as the argument of a command, with references at different depths. -/
def argument : Value :=
  .list [.mapping [(.text "pip", .text "django-$version")],
    .mapping [(.text "npm", .list [.text "$version", .mapping [(.text "$version", .text "$x")]])]]

/-- The section that the argument reads as. -/
def packages : Section :=
  [⟨"pip", .text "django-$version"⟩,
    ⟨"npm", .list [.text "$version", .mapping [(.text "$version", .text "$x")]]⟩]

/-- A context in which one of the variables is set. -/
def start : State Unit := ⟨{ vars := Table.ofList [("version", .text "$x")] }, { outside := () }⟩

end Inline

/-- The list that an installer gets is the one that is collected. -/
theorem inline_agrees_with_collection_nested :
    hasTag Inline.argument = false ∧
      Hands ⟨Host.still "", {}⟩ (interpreter ⟨Host.still "", {}⟩ 1) Inline.argument Inline.start
        (Inline.packages.declared Inline.start.context) ∧
      dependencies (Host.still "") Inline.packages Inline.start =
        (.ok [⟨"pip", .text "django-$x"⟩,
          ⟨"npm", .list [.text "$x", .mapping [(.text "$version", .text "$x")]]⟩],
          Inline.start) := by
  have hread : Section.ofValue Inline.argument = .ok Inline.packages := rfl
  have htag : hasTag Inline.argument = false := by decide
  have hdeclared : Inline.packages.declared Inline.start.context =
      [⟨"pip", .text "django-$x"⟩,
        ⟨"npm", .list [.text "$x", .mapping [(.text "$version", .text "$x")]]⟩] := by
    decide +kernel
  obtain ⟨-, -, h⟩ := inline_agrees_with_collection ⟨Host.still "", {}⟩
    (interpreter ⟨Host.still "", {}⟩ 1) htag Inline.start
  obtain ⟨hhands, hcollected⟩ := h Inline.packages hread
  refine ⟨htag, (hhands _).mpr rfl, ?_⟩
  rw [← hdeclared]
  exact hcollected rfl (by decide)

/-- An item behind a tag is read and not filled in. -/
example :
    let item : Value := .tagged "!own" (.mapping [(.text "pip", .text "django-$version")])
    dependenciesOfValue (Inline.start.context.formatValue (.list [item])) =
        .ok [⟨"pip", .text "django-$version"⟩] ∧
      (dependencies (Host.still "") [⟨"pip", .text "django-$version"⟩] Inline.start).1 =
        .ok [⟨"pip", .text "django-$x"⟩] := by
  constructor
  · rfl
  · exact eq_ok_of_toOption (by decide +kernel)

end Scaffold
