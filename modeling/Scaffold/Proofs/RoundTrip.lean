import Scaffold.Proofs.Reinstall

/-!
# Markers that are written and read back

A marker that a run makes, or that was read from a file, holds what a file can hold: its additions
go by other names than its fields, and carry no tags. Such a marker is read back as it was written.
What scripts see of it then is put together from the arguments and the path of the run that made it.

* `Decode.Gives P`: a reading that gives only what has a property.
* `Marker.Obtained`: markers of runs, and markers that were read.
* `Vars.Spells`: the invoked path as texts, up to the first number without a variable.
* `Context.RecalledBy`: what scripts see of the marker of a run.
* `Marker.fieldsOf`, `Marker.exposedEntries`: the fields of such a marker, and the mapping that
  scripts see.
* `Visit`: a command that writes a marker, and a later one that reads it.

Results:
* **`gives_plain_decode`**: a marker that is read is such as a file can hold.
* `read_of_write`: so it is read back as it was written.
* `spells_invokedPath`: the invoked path ends where the first number is missing.
* `lookup?_expose`: what is set under an exposed name.
* `startsWith_fieldsOf`, `lookup?_exposedEntries`: no field looks like one, so fields stay.
* **`recalledBy_exposed`**: what scripts see of the marker of a run.
* **`marker_round_trip`**: both for what is written and read.
-/

namespace Scaffold

open Yaml Run

variable {W : Type}

/-! ## What a reading gives -/

namespace Yaml.Decode

variable {α β : Type} {P : α → Prop} {Q : β → Prop}

/-- A reading that gives only what has a property. -/
def Gives (P : α → Prop) (x : Decode α) : Prop := ∀ s a t, x s = some (a, t) → P a

theorem gives_pure {a : α} (h : P a) : Gives P (pure a) := fun _ _ _ ha => by
  cases ha
  exact h

theorem gives_failure : Gives P failure := fun _ _ _ ha => nomatch ha

theorem gives_any (x : Decode α) : Gives (fun _ => True) x := fun _ _ _ _ => trivial

theorem gives_lift {o : Option α} (h : ∀ a, o = some a → P a) : Gives P (liftM o : Decode α) := by
  intro s a t ha
  cases o with
  | none => cases ha
  | some b =>
    cases ha
    exact h _ rfl

theorem Gives.bind {x : Decode β} {f : β → Decode α} (hx : Gives Q x)
    (hf : ∀ b, Q b → Gives P (f b)) : Gives P (x >>= f) := by
  intro s a t ha
  obtain ⟨⟨b, u⟩, hb, ha⟩ := Option.bind_eq_some_iff.mp ha
  exact hf b (hx s b u hb) u a t ha

theorem gives_mapM {f : β → Decode α} (hf : ∀ b, Gives P (f b)) :
    ∀ l : List β, Gives (∀ a ∈ ·, P a) (l.mapM f)
  | [] => by
    rw [List.mapM_nil]
    exact gives_pure nofun
  | b :: rest => by
    rw [List.mapM_cons]
    exact (hf b).bind fun a ha => (gives_mapM hf rest).bind fun as has =>
      gives_pure (List.forall_mem_cons.mpr ⟨ha, has⟩)

end Yaml.Decode

open Yaml.Decode

/-! ## What a file can hold -/

namespace Yaml

theorem hasTagList_eq_false {vs : List Value} (h : ∀ v ∈ vs, hasTag v = false) :
    hasTagList vs = false := by
  induction vs with
  | nil => rfl
  | cons v rest ih =>
    obtain ⟨hv, hrest⟩ := List.forall_mem_cons.mp h
    rw [hasTagList, hv, ih hrest]
    rfl

theorem hasTagEntries_eq_false {es : List (Value × Value)}
    (h : ∀ e ∈ es, hasTag e.1 = false ∧ hasTag e.2 = false) : hasTagEntries es = false := by
  induction es with
  | nil => rfl
  | cons e rest ih =>
    obtain ⟨he, hrest⟩ := List.forall_mem_cons.mp h
    obtain ⟨k, v⟩ := e
    rw [hasTagEntries, he.1, he.2, ih hrest]
    rfl

theorem hasTag_of_value? {p : Plain} {s : String} {v : Value} (h : p.value? s = some v) :
    hasTag v = false := by
  cases p <;> cases h <;> rfl

theorem hasTag_of_standardScalar? {tag : Tag} {text : String} {r : Option Value} {v : Value}
    (h : standardScalar? tag text = some r) (hr : r = some v) : hasTag v = false := by
  subst hr
  unfold standardScalar? at h
  split at h
  · obtain ⟨b, -, rfl⟩ := Option.map_eq_some_iff.mp (Option.some.inj h)
    rfl
  split at h
  · obtain ⟨p, -, hp⟩ := Option.bind_eq_some_iff.mp (Option.some.inj h)
    exact hasTag_of_value? hp
  split at h
  · obtain ⟨x, -, rfl⟩ := Option.map_eq_some_iff.mp (Option.some.inj h)
    rfl
  split at h
  · have hnull : (if Plain.isNull text then some Value.null else none) = some v :=
      Option.some.inj h
    split at hnull <;> cases hnull
    rfl
  · cases h

theorem hasTag_of_scalarValue? {tag : Option Tag} {style : Style} {text : String} {v : Value}
    (h : scalarValue? tag style text = some v) : hasTag v = false := by
  have hplain : (if style = .plain then (Plain.resolve text).value? text else some (.text text)) =
      some v → hasTag v = false := fun hv => by
    split at hv
    · exact hasTag_of_value? hv
    · cases hv
      rfl
  unfold scalarValue? at h
  dsimp only at h
  split at h
  · exact hplain h
  · split at h
    · rename_i r hr
      exact hasTag_of_standardScalar? hr h
    · split at h
      · exact hplain h
      · cases h
        rfl

/-- A value that is read where tags are refused has none. -/
theorem gives_untagged_value (d : Document) : ∀ (depth : Nat) (node : Node),
    Gives (hasTag · = false) (d.value false depth node) := by
  have hscalar : ∀ tag style text,
      Gives (hasTag · = false) (liftM (Document.taggedScalar? false tag style text)) :=
    fun tag style text => gives_lift fun v hv => by
      unfold Document.taggedScalar? at hv
      split at hv
      · cases hv
      · exact hasTag_of_scalarValue? hv
  have htagged : ∀ (tag : Option Tag) {v : Value}, hasTag v = false →
      Gives (hasTag · = false) (liftM (Document.tagged? false tag v)) :=
    fun tag v hv => gives_lift fun a ha => by
      unfold Document.tagged? at ha
      split at ha
      · cases ha
      · cases ha
        exact hv
  intro depth
  induction depth with
  | zero =>
    intro node
    rw [Document.value]
    refine (gives_any _).bind fun node _ => ?_
    split
    · exact hscalar _ _ _
    · exact gives_failure
  | succ depth ih =>
    intro node
    rw [Document.value]
    refine (gives_any _).bind fun node _ => ?_
    split
    · exact hscalar _ _ _
    · exact (gives_mapM ih _).bind fun vs hvs => htagged _ (hasTagList_eq_false hvs)
    · have hentry : ∀ e : Node × Node, Gives
          (fun kv : Value × Value => hasTag kv.1 = false ∧ hasTag kv.2 = false) (do
            return (← d.value false depth e.1, ← d.value false depth e.2)) := fun e =>
        (ih e.1).bind fun k hk => (ih e.2).bind fun v hv => gives_pure ⟨hk, hv⟩
      refine (gives_mapM hentry _).bind fun vs hvs => ?_
      have huntagged : hasTag (.mapping vs) = false := hasTagEntries_eq_false hvs
      dsimp only
      split
      · exact (gives_any _).bind fun _ _ => htagged _ huntagged
      · exact htagged _ huntagged
    · exact gives_failure

end Yaml

namespace Marker

/-- One field of a marker. -/
theorem gives_plain_field {m : Marker} (h : m.Plain) (name : String) (c : Content) :
    Gives Plain (m.field name c) := by
  unfold field
  split
  · exact (gives_any _).bind fun _ _ => gives_pure ⟨h.names, h.untagged⟩
  split
  · exact (gives_any _).bind fun _ _ => gives_pure ⟨h.names, h.untagged⟩
  split
  · exact (gives_any _).bind fun _ _ => gives_pure ⟨h.names, h.untagged⟩
  · rename_i hversion hpath harguments
    have hname : fieldNames.contains name = false := by
      simp_all [fieldNames]
    refine (gives_untagged_value c.document _ c.node).bind fun v hv => gives_pure ⟨?_, ?_⟩
    · intro e he
      rcases Table.mem_insertEntry he with rfl | he
      · exact hname
      · exact h.names e he
    · intro e he
      rcases Table.mem_insertEntry he with rfl | he
      · exact hv
      · exact h.untagged e he

theorem gives_plain_entries : ∀ (es : List (Content × Content)) (read : FieldsRead) {m : Marker},
    m.Plain → Gives Plain (decodeEntries es read m)
  | [], _, _, h => gives_pure h
  | (k, v) :: rest, read, m, h => by
    rw [decodeEntries]
    refine (gives_any _).bind fun name _ => ?_
    have hrest := fun read => (gives_plain_field h name v).bind fun _ hm =>
      gives_plain_entries rest read hm
    dsimp only
    split
    · exact (gives_any _).bind fun read _ => hrest read
    · exact (gives_any _).bind fun read _ => hrest read

/-- **A marker that is read** is such as a file can hold. -/
theorem gives_plain_decode (c : Content) : Gives Plain (decode c) :=
  (gives_any _).bind fun es _ => gives_plain_entries es {} (plain_of_bare rfl)

theorem plain_of_parse? {text : String} {m : Marker} (h : parse? text = some m) : m.Plain := by
  obtain ⟨r, hr, rfl⟩ := Option.map_eq_some_iff.mp h
  obtain ⟨d, -, hd⟩ := Option.bind_eq_some_iff.mp hr
  cases d with
  | none =>
    cases hd
    exact plain_of_bare rfl
  | some d =>
    obtain ⟨⟨m, left⟩, hm, rfl⟩ := Option.map_eq_some_iff.mp hd
    exact gives_plain_decode _ _ _ _ hm

/-- A marker that a run makes, or that is read from a directory. -/
inductive Obtained : Marker → Prop
  | created (path : List String) (arguments : Table Value) : Obtained (create path arguments)
  | read {W : Type} {host : Host W} {w : W} {dir : String} {m : Marker}
      (h : Marker.read host w dir = .ok m) : Obtained m

theorem Obtained.plain {m : Marker} (h : m.Obtained) : m.Plain := by
  cases h with
  | created path arguments => exact plain_of_bare rfl
  | @read _ host w dir _ h =>
    unfold Marker.read at h
    dsimp only at h
    split at h
    · cases h
    · split at h <;> cases h
      rename_i hparse
      exact plain_of_parse? hparse

/-- A marker that is written is read back, if its text is read back as the value that it was
written from. -/
theorem read_of_write {m : Marker} (hm : m.Obtained) (hrestores : m.Restores) {host : Host W}
    {w w' : W} {dir path : String} (hkeeps : host.Keeps (Path.join dir markerFile))
    (h : m.write host w dir = (.ok path, w')) : Marker.read host w' dir = .ok m := by
  unfold write at h
  dsimp only at h
  split at h
  · cases h
  · rename_i text htext
    split at h <;> cases h
    rename_i hfile
    have hparse : parse? text = some m := by
      rw [parse?, hrestores text htext, run?_decode_of_plain hm.plain]
      rfl
    simp only [Marker.read, hkeeps _ _ _ hfile, hparse]

end Marker

/-! ## The invoked path -/

/-- Variables whose texts are the elements of a path under their numbers, up to the first number
without a variable. -/
def Vars.Spells (vars : Vars) (path : List String) : Prop :=
  ∀ i ≤ path.length, (vars.get? (pathVar i)).map Value.render = path[i]?

/-- Within the bound, the elements are there one by one; below it, the next one is missing. -/
theorem spells_invokedFrom (vars : Vars) : ∀ fuel n : Nat,
    (∀ i < (invokedFrom vars fuel n).length,
      (vars.get? (pathVar (n + i))).map Value.render = (invokedFrom vars fuel n)[i]?) ∧
    (invokedFrom vars fuel n).length ≤ fuel ∧
    ((invokedFrom vars fuel n).length < fuel →
      vars.get? (pathVar (n + (invokedFrom vars fuel n).length)) = none)
  | 0, n => ⟨fun i hi => absurd hi (Nat.not_lt_zero i), Nat.le_refl 0,
      fun h => absurd h (Nat.lt_irrefl 0)⟩
  | fuel + 1, n => by
    rcases hget : vars.get? (pathVar n) with _ | v
    · have hnil : invokedFrom vars (fuel + 1) n = [] := by rw [invokedFrom, hget]
      rw [hnil]
      exact ⟨fun i hi => absurd hi (Nat.not_lt_zero i), Nat.zero_le _, fun _ => hget⟩
    · have hcons : invokedFrom vars (fuel + 1) n = v.render :: invokedFrom vars fuel (n + 1) := by
        rw [invokedFrom, hget]
      obtain ⟨hall, hle, hnext⟩ := spells_invokedFrom vars fuel (n + 1)
      rw [hcons, List.length_cons]
      refine ⟨fun i hi => ?_, Nat.succ_le_succ hle, fun hlt => ?_⟩
      · cases i with
        | zero => rw [Nat.add_zero, hget]; rfl
        | succ i =>
          rw [← Nat.add_assoc, Nat.add_right_comm]
          exact hall i (Nat.lt_of_succ_lt_succ hi)
      · rw [← Nat.add_assoc, Nat.add_right_comm]
        exact hnext (Nat.lt_of_succ_lt_succ hlt)

/-- **The invoked path** is all that is spelled: there are not enough variables to use the bound
up. -/
theorem spells_invokedPath (vars : Vars) : vars.Spells (invokedPath vars) := by
  obtain ⟨hall, hle, hnext⟩ := spells_invokedFrom vars vars.entries.length 0
  intro i hi
  rcases Nat.lt_or_eq_of_le hi with hlt | rfl
  · have := hall i hlt
    rwa [Nat.zero_add] at this
  · have hmissing : vars.get? (pathVar (invokedPath vars).length) = none := by
      rcases Nat.lt_or_eq_of_le hle with hlt | heq
      · have := hnext hlt
        rwa [Nat.zero_add] at this
      -- otherwise there is one number more than there are variables
      · refine Option.eq_none_iff_forall_ne_some.mpr fun v hv => ?_
        have hfull : vars.entries.length + 1 ≤ vars.entries.length :=
          le_length_of_get? fun j hj => ?_
        · omega
        · rcases Nat.lt_or_eq_of_le (Nat.le_of_lt_succ hj) with hj | rfl
          · have hj := Nat.lt_of_lt_of_eq hj heq.symm
            have hget := hall j hj
            rw [Nat.zero_add, List.getElem?_eq_getElem hj] at hget
            obtain ⟨v, hv, -⟩ := Option.map_eq_some_iff.mp hget
            exact ⟨v, hv⟩
          · exact ⟨v, heq ▸ hv⟩
    rw [hmissing, List.getElem?_eq_none (Nat.le_refl _)]
    rfl

/-- A path without the role in front of it. -/
def withoutRole (path : List String) : List String :=
  match path with
  | first :: rest => if roles.contains first then rest else path
  | [] => []

/-! ## Entries of a mapping -/

namespace Value

theorem lookup?_insertEntry (key k : String) (v : Value) (es : List (Value × Value)) :
    lookup? k (insertEntry (.text key) v es) = if key = k then some v else lookup? k es := by
  induction es with
  | nil => by_cases h : key = k <;> simp [insertEntry, lookup?, h]
  | cons e rest ih =>
    obtain ⟨k', v'⟩ := e
    unfold lookup? at ih ⊢
    rw [insertEntry]
    split
    · rename_i hk
      subst hk
      by_cases h : key = k <;> simp [h]
    · rename_i hk
      by_cases h : k' = .text k
      · have hne : key ≠ k := by
          rintro rfl
          exact hk h
        simp [h, hne]
      · rw [List.find?_cons_of_neg (by simpa using h), List.find?_cons_of_neg (by simpa using h)]
        exact ih

theorem mem_keys_insertEntry {key v k : Value} {es : List (Value × Value)} :
    k ∈ (insertEntry key v es).map Prod.fst ↔ k = key ∨ k ∈ es.map Prod.fst := by
  induction es with
  | nil => simp [insertEntry]
  | cons e rest ih =>
    obtain ⟨k', v'⟩ := e
    rw [insertEntry]
    split
    · rename_i hk
      subst hk
      simp
    · rw [List.map_cons, List.mem_cons, ih, List.map_cons, List.mem_cons]
      exact or_left_comm

theorem nodup_keys_insertEntry {key v : Value} : ∀ {es : List (Value × Value)},
    (es.map Prod.fst).Nodup → ((insertEntry key v es).map Prod.fst).Nodup
  | [], _ => by simp [insertEntry]
  | (k', v') :: rest, h => by
    obtain ⟨hhead, hrest⟩ := List.nodup_cons.mp h
    rw [insertEntry]
    split
    · exact List.nodup_cons.mpr ⟨hhead, hrest⟩
    · rename_i hk
      refine List.nodup_cons.mpr ⟨fun hmem => ?_, nodup_keys_insertEntry hrest⟩
      rcases mem_keys_insertEntry.mp hmem with heq | hmem
      · exact hk heq
      · exact hhead hmem

end Value

/-! ## Exposed names -/

/-- Arguments set under their exposed names. -/
def Value.expose (args : List (String × Value)) (es : List (Value × Value)) :
    List (Value × Value) :=
  args.foldl (fun es e => insertEntry (.text (exposedMark ++ e.1)) e.2 es) es

namespace Value

theorem expose_cons (e : String × Value) (args : List (String × Value))
    (es : List (Value × Value)) :
    expose (e :: args) es = expose args (insertEntry (.text (exposedMark ++ e.1)) e.2 es) := rfl

/-- What is set under an exposed name, where the name decides the value. -/
theorem lookup?_expose {f : String → Option Value} (name : String) :
    ∀ {args : List (String × Value)} {es : List (Value × Value)},
      (∀ e ∈ args, f e.1 = some e.2) →
        lookup? (exposedMark ++ name) (expose args es) =
          if name ∈ args.map Prod.fst then f name else lookup? (exposedMark ++ name) es
  | [], es, _ => by simp [expose]
  | e :: rest, es, h => by
    obtain ⟨he, hrest⟩ := List.forall_mem_cons.mp h
    rw [expose_cons, lookup?_expose name hrest, lookup?_insertEntry, List.map_cons]
    simp only [String.append_right_inj]
    by_cases hmem : name ∈ rest.map Prod.fst
    · rw [if_pos hmem, if_pos (List.mem_cons_of_mem _ hmem)]
    · rw [if_neg hmem]
      by_cases hname : e.1 = name
      · subst hname
        rw [if_pos rfl, if_pos List.mem_cons_self, he]
      · rw [if_neg hname, if_neg]
        exact List.not_mem_cons_of_ne_of_not_mem (Ne.symm hname) hmem

/-- Exposed names change no other. -/
theorem lookup?_expose_of_ne {k : String} (hk : ∀ name, exposedMark ++ name ≠ k) :
    ∀ {args : List (String × Value)} {es : List (Value × Value)},
      lookup? k (expose args es) = lookup? k es
  | [], _ => rfl
  | e :: rest, es => by
    rw [expose_cons, lookup?_expose_of_ne hk, lookup?_insertEntry, if_neg (hk e.1)]

theorem mem_keys_expose {k : Value} : ∀ {args : List (String × Value)} {es : List (Value × Value)},
    k ∈ (expose args es).map Prod.fst ↔
      (∃ e ∈ args, k = .text (exposedMark ++ e.1)) ∨ k ∈ es.map Prod.fst
  | [], es => by simp [expose]
  | e :: rest, es => by
    rw [expose_cons, mem_keys_expose, mem_keys_insertEntry, List.exists_mem_cons_iff, ← or_assoc,
      or_comm (a := ∃ e ∈ rest, _)]

theorem nodup_keys_expose : ∀ {args : List (String × Value)} {es : List (Value × Value)},
    (es.map Prod.fst).Nodup → ((expose args es).map Prod.fst).Nodup
  | [], _, h => h
  | _ :: _, _, h => by
    rw [expose_cons]
    exact nodup_keys_expose (nodup_keys_insertEntry h)

theorem renamed_text (s : String) : renamed (.text s) = .text s := by simp [renamed]

theorem renamedList_text : ∀ path : List String, renamedList (path.map .text) = path.map .text
  | [] => rfl
  | name :: rest => by rw [List.map_cons, renamedList, renamedList_text rest, renamed_text]

end Value

/-- A declared argument for which a variable is set, and its value. -/
def Context.Given (c : Context) (name : String) (v : Value) : Prop :=
  c.assistant.isArg name = true ∧ c.vars.get? name = some v

/-- What scripts see of the marker that a run in a context leaves in a directory. -/
structure Context.RecalledBy (c : Context) (dir : String) (m : List (Value × Value)) : Prop where
  once : (m.map Prod.fst).Nodup
  /-- Every given argument is there under its exposed name. -/
  argument : ∀ {name v}, c.Given name v → Value.lookup? (exposedMark ++ name) m = some v
  /-- No other key starts like an exposed name. -/
  noOther : ∀ {key}, .text key ∈ m.map Prod.fst → Text.startsWith exposedMark key = true →
    ∃ name v, c.Given name v ∧ key = exposedMark ++ name
  /-- The name is that of the directory, whatever arguments are called. -/
  name : Value.lookup? "name" m = some (.text (Path.baseName dir))
  /-- The given arguments are there together, with their tags by name, and no others. -/
  arguments : ∃ given : Table Value, (∀ name v, given.get? name = some v ↔ c.Given name v) ∧
    Value.lookup? "original_kwargs" m = some given.toValue.renamed ∧
    ((∀ name v, c.Given name v → v.renamed = v) → given.toValue.renamed = given.toValue)
  /-- So is the invoked path, without the role in front of it. -/
  path : ∃ path, c.vars.Spells path ∧
    Value.lookup? "subassistant_path" m = some (.list ((withoutRole path).map .text))

namespace Marker

theorem get?_ofContext_iff {c : Context} {name : String} {v : Value} :
    (ofContext c).arguments.get? name = some v ↔ c.Given name v := by
  rw [get?_arguments_ofContext, Context.Given]
  split
  · rename_i h
    exact (and_iff_right h).symm
  · rename_i h
    exact ⟨nofun, fun hg => absurd hg.1 h⟩

/-- The fields that scripts see of the marker of a run. -/
def fieldsOf (c : Context) : List (Value × Value) :=
  [(.text "devassistant_version", .text toolVersion),
    (.text "subassistant_path", .list ((withoutRole (invokedPath c.vars)).map .text)),
    (.text "original_kwargs", (ofContext c).arguments.toValue.renamed)]

theorem renamedEntries_ofContext (c : Context) :
    Value.renamedEntries (ofContext c).toEntries = fieldsOf c := by
  have hto : (ofContext c).toEntries =
      [(.text "devassistant_version", .text toolVersion),
        (.text "subassistant_path", .list ((withoutRole (invokedPath c.vars)).map .text)),
        (.text "original_kwargs", (ofContext c).arguments.toValue)] := rfl
  rw [hto]
  simp only [Value.renamedEntries, Value.renamed, Value.renamedList_text, fieldsOf]

theorem nodup_keys_fieldsOf (c : Context) : ((fieldsOf c).map Prod.fst).Nodup := by
  change [Value.text "devassistant_version", .text "subassistant_path",
    .text "original_kwargs"].Nodup
  decide

/-- What scripts see is the fields, the arguments under their exposed names, and the name. -/
def exposedEntries (c : Context) (dir : String) : List (Value × Value) :=
  Value.insertEntry (.text "name") (.text (Path.baseName dir))
    (Value.expose (ofContext c).arguments.entries (fieldsOf c))

theorem exposed_ofContext (c : Context) (dir : String) :
    (ofContext c).exposed dir = .mapping (exposedEntries c dir) := by
  rw [exposedEntries, ← renamedEntries_ofContext]
  rfl

/-- A name that does not start like an exposed one is none. -/
theorem exposed_ne {key : String} (hkey : Text.startsWith exposedMark key = false)
    (name : String) : exposedMark ++ name ≠ key := by
  rintro rfl
  rw [Text.startsWith_iff.mpr (by rw [String.toList_append]; exact List.prefix_append _ _)] at hkey
  cases hkey

/-- No field starts like an exposed name. -/
theorem startsWith_fieldsOf {c : Context} {key : String}
    (h : .text key ∈ (fieldsOf c).map Prod.fst) : Text.startsWith exposedMark key = false := by
  simp only [fieldsOf, List.map_cons, List.map_nil, List.mem_cons, List.not_mem_nil, or_false,
    Value.text.injEq] at h
  rcases h with rfl | rfl | rfl <;> decide

/-- A field is seen as it is. -/
theorem lookup?_exposedEntries {key : String} (hkey : Text.startsWith exposedMark key = false)
    (hne : "name" ≠ key) (c : Context) (dir : String) :
    Value.lookup? key (exposedEntries c dir) = Value.lookup? key (fieldsOf c) := by
  rw [exposedEntries, Value.lookup?_insertEntry, if_neg hne,
    Value.lookup?_expose_of_ne (exposed_ne hkey)]

/-- An argument is seen under its exposed name. -/
theorem lookup?_exposedEntries_argument {c : Context} {name : String} {v : Value}
    (h : c.Given name v) (dir : String) :
    Value.lookup? (exposedMark ++ name) (exposedEntries c dir) = some v := by
  have hget := get?_ofContext_iff.mpr h
  have hentry : ∀ e ∈ (ofContext c).arguments.entries,
      (ofContext c).arguments.get? e.1 = some e.2 := fun e he => Table.get?_eq_some_iff.mpr he
  have hmem : name ∈ (ofContext c).arguments.entries.map Prod.fst := Table.mem_keys_of_get? hget
  rw [exposedEntries, Value.lookup?_insertEntry, if_neg (Ne.symm (exposed_ne (by decide) name)),
    Value.lookup?_expose name hentry, if_pos hmem, hget]

/-- What is seen under a name that starts like an exposed one is an argument. -/
theorem given_of_mem_exposedEntries {c : Context} {dir key : String}
    (hmem : .text key ∈ (exposedEntries c dir).map Prod.fst)
    (hkey : Text.startsWith exposedMark key = true) :
    ∃ name v, c.Given name v ∧ key = exposedMark ++ name := by
  rcases Value.mem_keys_insertEntry.mp hmem with heq | hmem
  · cases heq
    exact absurd hkey (by decide)
  rcases Value.mem_keys_expose.mp hmem with ⟨e, he, heq⟩ | hmem
  · cases heq
    exact ⟨e.1, e.2, get?_ofContext_iff.mp (Table.get?_eq_some_iff.mpr he), rfl⟩
  · rw [startsWith_fieldsOf hmem] at hkey
    cases hkey

/-- Arguments keep their value where every tag is its own name. -/
theorem renamed_toValue {t : Table Value} (h : ∀ name v, t.get? name = some v → v.renamed = v) :
    t.toValue.renamed = t.toValue := by
  have hentries : ∀ {es : List (String × Value)}, (∀ e ∈ es, e.2.renamed = e.2) →
      Value.renamedEntries (es.map fun e => (.text e.1, e.2)) =
        es.map fun e => (.text e.1, e.2) := by
    intro es hes
    induction es with
    | nil => rfl
    | cons e rest ih =>
      obtain ⟨he, hrest⟩ := List.forall_mem_cons.mp hes
      rw [List.map_cons, Value.renamedEntries, ih hrest, he, Value.renamed_text]
  rw [Table.toValue, Value.renamed, hentries]
  exact fun e he => h e.1 e.2 (Table.get?_eq_some_iff.mpr he)

/-- **What scripts see** of the marker of a run. -/
theorem recalledBy_exposed (c : Context) (dir : String) :
    ∃ m, (ofContext c).exposed dir = .mapping m ∧ c.RecalledBy dir m := by
  refine ⟨exposedEntries c dir, exposed_ofContext c dir, ?_⟩
  exact {
    once := Value.nodup_keys_insertEntry (Value.nodup_keys_expose (nodup_keys_fieldsOf c))
    argument := fun h => lookup?_exposedEntries_argument h dir
    noOther := given_of_mem_exposedEntries
    name := by rw [exposedEntries, Value.lookup?_insertEntry, if_pos rfl]
    arguments := by
      refine ⟨(ofContext c).arguments, fun _ _ => get?_ofContext_iff, ?_, fun h => ?_⟩
      · rw [lookup?_exposedEntries (by decide) (by decide)]
        rfl
      · exact renamed_toValue fun name v hv => h name v (get?_ofContext_iff.mp hv)
    path := by
      refine ⟨invokedPath c.vars, spells_invokedPath c.vars, ?_⟩
      rw [lookup?_exposedEntries (by decide) (by decide)]
      rfl }

/-! ## Commands -/

/-- The directory that a command on markers is about. -/
def directory (host : Host W) (command : Command) (s : State W) : Except SyntaxError String :=
  (command.format s.context).map fun arg =>
    projectDir host s.world.outside (Text.trim arg) s.context.workingDir

/-- A command on markers is carried out on its directory. -/
theorem runWith_of_directory {env : Env W} {inner : Interpreter W} {command : Command}
    {s : State W} {dir : String} (h : directory env.host command s = .ok dir) :
    runWith env inner command .marker s = run env inner command.tag dir s := by
  unfold directory at h
  rcases hformat : command.format s.context with e | arg <;> rw [hformat] at h <;> cases h
  have hargument : textArgument command s = (.ok arg, s) := by
    rw [textArgument, context_bind, hformat]
    rfl
  rw [runWith, bind_of_ok hargument, context_bind]
  rfl

/-- The command that writes a marker gives nothing. -/
theorem eq_null_of_created {env : Env W} {inner : Interpreter W} {dir : String} {s : State W}
    {v : Value} (h : (run env inner "dda_c" dir s).1 = .ok v) : v = .null := by
  have hrun : run env inner "dda_c" dir = (do writeIn env.host dir; return Value.null) := by
    unfold run
    rw [if_pos rfl]
  rw [hrun, bind_null] at h
  rcases hw : (writeIn env.host dir s).1 with e | _ <;> rw [hw] at h <;> cases h
  rfl

/-- The command that reads a marker gives what scripts see of it. -/
theorem run_read {env : Env W} {inner : Interpreter W} {dir : String} {s : State W}
    {m : Marker} (h : readIn env.host dir s = (.ok m, s)) :
    run env inner "dda_r" dir s = (.ok (m.exposed dir), s) := by
  rw [run, if_neg (by decide), if_pos rfl, bind_of_ok h]
  rfl

end Marker

/-- A command that writes a marker, and a later one that reads it. -/
structure Visit (W : Type) where
  env : Env W
  interpreter : Interpreter W
  dir : String
  /-- The argument of the command that writes. -/
  target : Value
  /-- Where the marker is written. -/
  writing : State W
  /-- The argument of the command that reads. -/
  again : Value
  /-- Where the marker is read. -/
  later : State W
  directory : Marker.directory env.host ⟨"dda_c", target⟩ writing = .ok dir
  sameDirectory : Marker.directory env.host ⟨"dda_r", again⟩ later = .ok dir
  created : ∃ v, (runWith env interpreter ⟨"dda_c", target⟩ .marker writing).1 = .ok v
  restores : (Marker.ofContext writing.context).Restores
  keeps : env.host.Keeps (Path.join dir markerFile)
  /-- The file of the marker is not changed in between. -/
  unchanged : env.host.readText later.world.outside (Path.join dir markerFile) =
    env.host.readText
      (runWith env interpreter ⟨"dda_c", target⟩ .marker writing).2.world.outside
      (Path.join dir markerFile)

namespace Visit

variable (p : Visit W)

/-- What reading the marker does. -/
def reading : Except Failure Value × State W :=
  runWith p.env p.interpreter ⟨"dda_r", p.again⟩ .marker p.later

theorem readIn_later (p : Visit W) :
    Marker.readIn p.env.host p.dir p.later = (.ok (.ofContext p.writing.context), p.later) := by
  obtain ⟨v, hcreated⟩ := p.created
  have hunchanged := p.unchanged
  rw [Marker.runWith_of_directory p.directory] at hcreated hunchanged
  have hnull := Marker.eq_null_of_created hcreated
  subst hnull
  exact Marker.readIn_of_created hcreated p.restores p.keeps hunchanged

theorem reading_eq (p : Visit W) :
    p.reading = (.ok ((Marker.ofContext p.writing.context).exposed p.dir), p.later) := by
  rw [reading, Marker.runWith_of_directory p.sameDirectory]
  exact Marker.run_read p.readIn_later

end Visit

/-- **Markers are read back as they are written.** A marker that a run leaves in a directory gives a
later script the arguments of the run, one by one and together, the name of the directory, and the
path without its role, whatever the arguments, the variables and the path are. And every marker that
was made or read, with any additions, is read back from where it is written to. -/
theorem marker_round_trip :
    (∀ p : Visit W, ∃ m, p.reading = (.ok (.mapping m), p.later) ∧
      p.writing.context.RecalledBy p.dir m) ∧
    ∀ (m : Marker) (host : Host W) (w w' : W) (dir path : String), m.Obtained → m.Restores →
      host.Keeps (Path.join dir markerFile) → m.write host w dir = (.ok path, w') →
        Marker.read host w' dir = .ok m := by
  refine ⟨fun p => ?_, fun m host w w' dir path hm hrestores hkeeps h =>
    Marker.read_of_write hm hrestores hkeeps h⟩
  obtain ⟨m, hm, hrecalled⟩ := Marker.recalledBy_exposed p.writing.context p.dir
  exact ⟨m, by rw [p.reading_eq, hm], hrecalled⟩

theorem Host.oneFile_keeps (path : String) : Host.oneFile.Keeps path := fun _ _ _ h => by
  cases h
  rfl

namespace Blog

/-- A script in another directory reads the marker of the project. -/
def visit : Visit String where
  env := env
  interpreter := Run.interpreter env 1
  dir := "/blog"
  target := .text "/blog"
  writing := start true
  again := .text " $where "
  later := ⟨{ workingDir := "/", vars := Table.ofList [("where", .text "blog")] },
    { outside := markerText true }⟩
  directory := eq_ok_of_toOption (by decide +kernel)
  sameDirectory := eq_ok_of_toOption (by decide +kernel)
  created := ⟨.null, eq_ok_of_toOption (by decide +kernel)⟩
  restores := restores true
  keeps := Host.oneFile_keeps _
  unchanged := congrArg Except.ok (by decide +kernel)

/-- A marker with a section that was added by hand. -/
def edited : Marker where
  version := "0.1.0"
  path := ["python"]
  extra := Table.ofList [("run", .list [.mapping [(.text "log_i", .text "hello")]])]

/-- The text of its file. -/
def editedText : String :=
  "subassistant_path: [python]\nrun:\n- log_i: hello\ndevassistant_version: 0.1.0\n"

end Blog

/-- A marker is read from another directory, and one with an addition is read, written and read
again. -/
theorem marker_round_trip_blog :
    (∃ m, Blog.visit.reading = (.ok (.mapping m), Blog.visit.later) ∧
      Blog.visit.writing.context.RecalledBy "/blog" m) ∧
    Marker.read Host.oneFile Blog.editedText "/blog" = .ok Blog.edited ∧
    ∃ text path, Blog.edited.write Host.oneFile "" "/blog" = (.ok path, text) ∧
      Marker.read Host.oneFile text "/blog" = .ok Blog.edited := by
  obtain ⟨hvisit, hback⟩ := marker_round_trip (W := String)
  have hread : Marker.read Host.oneFile Blog.editedText "/blog" = .ok Blog.edited :=
    eq_ok_of_toOption (by decide +kernel)
  have hrestores : Blog.edited.Restores := by
    intro text h
    have hdecode : (Blog.edited.text.toOption.bind (Yaml.Decode.document? Marker.decode)) =
        some (Marker.decode (Value.mapping Blog.edited.toEntries)).run? := by decide +kernel
    rw [h] at hdecode
    exact hdecode
  have hwrite : ∃ text path, Blog.edited.write Host.oneFile "" "/blog" = (.ok path, text) := by
    rcases h : Blog.edited.write Host.oneFile "" "/blog" with ⟨e | path, text⟩
    · have hok : (Blog.edited.write Host.oneFile "" "/blog").1.toOption.isSome = true := by
        decide +kernel
      rw [h] at hok
      cases hok
    · exact ⟨text, path, rfl⟩
  obtain ⟨text, path, hwrite⟩ := hwrite
  exact ⟨hvisit Blog.visit, hread, text, path, hwrite,
    hback Blog.edited .oneFile "" text "/blog" path (.read hread) hrestores
      (Host.oneFile_keeps _) hwrite⟩

end Scaffold
