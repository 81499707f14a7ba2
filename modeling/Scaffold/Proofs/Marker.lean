import Mathlib.Data.List.Nodup
import Mathlib.Data.List.Perm.Subperm
import Scaffold.Proofs.Confined
import Scaffold.Run.Path

/-!
# What a marker keeps

The path of assistants goes through variables with numbered names before it reaches a marker, and
the arguments go through the value that the file of the marker is written from. Neither loses
anything.

* `Vars.HoldPath`: variables that hold a path and no element behind it.
* `Table.toValue`: the value that a table is written as.
* `Marker.Plain`: a marker whose additions are such as a file can hold.

Results:
* `holdPath_of_prepare`: the variables that a run is prepared with hold the path that is run.
* `names_of_chain`: assistants have the names that they are found by.
* `path_ofContext`, `get?_arguments_ofContext`: the marker of a run has its path without the role,
  and the arguments of its assistant.
* **`run?_decode_of_plain`**: reading a marker from the value that it is written as gives it back.
-/

namespace Scaffold

open Yaml

/-! ## The invoked path -/

theorem pathVar_injective : Function.Injective pathVar := fun m n h => by
  have hrepr : m.repr = n.repr := (String.append_right_inj _).mp h
  have hdigits : Nat.toDigits 10 m = Nat.toDigits 10 n := String.ofList_injective hrepr
  rw [← Nat.ofDigitChars_ten_toDigits (n := m), hdigits, Nat.ofDigitChars_ten_toDigits]

/-- Variables that hold the elements of a path under their numbers, and none behind them. -/
def Vars.HoldPath (vars : Vars) (path : List String) : Prop :=
  ∀ i, vars.get? (pathVar i) = path[i]?.map Value.text

theorem invokedFrom_of_get? {vars : Vars} : ∀ {path : List String} {fuel n : Nat},
    (∀ i, vars.get? (pathVar (n + i)) = path[i]?.map Value.text) → path.length ≤ fuel →
      invokedFrom vars fuel n = path
  | [], 0, _, _, _ => rfl
  | [], fuel + 1, n, h, _ => by
    have hnone : vars.get? (pathVar n) = none := h 0
    rw [invokedFrom, hnone]
  | name :: rest, fuel + 1, n, h, hlen => by
    have hname : vars.get? (pathVar n) = some (.text name) := h 0
    have hrest : ∀ i, vars.get? (pathVar (n + 1 + i)) = rest[i]?.map Value.text := fun i => by
      rw [Nat.add_assoc, Nat.add_comm 1]
      exact h (i + 1)
    rw [invokedFrom, hname, invokedFrom_of_get? hrest (Nat.le_of_succ_le_succ hlen)]
    rfl

/-- There are at least as many variables as there are numbers under which one is set. -/
theorem le_length_of_get? {vars : Vars} {n : Nat}
    (h : ∀ i < n, ∃ v, vars.get? (pathVar i) = some v) : n ≤ vars.entries.length := by
  have hnodup : ((List.range n).map pathVar).Nodup := List.nodup_range.map pathVar_injective
  have hkeys : (List.range n).map pathVar ⊆ vars.keys := fun x hx => by
    obtain ⟨i, hi, rfl⟩ := List.mem_map.mp hx
    obtain ⟨v, hv⟩ := h i (List.mem_range.mp hi)
    exact Table.mem_keys_of_get? hv
  simpa [Table.keys] using (List.subperm_of_subset hnodup hkeys).length_le

theorem Vars.HoldPath.length_le {vars : Vars} {path : List String} (h : vars.HoldPath path) :
    path.length ≤ vars.entries.length :=
  le_length_of_get? fun i hi => ⟨.text path[i], by rw [h i, List.getElem?_eq_getElem hi]; rfl⟩

theorem invokedPath_of_holdPath {vars : Vars} {path : List String} (h : vars.HoldPath path) :
    invokedPath vars = path :=
  invokedFrom_of_get? (fun i => by rw [Nat.zero_add]; exact h i) h.length_le

/-! ### Prepared variables -/

namespace Invocation

theorem get?_numbered_of_lt : ∀ {names : List String} {n k : Nat} {vars : Vars}, k < n →
    (numbered names n vars).get? (pathVar k) = vars.get? (pathVar k)
  | [], _, _, _, _ => rfl
  | _ :: _, n, k, _, h => by
    have hne : pathVar n ≠ pathVar k := fun hp => (Nat.ne_of_lt h) (pathVar_injective hp).symm
    rw [numbered, get?_numbered_of_lt (Nat.lt_succ_of_lt h), Table.get?_insert_of_ne _ _ hne]

theorem get?_numbered : ∀ {names : List String} {n i : Nat} {vars : Vars}, i < names.length →
    (numbered names n vars).get? (pathVar (n + i)) = names[i]?.map Value.text
  | name :: _, n, 0, vars, _ => by
    rw [Nat.add_zero, numbered, get?_numbered_of_lt (Nat.lt_succ_self n)]
    exact Table.get?_insert_self vars (pathVar n) (.text name)
  | _ :: rest, n, i + 1, _, h => by
    have hi : i < rest.length := Nat.lt_of_succ_lt_succ h
    rw [numbered, Nat.add_comm i, ← Nat.add_assoc, get?_numbered hi, Nat.add_comm 1,
      List.getElem?_cons_succ]

/-- The turn of one declared argument: a variable that is set stays, and one that is not gets the
default, if there is one. -/
inductive Turn (x : String) (arg : Argument) (vars : Vars) : Except ExecutionError Vars → Prop
  | given {v : Value} (h : vars.get? x = some v) : Turn x arg vars (.ok vars)
  | filled {v : Value} (h : vars.get? x = none) (hv : arg.initial = some v) :
    Turn x arg vars (.ok (vars.insert x v))
  | refused (h : vars.get? x = none) (hnone : arg.initial = none) (hneeded : arg.required = true) :
    Turn x arg vars (.error (.missingArgument x))
  | passed (h : vars.get? x = none) (hnone : arg.initial = none) (hfree : arg.required = false) :
    Turn x arg vars (.ok vars)

/-- Arguments take turns, up to the first that is refused. -/
theorem exists_turn (x : String) (arg : Argument) (vars : Vars) : ∃ r, Turn x arg vars r ∧
    ∀ rest, addDefaults ((x, arg) :: rest) vars = r >>= addDefaults rest := by
  simp only [addDefaults]
  rcases hx : vars.get? x with _ | v
  · have hnot : ¬ vars.contains x = true := by simp [Table.contains, hx]
    simp only [if_neg hnot]
    rcases hinitial : arg.initial with _ | v
    · rcases hrequired : arg.required with _ | _
      · exact ⟨_, .passed hx hinitial hrequired, fun _ => rfl⟩
      · exact ⟨_, .refused hx hinitial hrequired, fun _ => rfl⟩
    · exact ⟨_, .filled hx hinitial, fun _ => rfl⟩
  · have hset : vars.contains x = true := by simp [Table.contains, hx]
    simp only [if_pos hset]
    exact ⟨_, .given hx, fun _ => rfl⟩

/-- The default that arguments give a name: that of the first that has one. -/
def default? (args : List (String × Argument)) (x : String) : Option Value :=
  args.findSome? fun p => if p.1 = x then p.2.initial else none

theorem default?_cons (p : String × Argument) (args : List (String × Argument)) (x : String) :
    default? (p :: args) x = (if p.1 = x then p.2.initial else none).or (default? args x) := by
  rw [default?, List.findSome?_cons]
  cases (if p.1 = x then p.2.initial else none) <;> rfl

theorem Turn.get? {x : String} {arg : Argument} {vars next : Vars}
    (h : Turn x arg vars (.ok next)) (y : String) :
    next.get? y = (vars.get? y).or (if x = y then arg.initial else none) := by
  cases h with
  | @given v h =>
    by_cases hy : x = y
    · simp [← hy, h]
    · simp [hy]
  | @filled v h hv =>
    rw [Table.get?_insert]
    by_cases hy : x = y
    · simp [← hy, h, hv]
    · simp [hy]
  | passed _ hnone => simp [hnone]

/-- **Defaults are filled in** where no variable is set, and change nothing else. -/
theorem get?_addDefaults_eq (x : String) : ∀ {args : List (String × Argument)} {vars ready : Vars},
    addDefaults args vars = .ok ready → ready.get? x = (vars.get? x).or (default? args x)
  | [], _, _, h => by
    cases h
    simp [default?]
  | (name, arg) :: rest, vars, ready, h => by
    obtain ⟨r, hturn, hstep⟩ := exists_turn name arg vars
    obtain ⟨next, rfl, hready⟩ := exists_of_bind_ok ((hstep rest).symm.trans h)
    rw [get?_addDefaults_eq x hready, hturn.get?, Option.or_assoc, default?_cons]

/-- Defaults change no variable that is set. -/
theorem get?_addDefaults {x : String} {v : Value} {args : List (String × Argument)}
    {vars ready : Vars} (h : addDefaults args vars = .ok ready) (hx : vars.get? x = some v) :
    ready.get? x = some v := by
  rw [get?_addDefaults_eq x h, hx, Option.some_or]

/-- The elements of the path are set, whatever was there before. -/
theorem get?_prepare {i : Invocation} {vars ready : Vars} (h : i.prepare vars = .ok ready) {n : Nat}
    (hn : n ≤ i.chain.length) :
    ready.get? (pathVar n) = (i.role :: i.chain.map Assistant.name)[n]?.map Value.text := by
  have hlt : n < (i.role :: i.chain.map Assistant.name).length := by
    simpa using Nat.lt_succ_of_le hn
  have hget : (numbered (i.role :: i.chain.map Assistant.name) 0 vars).get? (pathVar (0 + n)) =
      (i.role :: i.chain.map Assistant.name)[n]?.map Value.text := get?_numbered hlt
  rw [Nat.zero_add, List.getElem?_eq_getElem hlt] at hget
  rw [List.getElem?_eq_getElem hlt]
  exact get?_addDefaults h hget

/-- **The variables that a run is prepared with** hold its path, if no variable that was set before
continues it. -/
theorem holdPath_of_prepare {i : Invocation} {vars ready : Vars} (h : i.prepare vars = .ok ready)
    (hend : ∀ n, i.chain.length < n → ready.get? (pathVar n) = none) :
    ready.HoldPath (i.role :: i.chain.map Assistant.name) := by
  intro n
  rcases Nat.lt_or_ge i.chain.length n with hn | hn
  · have hnone : (i.role :: i.chain.map Assistant.name)[n]? = none :=
      List.getElem?_eq_none (by simpa using Nat.succ_le_of_lt hn)
    rw [hend n hn, hnone]
    rfl
  · exact get?_prepare h hn

/-- What a run starts with. -/
theorem start_eq_ok {i : Invocation} {l : Library} {base c : Context} {vars : Vars}
    (h : i.start l base vars = .ok c) :
    ∃ a ready, i.assistant? = some a ∧ i.prepare vars = .ok ready ∧
      c = { base with vars := ready, assistant := a, library := l } := by
  unfold start at h
  split at h
  · cases h
  · rename_i a ha
    split at h
    · rename_i ready hready
      cases h
      exact ⟨a, ready, ha, hready, rfl⟩
    · cases h

end Invocation

/-! ### Names of a chain -/

namespace Forest

theorem names_of_chain? : ∀ {names : List String} {f : Forest} {chain : List Assistant},
    f.chain? names = some chain → chain.map Assistant.name = names
  | [], _, _, h => by cases h; rfl
  | name :: rest, f, chain, h => by
    rw [chain?] at h
    split at h
    · cases h
    · rename_i t ht
      obtain ⟨below, hbelow, rfl⟩ := Option.map_eq_some_iff.mp h
      have hname : t.assistant.name = name := by simpa [Tree.name] using List.find?_some ht
      rw [List.map_cons, names_of_chain? hbelow, hname]

end Forest

namespace Library

variable {l : Library} {role : String} {names : List String} {chain : List Assistant}

theorem chain_eq_ok (h : l.chain role names = .ok chain) :
    names ≠ [] ∧ (l.forest role).chain? names = some chain := by
  unfold Library.chain at h
  split at h
  · cases h
  · rename_i hne
    split at h
    · rename_i hchain
      cases h
      exact ⟨by simpa using hne, hchain⟩
    · cases h

/-- Assistants have the names that they are found by. -/
theorem names_of_chain (h : l.chain role names = .ok chain) :
    chain.map Assistant.name = names := Forest.names_of_chain? (chain_eq_ok h).2

end Library

/-! ## The marker of a run -/

namespace Marker

theorem extra_ofContext (c : Context) : (ofContext c).extra = ∅ := rfl

/-- A role in front of the path is dropped. -/
theorem path_ofContext {c : Context} {role : String} {names : List String}
    (h : c.vars.HoldPath (role :: names)) (hrole : roles.contains role = true) :
    (ofContext c).path = names := by
  rw [ofContext, invokedPath_of_holdPath h, create]
  dsimp only
  rw [if_pos hrole]

/-- A marker has the variables that are arguments of the assistant, and no others. -/
theorem get?_arguments_ofContext (c : Context) (n : String) :
    (ofContext c).arguments.get? n =
      if c.assistant.isArg n = true then c.vars.get? n else none := by
  let given := c.assistant.args.keys.filterMap fun name => (c.vars.get? name).map (name, ·)
  have hgiven : ∀ p ∈ given, p.1 ∈ c.assistant.args.keys ∧ c.vars.get? p.1 = some p.2 :=
    fun p hp => by
      obtain ⟨name, hkey, hname⟩ := List.mem_filterMap.mp hp
      obtain ⟨v, hv, rfl⟩ := Option.map_eq_some_iff.mp hname
      exact ⟨hkey, hv⟩
  have harguments : (ofContext c).arguments = Table.empty.insertAll given := rfl
  rw [harguments, Table.get?_insertAll n fun p hp => (hgiven p hp).2, Table.get?_empty]
  by_cases harg : c.assistant.isArg n = true
  · rw [if_pos harg]
    split
    · rfl
    · rename_i hn
      refine Eq.symm (Option.eq_none_iff_forall_not_mem.mpr fun v hv => hn ?_)
      obtain ⟨arg, harg⟩ := Option.isSome_iff_exists.mp harg
      exact List.mem_map.mpr ⟨(n, v), List.mem_filterMap.mpr
        ⟨n, Table.mem_keys_of_get? harg, by rw [hv, Option.map_some]⟩, rfl⟩
  · rw [if_neg harg, if_neg]
    rintro hn
    obtain ⟨p, hp, rfl⟩ := List.mem_map.mp hn
    exact harg (Table.contains_of_mem_keys (hgiven p hp).1)

theorem get?_ofContext {c : Context} {n : String}
    (h : c.assistant.isArg n = true ∨ c.vars.get? n = none) :
    (ofContext c).arguments.get? n = c.vars.get? n := by
  rw [get?_arguments_ofContext]
  rcases h with h | h
  · rw [if_pos h]
  · rw [h, ite_self]

end Marker

/-! ## Reading a marker back -/

theorem mapM_map_pure {β γ δ : Type} {f : γ → Decode δ} {g : β → γ} {h : β → δ}
    (hf : ∀ b, f (g b) = pure (h b)) :
    ∀ l : List β, (l.map g).mapM f = (pure (l.map h) : Decode (List δ))
  | [] => rfl
  | b :: rest => by
    rw [List.map_cons, List.mapM_cons, hf, pure_bind, mapM_map_pure hf rest, pure_bind]
    rfl

theorem texts_list (path : List String) :
    Shaped.texts (Value.list (path.map .text)) = (pure path : Decode (List String)) := by
  have h := mapM_map_pure (f := (Shaped.text : Value → Decode String)) (g := Value.text) (h := id)
    (fun _ => rfl) path
  rw [List.map_id] at h
  exact h

/-- A table as a value. -/
def Table.toValue (t : Table Value) : Value := .mapping (t.entries.map fun e => (.text e.1, e.2))

theorem decodeTable_toValue (t : Table Value) (depth : Nat) :
    decodeTable (Shaped.value true depth) t.toValue = (pure t : Decode (Table Value)) := by
  have h := mapM_map_pure
    (f := fun e : Value × Value => (do
      return (← Shaped.text e.1, ← Shaped.value true depth e.2) : Decode (String × Value)))
    (g := fun e : String × Value => (Value.text e.1, e.2)) (h := id) (fun _ => rfl) t.entries
  rw [List.map_id] at h
  have hdecode : decodeTable (Shaped.value true depth) t.toValue = (do
      let pairs ← (t.entries.map fun e => (Value.text e.1, e.2)).mapM fun e => (do
        return (← Shaped.text e.1, ← Shaped.value true depth e.2) : Decode (String × Value))
      return Table.ofList pairs) := rfl
  rw [hdecode, h, pure_bind, Table.ofList_entries]

namespace Marker

/-- One field that is not repeated. -/
theorem decodeEntries_cons {name : String} {v : Value} {rest : List (Value × Value)}
    {read read' : FieldsRead} {m m' : Marker} (hname : fieldNames.contains name = true)
    (hread : read.note? name = some read') (hfield : m.field name v = pure m') :
    decodeEntries ((.text name, v) :: rest) read m = decodeEntries rest read' m' := by
  have htext : (Shaped.text (Value.text name) : Decode String) = pure name := rfl
  rw [decodeEntries, htext, pure_bind, if_pos hname, hread]
  change (m.field name v >>= fun m => decodeEntries rest read' m) = _
  rw [hfield, pure_bind]

theorem field_version (m : Marker) (v : String) :
    m.field "devassistant_version" (Value.text v) =
      (pure { m with version := v } : Decode Marker) := rfl

theorem field_path (m : Marker) (path : List String) :
    m.field "subassistant_path" (Value.list (path.map .text)) =
      (pure { m with path } : Decode Marker) := by
  rw [field, if_neg (by decide), if_pos (by decide), texts_list, pure_bind]

theorem field_arguments (m : Marker) (t : Table Value) :
    m.field "original_kwargs" t.toValue =
      (pure { m with arguments := t } : Decode Marker) := by
  rw [field, if_neg (by decide), if_neg (by decide), if_pos (by decide)]
  dsimp only
  rw [decodeTable_toValue, pure_bind]

/-- A marker whose additions are such as a file can hold: none goes by the name of a field, and none
has a tag. -/
structure Plain (m : Marker) : Prop where
  names : ∀ e ∈ m.extra.entries, fieldNames.contains e.1 = false
  untagged : ∀ e ∈ m.extra.entries, hasTag e.2 = false

theorem plain_of_bare {m : Marker} (h : m.extra = ∅) : m.Plain := by
  have hnone : m.extra.entries = [] := congrArg Table.entries h
  constructor <;> rw [hnone] <;> nofun

/-- One addition. -/
theorem field_extra {name : String} {v : Value} (hname : fieldNames.contains name = false)
    (hv : hasTag v = false) (m : Marker) :
    m.field name v = (pure { m with extra := m.extra.insert name v } : Decode Marker) := by
  have hne : ∀ field ∈ fieldNames, ¬ (name == field) = true := fun field hfield heq => by
    cases beq_iff_eq.mp heq
    rw [List.contains_iff_mem.mpr hfield] at hname
    cases hname
  have hvalue : (Shaped.value false (depthLimit - 1) v : Decode Value) = pure v := by
    change (if !false && hasTag v then failure else pure v) = _
    rw [hv]
    rfl
  rw [field, if_neg (hne _ (by decide)), if_neg (hne _ (by decide)), if_neg (hne _ (by decide)),
    hvalue, pure_bind]

/-- Additions, in whatever order. -/
theorem decodeEntries_additions (read : FieldsRead) : ∀ {es : List (String × Value)} {m : Marker},
    (∀ e ∈ es, fieldNames.contains e.1 = false) → (∀ e ∈ es, hasTag e.2 = false) →
      decodeEntries (es.map fun e => (Value.text e.1, e.2)) read m =
        (pure { m with extra := m.extra.insertAll es } : Decode Marker)
  | [], _, _, _ => rfl
  | (name, v) :: rest, m, hnames, huntagged => by
    have htext : (Shaped.text (Value.text name) : Decode String) = pure name := rfl
    have hname : fieldNames.contains name = false := hnames _ List.mem_cons_self
    have hrest := decodeEntries_additions read (m := { m with extra := m.extra.insert name v })
      (fun e he => hnames e (List.mem_cons_of_mem _ he))
      (fun e he => huntagged e (List.mem_cons_of_mem _ he))
    rw [List.map_cons, decodeEntries, htext, pure_bind, hname, if_neg (by decide)]
    change (m.field name v >>= fun m =>
      decodeEntries (rest.map fun e => (Value.text e.1, e.2)) read m) = _
    rw [field_extra hname (huntagged _ List.mem_cons_self), pure_bind, hrest]
    rfl

/-- **A marker** is read back from the value that it is written as. -/
theorem run?_decode_of_plain {m : Marker} (h : m.Plain) :
    (decode (Value.mapping m.toEntries)).run? = some m := by
  have hentries : (Shaped.entries (Value.mapping m.toEntries) : Decode (List (Value × Value))) =
      pure m.toEntries := rfl
  have hto : m.toEntries = (.text "devassistant_version", .text m.version) ::
      (.text "subassistant_path", .list (m.path.map .text)) ::
      (.text "original_kwargs", m.arguments.toValue) ::
      m.extra.entries.map fun e => (.text e.1, e.2) := rfl
  have hextra : Table.insertAll ∅ m.extra.entries = m.extra := Table.ofList_entries m.extra
  rw [decode, hentries, pure_bind, hto, decodeEntries_cons rfl rfl (field_version _ _),
    decodeEntries_cons rfl rfl (field_path _ _), decodeEntries_cons rfl rfl (field_arguments _ _),
    decodeEntries_additions _ h.names h.untagged]
  change some { m with extra := Table.insertAll ∅ m.extra.entries } = some m
  rw [hextra]

theorem run?_decode_toEntries {m : Marker} (h : m.extra = ∅) :
    (decode (Value.mapping m.toEntries)).run? = some m := run?_decode_of_plain (plain_of_bare h)

end Marker

end Scaffold
