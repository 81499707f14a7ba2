import Scaffold.Proofs.Marker

/-!
# The path that is read back

A run numbers the elements of its path among the variables that it is given, which its user and the
defaults of declared arguments add to, and they are read back up to the first number that is
missing. Every number on the path is overwritten, but the number behind it is not taken away. So a
variable of that name, or an argument of that name with a default, continues the path.

* `Invocation.names`: the path of a run. `Invocation.behind`: the variable that would continue it.
* `Invocation.Continued`: what that variable is set by.

Results:
* `invokedFrom_append`, `invokedPath_of_get?`: reading goes past what is numbered if more is set.
* `get?_numbered_of_le`, `get?_addDefaults_eq_none_iff`: what preparing leaves unset.
* **`invokedPath_prepare`**: what is read begins with the path, and is the path unless it is
  continued.
* **`not_invokedPath_prepare_eq`**: a variable continues the path.
-/

namespace Scaffold

/-! ## Reading numbered variables -/

/-- What is numbered is read, and then what is numbered behind it. -/
theorem invokedFrom_append {vars : Vars} : ∀ {names : List String} {fuel n : Nat},
    (∀ i < names.length, vars.get? (pathVar (n + i)) = names[i]?.map Value.text) →
      names.length ≤ fuel →
      invokedFrom vars fuel n =
        names ++ invokedFrom vars (fuel - names.length) (n + names.length)
  | [], _, _, _, _ => rfl
  | name :: rest, fuel + 1, n, h, hlen => by
    have hname : vars.get? (pathVar n) = some (.text name) := h 0 (Nat.zero_lt_succ _)
    have hrest : ∀ i < rest.length, vars.get? (pathVar (n + 1 + i)) = rest[i]?.map Value.text := by
      intro i hi
      rw [Nat.add_assoc, Nat.add_comm 1]
      exact h (i + 1) (Nat.succ_lt_succ hi)
    rw [invokedFrom, hname]
    dsimp only
    rw [invokedFrom_append hrest (Nat.le_of_succ_le_succ hlen), List.length_cons,
      Nat.add_sub_add_right, Nat.add_assoc, Nat.add_comm 1]
    rfl

/-- What is read of a path that is numbered from zero. -/
theorem invokedPath_of_get? {vars : Vars} {path : List String}
    (h : ∀ i < path.length, vars.get? (pathVar i) = path[i]?.map Value.text) :
    path <+: invokedPath vars ∧
      (invokedPath vars = path ↔ vars.get? (pathVar path.length) = none) := by
  have hset : ∀ i < path.length, ∃ v, vars.get? (pathVar i) = some v := fun i hi =>
    ⟨.text path[i], by rw [h i hi, List.getElem?_eq_getElem hi]; rfl⟩
  have hread : invokedPath vars =
      path ++ invokedFrom vars (vars.entries.length - path.length) path.length := by
    have happend := invokedFrom_append (n := 0) (fun i hi => by rw [Nat.zero_add]; exact h i hi)
      (le_length_of_get? hset)
    rwa [Nat.zero_add] at happend
  refine ⟨hread ▸ List.prefix_append _ _, ?_⟩
  rw [hread, List.append_right_eq_self]
  rcases hnext : vars.get? (pathVar path.length) with _ | v
  · cases vars.entries.length - path.length <;> simp [invokedFrom, hnext]
  · -- one more variable is set, so reading has not used up its bound
    have hmore : path.length + 1 ≤ vars.entries.length := le_length_of_get? fun i hi => by
      rcases Nat.lt_succ_iff_lt_or_eq.mp hi with hi | rfl
      · exact hset i hi
      · exact ⟨v, hnext⟩
    obtain ⟨fuel, hfuel⟩ := Nat.exists_eq_add_of_le hmore
    rw [show vars.entries.length - path.length = fuel + 1 by omega]
    simp [invokedFrom, hnext]

/-! ## What preparing leaves unset -/

namespace Invocation

theorem get?_numbered_of_le : ∀ {names : List String} {n k : Nat} {vars : Vars},
    n + names.length ≤ k →
      (numbered names n vars).get? (pathVar k) = vars.get? (pathVar k)
  | [], _, _, _, _ => rfl
  | name :: rest, n, k, vars, h => by
    rw [List.length_cons] at h
    have hne : pathVar n ≠ pathVar k := fun hp => by
      have := pathVar_injective hp
      omega
    rw [numbered, get?_numbered_of_le (by omega), Table.get?_insert_of_ne _ _ hne]

theorem default?_eq_none_iff {x : String} {args : List (String × Argument)} :
    default? args x = none ↔ ∀ arg, (x, arg) ∈ args → arg.initial = none := by
  rw [default?, List.findSome?_eq_none_iff]
  constructor
  · intro hall arg harg
    simpa using hall (x, arg) harg
  · rintro hall ⟨y, arg⟩ harg
    by_cases hy : y = x
    · subst hy
      simpa using hall arg harg
    · simp [hy]

/-- Defaults leave a variable unset if it was, and no argument of its name has one. -/
theorem get?_addDefaults_eq_none_iff {x : String} {args : List (String × Argument)}
    {vars ready : Vars} (h : addDefaults args vars = .ok ready) :
    ready.get? x = none ↔ vars.get? x = none ∧ ∀ arg, (x, arg) ∈ args → arg.initial = none := by
  rw [get?_addDefaults_eq x h, Option.or_eq_none_iff, default?_eq_none_iff]

/-! ## The path of a run -/

/-- The path of a run: its role and the assistants. -/
def names (i : Invocation) : List String := i.role :: i.chain.map Assistant.name

/-- The variable that would continue the path. -/
def behind (i : Invocation) : String := pathVar i.names.length

/-- Something goes by the name of the element behind the path. -/
inductive Continued (i : Invocation) (vars : Vars) : Prop
  /-- A variable that is there before. -/
  | given {v : Value} (h : vars.get? i.behind = some v)
  /-- An argument with a default, of an assistant on the path. -/
  | declared {a : Assistant} {arg : Argument} {v : Value} (ha : a ∈ i.chain)
    (harg : a.args.get? i.behind = some arg) (hv : arg.initial = some v)

theorem get?_prepare_behind {i : Invocation} {vars ready : Vars} (h : i.prepare vars = .ok ready) :
    ready.get? i.behind = none ↔ ¬ i.Continued vars := by
  have hnumbered : (numbered i.names 0 vars).get? i.behind = vars.get? i.behind :=
    get?_numbered_of_le (Nat.le_of_eq (Nat.zero_add _))
  rw [prepare] at h
  rw [get?_addDefaults_eq_none_iff h, show i.role :: i.chain.map Assistant.name = i.names from rfl,
    hnumbered]
  constructor
  · rintro ⟨hgiven, hdeclared⟩ hcontinued
    cases hcontinued with
    | given h => cases hgiven.symm.trans h
    | @declared a arg v ha harg hv =>
      have hmem : (i.behind, arg) ∈ i.chain.flatMap fun a => a.args.entries :=
        List.mem_flatMap.mpr ⟨a, ha, Table.get?_eq_some_iff.mp harg⟩
      cases (hdeclared arg hmem).symm.trans hv
  · refine fun hend => ⟨?_, fun arg hmem => ?_⟩
    · by_contra hset
      obtain ⟨v, hv⟩ := Option.ne_none_iff_exists'.mp hset
      exact hend (.given hv)
    · by_contra hset
      obtain ⟨v, hv⟩ := Option.ne_none_iff_exists'.mp hset
      obtain ⟨a, ha, harg⟩ := List.mem_flatMap.mp hmem
      exact hend (.declared ha (Table.get?_eq_some_iff.mpr harg) hv)

end Invocation

/-- **The path that is read back** from the variables of a run begins with the role and the names of
the assistants in order, whatever was set before and whatever is declared. It ends there exactly if
neither a variable that was set before nor a default continues it. -/
theorem invokedPath_prepare {i : Invocation} {vars ready : Vars}
    (h : i.prepare vars = .ok ready) :
    i.names <+: invokedPath ready ∧ (invokedPath ready = i.names ↔ ¬ i.Continued vars) := by
  have hget : ∀ n < i.names.length, ready.get? (pathVar n) = i.names[n]?.map Value.text := by
    intro n hn
    refine Invocation.get?_prepare h ?_
    simpa [Invocation.names, Nat.lt_succ_iff] using hn
  obtain ⟨hbegins, hiff⟩ := invokedPath_of_get? hget
  exact ⟨hbegins, hiff.trans (Invocation.get?_prepare_behind h)⟩

/-- Two assistants, one with a default, and a variable that the path overwrites. -/
theorem invokedPath_prepare_two :
    ∃ ready, Invocation.prepare
        ⟨"crt", [{ name := "python", args := .ofList [("license", { initial := some .null })] },
          { name := "django" }]⟩
        (.ofList [("subassistant_1", .text "ruby")]) = .ok ready ∧
      invokedPath ready = ["crt", "python", "django"] := by
  have hprepare : Invocation.prepare
      ⟨"crt", [{ name := "python", args := .ofList [("license", { initial := some .null })] },
        { name := "django" }]⟩
      (.ofList [("subassistant_1", .text "ruby")]) =
      .ok (.ofList [("license", .null), ("subassistant_0", .text "crt"),
        ("subassistant_1", .text "python"), ("subassistant_2", .text "django")]) :=
    eq_ok_of_toOption (by decide +kernel)
  refine ⟨_, hprepare, (invokedPath_prepare hprepare).2.mpr fun hcontinued => ?_⟩
  cases hcontinued with
  | given h =>
    have hset := Option.isSome_iff_exists.mpr ⟨_, h⟩
    revert hset
    decide +kernel
  | declared ha harg _ =>
    have hset := Option.isSome_iff_exists.mpr ⟨_, harg⟩
    revert hset
    rcases List.mem_pair.mp ha with rfl | rfl <;> decide +kernel

/-- **A variable continues the path**: it is taken for an assistant that was not invoked. -/
theorem not_invokedPath_prepare_eq :
    ¬ ∀ (i : Invocation) (vars ready : Vars), i.prepare vars = .ok ready →
      invokedPath ready = i.names := by
  intro h
  have hprepare : Invocation.prepare ⟨"crt", [{ name := "python" }]⟩
      (Table.ofList [("subassistant_2", .text "django")]) =
      .ok (Table.ofList [("subassistant_0", .text "crt"), ("subassistant_1", .text "python"),
        ("subassistant_2", .text "django")]) := eq_ok_of_toOption (by decide +kernel)
  have hread := h _ _ _ hprepare
  revert hread
  decide +kernel

end Scaffold
