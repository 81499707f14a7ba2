import Mathlib.Data.String.Basic
import Scaffold.Proofs.InvokedPath

/-!
# Preparing the arguments of a run

A run is prepared in one pass over the arguments that the assistants of its path declare: those of
the first assistant in the order of their names, then those of the next. An argument that is there
by then stays, one that is not gets its default, and one that has none must not be required. Several
assistants may declare one argument. So a default that comes first fills it in for all that come
after, and one that comes later does not help an assistant that needs the argument before.

* `Invocation.base`: the variables with the path in them, before any default.
* `Assistant.Needs`, `Assistant.default?`: an argument that is required, and one that has a default.
* `Invocation.Lacks`: an argument that is needed and not there when its turn comes.
* `Invocation.FirstLacking`: the first of them.
* `Invocation.Filled`: what the variables of a run are.

Results:
* `wants_cons`, `wants_of_addDefaults`, `not_wants_of_addDefaults`: the turns of the arguments of
  one assistant.
* `lacks_succ`, `lacking_of_addDefaults`: from one assistant to the whole path.
* **`prepare_fills`**: preparing fills in the first defaults unless an argument is lacking, and then
  reports the first that is.
-/

namespace Scaffold

/-- The default that an assistant gives an argument. -/
def Assistant.default? (a : Assistant) (x : String) : Option Value :=
  (a.args.get? x).bind Argument.initial

/-- An assistant requires an argument and has no default for it. -/
def Assistant.Needs (a : Assistant) (x : String) : Prop :=
  ∃ arg, a.args.get? x = some arg ∧ arg.required = true ∧ arg.initial = none

namespace Invocation

/-! ## The arguments of one assistant -/

/-- An argument that is required and has no default is not there. -/
def Wants (args : List (String × Argument)) (vars : Vars) (x : String) : Prop :=
  ∃ arg, (x, arg) ∈ args ∧ arg.required = true ∧ arg.initial = none ∧ vars.get? x = none

section

variable {x : String} {arg : Argument} {rest args : List (String × Argument)}
  {vars next ready : Vars}

/-- The turn of one argument changes nothing for the arguments after it, and leaves it there if it
was wanted. -/
theorem wants_cons (hrest : ∀ p ∈ rest, x < p.1) (h : Turn x arg vars (.ok next)) (y : String) :
    Wants ((x, arg) :: rest) vars y ↔ Wants rest next y := by
  have hget : ∀ {y arg'}, (y, arg') ∈ rest → next.get? y = vars.get? y := by
    intro y arg' hy
    have hne : x ≠ y := fun heq => String.lt_irrefl _ (heq ▸ hrest _ hy)
    rw [h.get?, if_neg hne, Option.or_none]
  constructor
  · rintro ⟨arg', hmem, hneeded, hnone, hunset⟩
    rcases List.mem_cons.mp hmem with heq | hmem
    · cases heq
      cases h with
      | given hset => rw [hset] at hunset; cases hunset
      | filled _ hv => rw [hv] at hnone; cases hnone
      | passed _ _ hfree => rw [hfree] at hneeded; cases hneeded
    · exact ⟨arg', hmem, hneeded, hnone, by rw [hget hmem, hunset]⟩
  · rintro ⟨arg', hmem, hneeded, hnone, hunset⟩
    exact ⟨arg', List.mem_cons_of_mem _ hmem, hneeded, hnone, by rw [← hget hmem, hunset]⟩

/-- If an argument is refused, it is the first by name that is wanted. -/
theorem wants_of_addDefaults {e : ExecutionError} (hsorted : args.Pairwise fun a b => a.1 < b.1)
    (h : addDefaults args vars = .error e) :
    ∃ x, e = .missingArgument x ∧ Wants args vars x ∧ ∀ y, Wants args vars y → x ≤ y := by
  induction args generalizing vars with
  | nil => cases h
  | cons p rest ih =>
    obtain ⟨x, arg⟩ := p
    obtain ⟨hfirst, hrest⟩ := List.pairwise_cons.mp hsorted
    obtain ⟨r, hturn, hstep⟩ := exists_turn x arg vars
    rw [hstep] at h
    cases r with
    | ok next =>
      obtain ⟨y, he, hy, hleast⟩ := ih hrest h
      refine ⟨y, he, (wants_cons hfirst hturn y).mpr hy, fun z hz => ?_⟩
      exact hleast z ((wants_cons hfirst hturn z).mp hz)
    | error e' =>
      cases hturn with
      | refused hunset hnone hneeded =>
        cases h
        refine ⟨x, rfl, ⟨arg, List.mem_cons_self, hneeded, hnone, hunset⟩, ?_⟩
        rintro y ⟨arg', hmem, -⟩
        rcases List.mem_cons.mp hmem with heq | hmem
        · cases heq
          exact String.le_refl _
        · exact le_of_lt (hfirst _ hmem)

/-- If none is refused, none is wanted. -/
theorem not_wants_of_addDefaults (hsorted : args.Pairwise fun a b => a.1 < b.1)
    (h : addDefaults args vars = .ok ready) (x : String) : ¬ Wants args vars x := by
  induction args generalizing vars with
  | nil =>
    rintro ⟨arg, hmem, -⟩
    cases hmem
  | cons p rest ih =>
    obtain ⟨y, arg⟩ := p
    obtain ⟨hfirst, hrest⟩ := List.pairwise_cons.mp hsorted
    obtain ⟨r, hturn, hstep⟩ := exists_turn y arg vars
    rw [hstep] at h
    obtain ⟨next, rfl, hready⟩ := exists_of_bind_ok h
    rw [wants_cons hfirst hturn]
    exact ih hrest hready

end

/-- A table has at most one argument of a name, so its default is the one among the entries. -/
theorem default?_entries (a : Assistant) (x : String) :
    default? a.args.entries x = a.default? x := by
  rcases hdefault : default? a.args.entries x with _ | v
  · rcases hget : a.args.get? x with _ | arg
    · rw [Assistant.default?, hget]
      rfl
    · have hnone := default?_eq_none_iff.mp hdefault arg (Table.get?_eq_some_iff.mp hget)
      rw [Assistant.default?, hget, Option.bind_some, hnone]
  · obtain ⟨⟨y, arg⟩, hmem, hv⟩ := List.exists_of_findSome?_eq_some hdefault
    by_cases hy : y = x
    · subst hy
      rw [if_pos rfl] at hv
      rw [Assistant.default?, Table.get?_eq_some_iff.mpr hmem, Option.bind_some, hv]
    · rw [if_neg hy] at hv
      cases hv

/-- An argument is wanted among the entries of an assistant if it is needed and not there. -/
theorem wants_entries_iff {a : Assistant} {vars : Vars} {x : String} :
    Wants a.args.entries vars x ↔ a.Needs x ∧ vars.get? x = none := by
  constructor
  · rintro ⟨arg, hmem, hneeded, hnone, hunset⟩
    exact ⟨⟨arg, Table.get?_eq_some_iff.mpr hmem, hneeded, hnone⟩, hunset⟩
  · rintro ⟨⟨arg, hget, hneeded, hnone⟩, hunset⟩
    exact ⟨arg, Table.get?_eq_some_iff.mp hget, hneeded, hnone, hunset⟩

/-! ## The arguments of a path -/

/-- The default of the first assistant that gives an argument one. -/
def firstDefault? (chain : List Assistant) (x : String) : Option Value :=
  chain.findSome? fun a => a.default? x

/-- The assistant numbered `k` needs an argument that is not there when its turn comes: it is not
among the variables at the start, and no assistant before has a default for it. -/
structure Lacks (chain : List Assistant) (base : Vars) (k : Nat) (x : String) : Prop where
  needed : ∃ a, chain[k]? = some a ∧ a.Needs x
  unset : base.get? x = none
  noDefault : firstDefault? (chain.take k) x = none

/-- The first argument that is lacking: by the place of the assistant, and then by name. -/
structure FirstLacking (chain : List Assistant) (base : Vars) (k : Nat) (x : String) : Prop where
  lacking : Lacks chain base k x
  first : ∀ k' x', Lacks chain base k' x' → k < k' ∨ k = k' ∧ x ≤ x'

section

variable {a : Assistant} {rest chain : List Assistant} {vars next ready : Vars} {k : Nat}
  {x : String}

theorem firstDefault?_cons (a : Assistant) (rest : List Assistant) (x : String) :
    firstDefault? (a :: rest) x = (a.default? x).or (firstDefault? rest x) := by
  rw [firstDefault?, List.findSome?_cons]
  cases a.default? x <;> rfl

theorem lacks_zero : Lacks (a :: rest) vars 0 x ↔ Wants a.args.entries vars x := by
  rw [wants_entries_iff]
  constructor
  · rintro ⟨⟨b, hb, hneeds⟩, hunset, -⟩
    cases hb
    exact ⟨hneeds, hunset⟩
  · rintro ⟨hneeds, hunset⟩
    exact ⟨⟨a, rfl, hneeds⟩, hunset, rfl⟩

/-- What is lacking behind the first assistant is lacking once its defaults are filled in. -/
theorem lacks_succ (hnext : ∀ y, next.get? y = (vars.get? y).or (a.default? y)) :
    Lacks (a :: rest) vars (k + 1) x ↔ Lacks rest next k x := by
  constructor
  · rintro ⟨hneeded, hunset, hnone⟩
    rw [List.take_succ_cons, firstDefault?_cons, Option.or_eq_none_iff] at hnone
    exact ⟨hneeded, by rw [hnext, hunset, hnone.1]; rfl, hnone.2⟩
  · rintro ⟨hneeded, hunset, hnone⟩
    rw [hnext, Option.or_eq_none_iff] at hunset
    refine ⟨hneeded, hunset.1, ?_⟩
    rw [List.take_succ_cons, firstDefault?_cons, hunset.2, hnone]
    rfl

/-- The arguments of a path, as they take their turns. -/
def declared (chain : List Assistant) : List (String × Argument) :=
  chain.flatMap fun a => a.args.entries

theorem addDefaults_append (args args' : List (String × Argument)) (vars : Vars) :
    addDefaults (args ++ args') vars = addDefaults args vars >>= addDefaults args' := by
  induction args generalizing vars with
  | nil => rfl
  | cons p args ih =>
    obtain ⟨x, arg⟩ := p
    obtain ⟨r, -, hstep⟩ := exists_turn x arg vars
    rw [List.cons_append, hstep, hstep]
    cases r with
    | error e => rfl
    | ok next => exact ih next

/-- **The arguments of a path** are filled in unless one is lacking; otherwise the first that is
lacking is refused. -/
theorem lacking_of_addDefaults : ∀ {chain : List Assistant} {vars : Vars},
    (∀ e, addDefaults (declared chain) vars = .error e →
      ∃ k x, e = .missingArgument x ∧ FirstLacking chain vars k x) ∧
    ∀ ready, addDefaults (declared chain) vars = .ok ready → ∀ k x, ¬ Lacks chain vars k x
  | [], vars => by
    refine ⟨fun e h => (by cases h), fun ready _ k x h => ?_⟩
    obtain ⟨a, ha, -⟩ := h.needed
    cases ha
  | a :: rest, vars => by
    have hsplit : addDefaults (declared (a :: rest)) vars =
        addDefaults a.args.entries vars >>= addDefaults (declared rest) := by
      rw [declared, List.flatMap_cons, addDefaults_append]
      rfl
    rw [hsplit]
    rcases hhere : addDefaults a.args.entries vars with e | next
    · obtain ⟨x, he, hwants, hleast⟩ := wants_of_addDefaults a.args.sorted hhere
      refine ⟨fun e' h => ?_, fun ready h => (by cases h)⟩
      cases h
      refine ⟨0, x, he, lacks_zero.mpr hwants, fun k' x' h' => ?_⟩
      cases k' with
      | zero => exact .inr ⟨rfl, hleast x' (lacks_zero.mp h')⟩
      | succ k' => exact .inl (Nat.succ_pos k')
    · have hnext : ∀ y, next.get? y = (vars.get? y).or (a.default? y) := fun y => by
        rw [get?_addDefaults_eq y hhere, default?_entries]
      have hnone : ∀ x, ¬ Lacks (a :: rest) vars 0 x := fun x h =>
        not_wants_of_addDefaults a.args.sorted hhere x (lacks_zero.mp h)
      obtain ⟨hrefused, hfilled⟩ := @lacking_of_addDefaults rest next
      refine ⟨fun e h => ?_, fun ready h k x hlacks => ?_⟩
      · obtain ⟨k, x, he, hlacks, hfirst⟩ := hrefused e h
        refine ⟨k + 1, x, he, (lacks_succ hnext).mpr hlacks, fun k' x' h' => ?_⟩
        cases k' with
        | zero => exact absurd h' (hnone x')
        | succ k' =>
          rcases hfirst k' x' ((lacks_succ hnext).mp h') with hlt | ⟨rfl, hle⟩
          · exact .inl (Nat.succ_lt_succ hlt)
          · exact .inr ⟨rfl, hle⟩
      · cases k with
        | zero => exact hnone x hlacks
        | succ k => exact hfilled ready h k x ((lacks_succ hnext).mp hlacks)

theorem default?_declared (chain : List Assistant) (x : String) :
    default? (declared chain) x = firstDefault? chain x := by
  induction chain with
  | nil => rfl
  | cons a rest ih =>
    have hsplit : default? (declared (a :: rest)) x =
        (default? a.args.entries x).or (default? (declared rest) x) := by
      rw [declared, List.flatMap_cons, default?, List.findSome?_append]
      rfl
    rw [hsplit, default?_entries, ih, firstDefault?_cons]

end

/-! ## Preparing -/

/-- The variables with the path in them, before any default. -/
def base (i : Invocation) (vars : Vars) : Vars := numbered i.names 0 vars

/-- The variables of a run, from those that were given. -/
structure Filled (i : Invocation) (vars ready : Vars) : Prop where
  /-- What is there stays, and what is not is filled in with the first default, if there is one. -/
  values : ∀ x, ready.get? x = ((i.base vars).get? x).or (firstDefault? i.chain x)
  /-- What was given stays, unless it goes by the name of an element of the path. -/
  given : ∀ x v, vars.get? x = some v → (∀ n ≤ i.chain.length, x ≠ pathVar n) →
    ready.get? x = some v
  /-- Nothing is there that was not and has no default. -/
  nothingElse : ∀ x, (i.base vars).get? x = none → firstDefault? i.chain x = none →
    ready.get? x = none

variable (i : Invocation) (vars : Vars)

theorem length_names : i.names.length = i.chain.length + 1 := by simp [names]

theorem get?_base_pathVar {n : Nat} (hn : n ≤ i.chain.length) :
    (i.base vars).get? (pathVar n) = i.names[n]?.map Value.text := by
  have hlt : n < i.names.length := by
    rw [length_names]
    exact Nat.lt_succ_of_le hn
  have hget : (i.base vars).get? (pathVar (0 + n)) = i.names[n]?.map Value.text :=
    get?_numbered hlt
  rwa [Nat.zero_add] at hget

theorem get?_numbered_of_ne {x : String} : ∀ {names : List String} {n : Nat} {vars : Vars},
    (∀ k < names.length, x ≠ pathVar (n + k)) → (numbered names n vars).get? x = vars.get? x
  | [], _, _, _ => rfl
  | _ :: rest, n, vars, h => by
    have hne : pathVar n ≠ x := (h 0 (Nat.zero_lt_succ _)).symm
    rw [numbered, get?_numbered_of_ne, Table.get?_insert_of_ne _ _ hne]
    intro k hk
    rw [Nat.add_assoc, Nat.add_comm 1]
    exact h (k + 1) (Nat.succ_lt_succ hk)

theorem get?_base_of_ne {x : String} (h : ∀ n ≤ i.chain.length, x ≠ pathVar n) :
    (i.base vars).get? x = vars.get? x := by
  refine get?_numbered_of_ne fun k hk => ?_
  rw [length_names] at hk
  rw [Nat.zero_add]
  exact h k (Nat.le_of_lt_succ hk)

theorem prepare_eq : i.prepare vars = addDefaults (declared i.chain) (i.base vars) := rfl

theorem filled_of_prepare {ready : Vars} (h : i.prepare vars = .ok ready) :
    i.Filled vars ready := by
  rw [prepare_eq] at h
  have hvalues : ∀ x, ready.get? x = ((i.base vars).get? x).or (firstDefault? i.chain x) := by
    intro x
    rw [get?_addDefaults_eq x h, default?_declared]
  refine ⟨hvalues, fun x v hx hne => ?_, fun x hx hnone => ?_⟩
  · rw [hvalues, get?_base_of_ne i vars hne, hx, Option.some_or]
  · rw [hvalues, hx, hnone]
    rfl

/-- **Preparing the arguments of a run.** The elements of the path are put in first, and no other
variable is touched by that. If then an assistant of the path requires an argument that has no
default, is not there, and has a default of no assistant before, preparing fails with the first such
argument: of the first such assistant, and of its own the first by name. In any other case it
succeeds, and each argument that is not there has the default of the first assistant with one;
nothing else is changed or added. -/
theorem prepare_fills :
    (∀ n ≤ i.chain.length, (i.base vars).get? (pathVar n) = i.names[n]?.map Value.text) ∧
    (∀ x, (∀ n ≤ i.chain.length, x ≠ pathVar n) → (i.base vars).get? x = vars.get? x) ∧
    ((∃ k x, Lacks i.chain (i.base vars) k x) →
      ∃ k x, FirstLacking i.chain (i.base vars) k x ∧
        i.prepare vars = .error (.missingArgument x)) ∧
    ((¬ ∃ k x, Lacks i.chain (i.base vars) k x) →
      ∃ ready, i.prepare vars = .ok ready ∧ i.Filled vars ready) := by
  obtain ⟨hrefused, hfilled⟩ := @lacking_of_addDefaults i.chain (i.base vars)
  refine ⟨fun n => get?_base_pathVar i vars, fun x => get?_base_of_ne i vars, ?_, ?_⟩
  · rintro ⟨k, x, hlacks⟩
    rcases hprepare : i.prepare vars with e | ready
    · obtain ⟨k', x', rfl, hfirst⟩ := hrefused e hprepare
      exact ⟨k', x', hfirst, rfl⟩
    · exact absurd hlacks (hfilled ready hprepare k x)
  · intro hnone
    rcases hprepare : i.prepare vars with e | ready
    · obtain ⟨k, x, -, hfirst⟩ := hrefused e hprepare
      exact absurd ⟨k, x, hfirst.lacking⟩ hnone
    · exact ⟨ready, rfl, filled_of_prepare i vars hprepare⟩

/-- A default helps the assistants that come after the one that gives it, and no other. -/
example :
    let giving : Assistant :=
      { name := "python", args := .ofList [("name", { initial := some (.text "blog") })] }
    let asking : Assistant := { name := "django", args := .ofList [("name", { required := true })] }
    ((prepare ⟨"crt", [giving, asking]⟩ ∅).toOption.bind (·.get? "name")) = some (.text "blog") ∧
      (prepare ⟨"crt", [asking, giving]⟩ ∅).toOption.isNone = true := by decide +kernel

end Invocation

end Scaffold
