import Scaffold.Proofs.Walk
import Scaffold.Run.Collect

/-!
# Calls, and collecting dependencies

A call does one of three things: it warns that there is no such section, it is refused because calls
are nested too deep, or it runs the section on a copy of the context. `called_cases` reduces every
statement on calls to these three. Collecting dependencies dispatches nothing, so it is confined to
the names that the section writes, and the bound on calls bounds its recursion.

Results:
* `called_of_missing`, `called_of_deep`, `called_of_callee`: the three cases as equations.
* **`confined_dependencies`**: collecting the dependencies of a section sets only names that the
  section writes and fails only with ordinary failures, so it never runs out of its bound.
* `dependencies_of_cancelled`: a cancelled run collects nothing.
-/

namespace Scaffold

variable {W α : Type}

/-! ## Calls -/

/-- The copy of a context that a callee runs on: the call is on the stack, and so are the files of
a snippet. -/
def Context.entering (c : Context) (kind : SectionKind) (target : String) (callee : Callee) :
    Context :=
  { c with kind, calls := c.calls ++ [target], files := c.files ++ callee.files.toList }

/-- The state a callee starts in. -/
def State.entering (s : State W) (kind : SectionKind) (target : String) (callee : Callee) :
    State W :=
  { s with context := s.context.entering kind target callee }

/-- The warning for a call that names no section. -/
def missingCallee (kind : SectionKind) (target : String) : Event :=
  .logged .calling .warn ("Couldn't find " ++ kind.defaultSection ++ " section '" ++ target ++ "'")

/-- The error for a call that is nested too deep: it names all calls up to this one. -/
def tooDeep (calls : List String) (target : String) : Failure :=
  .error (.execution (.recursionLimit (Text.join " -> " (calls ++ [target]))))

namespace Run

section Called

variable {kind : SectionKind} {target : String} {go : Section → Run W α} {otherwise : α}
variable {s : State W} {callee : Callee}

theorem called_of_missing (h : s.context.resolve? kind target = none) :
    called kind target go otherwise s = (.ok otherwise, s.note (missingCallee kind target)) := by
  rw [called, context_bind, h]
  rfl

theorem called_of_some (h : s.context.resolve? kind target = some callee) :
    called kind target go otherwise s = enter kind target callee go s := by
  rw [called, context_bind, h]

theorem called_of_deep (h : s.context.resolve? kind target = some callee)
    (hd : maxCalls ≤ s.context.calls.length) :
    called kind target go otherwise s = (.error (tooDeep s.context.calls target), s) := by
  rw [called_of_some h, enter, context_bind, if_pos hd]
  rfl

theorem called_of_callee (h : s.context.resolve? kind target = some callee)
    (hd : s.context.calls.length < maxCalls) :
    called kind target go otherwise s =
      ((go callee.entries (s.entering kind target callee)).1,
        { (go callee.entries (s.entering kind target callee)).2 with context := s.context }) := by
  rw [called_of_some h, enter, context_bind,
    if_neg (Nat.not_le.mpr hd)]
  obtain ⟨entries, files⟩ := callee
  cases files with
  | none => simp [forked, State.entering, Context.entering]
  | some files => rfl

/-- What a call does, by its three cases. -/
theorem called_cases {P : Except Failure α → State W → Prop}
    (missing : P (.ok otherwise) (s.note (missingCallee kind target)))
    (deep : P (.error (tooDeep s.context.calls target)) s)
    (entered : ∀ callee, s.context.resolve? kind target = some callee →
      s.context.calls.length < maxCalls →
      P (go callee.entries (s.entering kind target callee)).1
        { (go callee.entries (s.entering kind target callee)).2 with context := s.context }) :
    P (called kind target go otherwise s).1 (called kind target go otherwise s).2 := by
  rcases h : s.context.resolve? kind target with _ | callee
  · rw [called_of_missing h]
    exact missing
  · rcases Nat.lt_or_ge s.context.calls.length maxCalls with hd | hd
    · rw [called_of_callee h hd]
      exact entered callee h hd
    · rw [called_of_deep h hd]
      exact deep

end Called

/-- Any name. -/
abbrev anyName : String → Prop := fun _ => True

/-! ## Collecting -/

section Collecting

variable (host : Host W) {N : String → Prop}

theorem confined_called {kind : SectionKind} {target : String} {go : Section → Run W α}
    {otherwise : α} {E : Failure → Prop} (hE : ∀ e, E (.error (.execution e)))
    (h : ∀ b, Confined anyName E (go b)) : Confined N E (called kind target go otherwise) := by
  refine ⟨fun s => ?_, fun s f => ?_⟩
  · refine called_cases (P := fun _ t => State.Local N s t) (.note s rfl) (.refl s) ?_
    exact fun callee _ _ => ((h callee.entries).stays _).forked
  · refine called_cases (P := fun r _ => r = .error f → E f) (fun hf => nomatch hf) ?_ ?_
    · rintro ⟨⟩
      exact hE _
    · exact fun callee _ _ => (h callee.entries).errs _ f

/-- A walk whose leaves are local is local. Which failures are possible may depend on the stack of
calls, which a walk does not change. -/
theorem local_walk {p : Walker W α} {E : List String → Failure → Prop}
    (hE : ∀ calls f, f.IsSyntax → E calls f)
    (hleaf : ∀ e s, State.Local N s (p.leaf e s).2 ∧
      ∀ f, (p.leaf e s).1 = .error f → E s.context.calls f)
    (hskip : ∀ e, Confined N never (p.skipped e)) {sec : Section} (hN : ∀ x ∈ sec.written, N x)
    (paired : Bool) (s : State W) :
    State.Local N s (walk host p paired sec s).2 ∧
      ∀ f, (walk host p paired sec s).1 = .error f → E s.context.calls f := by
  have h : KeepsLocal p N fun s r t =>
      State.Local N s t ∧ ∀ f, r = .error f → E s.context.calls f :=
    { step := fun hl hf => ⟨hl, fun f h => hE _ f (hf f h)⟩
      join := fun {s t u a r} hx hy => ⟨hx.1.trans hy.1, fun f hf => by
        cases r with
        | ok b => cases hf
        | error e => exact hx.1.context.calls ▸ hy.2 f hf⟩
      scope := fun hg => ⟨hg.1.scope, hg.2⟩
      leaf := hleaf
      skipped := fun e s =>
        have hx := ((hskip e).anyFailure (E := fun _ => False)).bind fun _ =>
          confined_pure ([] : List α)
        ⟨hx.stays s, fun f hf => (hx.errs s f hf).elim⟩ }
  exact walk_meets host h.keeps sec hN paired s

/-- The failures that collecting with a bound on its recursion may end with: the bound is used up
only where it and the calls on the stack together stay within the bound on calls. -/
def CollectFails (depth : Nat) (calls : List String) (f : Failure) : Prop :=
  f.Ordinary ∨ f = .exhausted ∧ depth + min calls.length maxCalls ≤ maxCalls

/-- Collecting, with the recursion bounded by `depth`: a call takes one from the bound and adds one
to the stack of calls. -/
theorem local_collect : ∀ (depth : Nat) {N : String → Prop} {sec : Section},
    (∀ x ∈ sec.written, N x) → ∀ s : State W, State.Local N s (collect host depth sec s).2 ∧
      ∀ f, (collect host depth sec s).1 = .error f → CollectFails depth s.context.calls f
  | 0, _, _, _, s => ⟨.refl s, fun _ h => by cases h; exact .inr ⟨rfl, by omega⟩⟩
  | depth + 1, N, sec, hN, s => by
    refine local_walk host (fun _ _ h => .inl (.inl h)) (fun e s => ?_) (fun _ => confined_pure ())
      hN false s
    have hinner := fun b => @local_collect depth anyName b fun _ _ => trivial
    simp only [collector]
    unfold dependencyLeaf
    rw [context_bind]
    split
    · refine called_cases (P := fun r t => State.Local N s t ∧
        ∀ f, r = .error f → CollectFails (depth + 1) s.context.calls f)
        ⟨.note s rfl, fun _ h => nomatch h⟩
        ⟨.refl s, fun _ h => by cases h; exact .inl (.inr trivial)⟩ fun callee _ hd => ?_
      obtain ⟨hl, hf⟩ := hinner callee.entries (s.entering .dependencies _ callee)
      refine ⟨hl.forked, fun f h => (hf f h).imp_right fun ⟨hx, hb⟩ => ⟨hx, ?_⟩⟩
      simp only [State.entering, Context.entering, List.length_append, List.length_singleton] at hb
      omega
    · have hc : Confined N never (do
          if isDependencyKind e.tag then
            return [{ kind := e.tag, argument := s.context.formatValue e.argument }]
          else
            log .collecting .warn ("Unknown dependency type '" ++ e.tag ++ "', skipping")
            return [] : Run W (List Dependency)) := by
        split
        · exact confined_pure _
        · exact (confined_log _ _ _).bind fun _ => confined_pure _
      exact ⟨hc.stays s, fun f hf => (hc.errs s f hf).elim⟩

/-- **Collecting the dependencies** of a section sets only names that the section writes, and never
runs out of its bound. -/
theorem confined_dependencies {sec : Section} (hN : ∀ x ∈ sec.written, N x) :
    Confined N Failure.Ordinary (dependencies host sec) := by
  refine ⟨fun s => (local_collect host _ hN s).1, fun s f hf => ?_⟩
  rcases (local_collect host _ hN s).2 f hf with h | ⟨-, h⟩
  · exact h
  · omega

theorem confined_collectNamed (a : Assistant) : ∀ names,
    Confined anyName Failure.Ordinary (collectNamed host a names)
  | [] => confined_pure []
  | name :: rest => by
    rw [collectNamed]
    split
    · exact confined_collectNamed a rest
    · exact (confined_log _ _ _).bind fun _ =>
        (confined_dependencies host fun _ _ => trivial).bind fun _ =>
          (confined_collectNamed a rest).bind fun _ => confined_pure _

theorem confined_assistantDependencies (a : Assistant) :
    Confined N Failure.Ordinary (assistantDependencies host a) :=
  confined_context.bind fun _ => confined_forked _ (confined_collectNamed host a _)

theorem confined_chainDependencies : ∀ chain,
    Confined N Failure.Ordinary (chainDependencies host chain)
  | [] => confined_pure []
  | a :: rest =>
    (confined_assistantDependencies host a).bind fun _ =>
      (confined_chainDependencies rest).bind fun _ => confined_pure _

theorem confined_callDependencies (target : String) :
    Confined N Failure.Ordinary (callDependencies host target) :=
  confined_called (fun _ => .inr trivial) fun _ => confined_dependencies host fun _ _ => trivial

/-- A cancelled run collects nothing. -/
theorem dependencies_of_cancelled (sec : Section) {s : State W} (hs : s.world.cancelled = true) :
    dependencies host sec s = (.ok [], s) := by
  change walk host _ false sec s = _
  cases sec with
  | nil => rw [walk_nil]; rfl
  | cons e rest =>
    rw [walk_cons_of_cancelled _ _ _ _ _ hs]
    rfl

end Collecting

end Run

end Scaffold
