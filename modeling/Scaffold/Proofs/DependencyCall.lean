import Scaffold.Proofs.Recursion
import Scaffold.Proofs.Resolved

/-!
# Two ways to call for dependencies

A call in a section of dependencies is carried out by the walk that collects the section. The runner
for calls, given the same command, gives a value that a list of packages is read from. Both look up
what the text of the call names once its references are filled in, but only the runner takes the
blanks around that text away. So a target with a blank in front, or from a variable that ends in a
line break, names a section for the one and nothing for the other.

* `Run.SameList`: a list of packages that was collected, and a value that a runner gave.

Results:
* `dependencies_call`, `runWith_call`: both ways as what is called for, and in which text.
* `sameList_iff`: reading back the value of a list loses nothing.
* **`call_agrees_iff`**: the two ways agree where the blanks make no difference, and so on every
  text without blanks around it.
* **`not_call_agrees_of_blank`**: a blank in front of a target makes one.
-/

namespace Scaffold

variable {W : Type}

namespace Run

/-- Both failed in the same way, or the list of the one is read from the value of the other. -/
def SameList : Except Failure (List Dependency) → Except Failure Value → Prop
  | .error f, .error g => f = g
  | .ok deps, .ok v => dependenciesOfValue v = .ok deps
  | _, _ => False

theorem sameList_iff {x y : Except Failure (List Dependency)} :
    SameList x (y.map dependenciesToValue) ↔ x = y := by
  rcases x with f | deps <;> rcases y with g | deps'
  · exact ⟨congrArg Except.error, fun h => by cases h; rfl⟩
  · exact ⟨False.elim, nofun⟩
  · exact ⟨False.elim, nofun⟩
  · change dependenciesOfValue (dependenciesToValue deps') = .ok deps ↔ _
    rw [dependenciesOfValue_toValue]
    exact ⟨fun h => by cases h; rfl, fun h => by cases h; rfl⟩

/-- **Collecting a call** is calling for what its text names, blanks and all. -/
theorem dependencies_call (host : Host W) {text : String} {s : State W}
    (hrunning : s.world.cancelled = false) :
    dependencies host [⟨"call", .text text⟩] s =
      callDependencies host (s.context.format text) s := by
  have htag : Construct.ofTag "call" = .command := by decide
  have hleaf : (collector (dependencies host)).leaf ⟨"call", .text text⟩ s =
      callDependencies host (s.context.format text) s := by
    change dependencyLeaf (dependencies host) ⟨"call", .text text⟩ s = _
    rw [dependencyLeaf, context_bind, if_pos rfl]
    rfl
  rw [dependencies_eq_walk, walk_cons_of_command host _ false [] htag hrunning, walk_nil,
    ← hleaf, andThen, bind_apply]
  rcases (collector (dependencies host)).leaf ⟨"call", .text text⟩ s with ⟨f | deps, t⟩
  · rfl
  · change (Except.ok (deps ++ []), t) = _
    rw [List.append_nil]

/-- **The runner for calls**, where dependencies are collected, calls for what is left of the text
without the blanks around it. -/
theorem runWith_call (env : Env W) (inner : Interpreter W) {text : String} {s : State W}
    (hkind : s.context.kind = .dependencies) :
    runWith env inner ⟨"call", .text text⟩ .call s =
      (dependenciesToValue <$>
        callDependencies env.host (Text.trim (s.context.format text))) s := by
  have hargument : textArgument ⟨"call", .text text⟩ s = (.ok (s.context.format text), s) := rfl
  rw [runWith, bind_of_ok hargument, runCall, context_bind, hkind, map_eq_pure_bind]

end Run

open Run

/-- **The two ways to call agree** exactly where the blanks around the text of the call make no
difference to what it calls for. In particular they do where the text, with its references filled
in, has none, and then they come to the same state as well. -/
theorem call_agrees_iff {env : Env W} {inner : Interpreter W} {text : String} {s : State W}
    (hkind : s.context.kind = .dependencies) (hrunning : s.world.cancelled = false) :
    (SameList (dependencies env.host [⟨"call", .text text⟩] s).1
        (runWith env inner ⟨"call", .text text⟩ .call s).1 ↔
      (callDependencies env.host (s.context.format text) s).1 =
        (callDependencies env.host (Text.trim (s.context.format text)) s).1) ∧
    (Text.trim (s.context.format text) = s.context.format text →
      SameList (dependencies env.host [⟨"call", .text text⟩] s).1
          (runWith env inner ⟨"call", .text text⟩ .call s).1 ∧
        (runWith env inner ⟨"call", .text text⟩ .call s).2 =
          (dependencies env.host [⟨"call", .text text⟩] s).2) := by
  rw [dependencies_call env.host hrunning, runWith_call env inner hkind, map_apply]
  dsimp only
  refine ⟨sameList_iff, fun htrim => ?_⟩
  rw [htrim]
  exact ⟨sameList_iff.mpr rfl, rfl⟩

namespace Blank

/-- A snippet that declares a package. -/
def tools : Snippet :=
  { name := "tools", sections := Table.ofList [("dependencies", [⟨"rpm", .list [.text "git"]⟩])] }

/-- A context for collecting, with the snippet and a variable that holds its name. -/
def start : State Unit where
  context :=
    { kind := .dependencies, library := Library.addSnippet {} tools
      vars := Table.ofList [("which", .text "tools")] }
  world := { outside := () }

end Blank

/-- A target that a variable holds, without blanks: both ways give the package. -/
theorem call_agrees_iff_tools :
    Blank.start.context.kind = .dependencies ∧ Blank.start.world.cancelled = false ∧
      SameList (dependencies (Env.watched "").host [⟨"call", .text "$which"⟩] Blank.start).1
        (runWith (Env.watched "") (interpreter (Env.watched "") 1) ⟨"call", .text "$which"⟩ .call
          Blank.start).1 ∧
      (dependencies (Env.watched "").host [⟨"call", .text "$which"⟩] Blank.start).1 =
        .ok [⟨"rpm", .list [.text "git"]⟩] := by
  have htrim : Text.trim (Blank.start.context.format "$which") =
      Blank.start.context.format "$which" := by decide +kernel
  obtain ⟨-, hagrees⟩ :=
    @call_agrees_iff Unit (Env.watched "") (interpreter (Env.watched "") 1) "$which" Blank.start
      rfl rfl
  exact ⟨rfl, rfl, (hagrees htrim).1, eq_ok_of_toOption (by decide +kernel)⟩

/-- **A blank in front of a target** makes a difference: the runner finds the snippet, and
collecting warns that there is none and goes on without its package. -/
theorem not_call_agrees_of_blank :
    ¬ ∀ (env : Env Unit) (inner : Interpreter Unit) (text : String) (s : State Unit),
      s.context.kind = .dependencies → s.world.cancelled = false →
        SameList (dependencies env.host [⟨"call", .text text⟩] s).1
          (runWith env inner ⟨"call", .text text⟩ .call s).1 := by
  intro h
  have hsame := h (Env.watched "") (interpreter (Env.watched "") 1) " $which" Blank.start rfl rfl
  have hcollected :
      (dependencies (Env.watched "").host [⟨"call", .text " $which"⟩] Blank.start).1 = .ok [] :=
    eq_ok_of_toOption (by decide +kernel)
  have hran : (runWith (Env.watched "") (interpreter (Env.watched "") 1)
      ⟨"call", .text " $which"⟩ .call Blank.start).1 =
        .ok (dependenciesToValue [⟨"rpm", .list [.text "git"]⟩]) :=
    eq_ok_of_toOption (by decide +kernel)
  rw [hcollected, hran] at hsame
  have hread : dependenciesOfValue (dependenciesToValue [⟨"rpm", .list [.text "git"]⟩]) =
      .ok [] := hsame
  rw [dependenciesOfValue_toValue] at hread
  cases hread

end Scaffold
