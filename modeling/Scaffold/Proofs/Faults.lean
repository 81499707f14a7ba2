import Scaffold.Proofs.Command

/-!
# The errors of a run

Below a run, errors of every family come up: a path of a marker that names no assistant, a tag that
no runner is for, a file that cannot be read, a document that is malformed. Each is a warning or is
turned into an error of the execution where it comes up. So a run fails for what is wrong with the
script, or because something could not be carried out, and for no other reason.

* `Error.OfRun`: those two families.
* `Run.Raises`: the errors that a computation may end with.
* `Registry.Proper`: runners and installers that are not built in keep to those errors too.

Results:
* `raises_runWith`: so does every runner, if running a section does.
* `raises_runCommand`: that no runner is for a tag is not passed on.
* `raises_walk`: a walk adds nothing to the errors of its leaves.
* **`raises_runSection`**: a run keeps to the two families.
* **`errors_of_run`**: and so does a run with the built-in runners, and the collecting of
  dependencies.
-/

namespace Scaffold

variable {W α β : Type}

/-! ## Families of errors -/

/-- A malformed construct, or a failed execution. -/
def Error.OfRun : Error → Prop
  | .syntaxFault _ | .execution _ => True
  | _ => False

/-- No runner is for a tag. -/
def Error.Unhandled : Error → Prop
  | .config (.noRunner _) => True
  | _ => False

theorem Error.ofRun_iff {e : Error} :
    e.OfRun ↔ (∃ x, e = .syntaxFault x) ∨ ∃ x, e = .execution x := by
  cases e <;> simp [OfRun]

theorem Error.ofRun_of_ordinary {e : Error} (h : (Failure.error e).Ordinary) : e.OfRun := by
  cases e with
  | syntaxFault => trivial
  | execution => trivial
  | _ => exact h.elim id id

namespace Run

/-- The errors that a computation ends with are in `E`. A run that is cut short at the bound on
nested runs is no error. -/
def Raises (E : Error → Prop) (x : Run W α) : Prop :=
  ∀ s e, (x s).1 = .error (.error e) → E e

section Raises

variable {N : String → Prop} {E F : Error → Prop} {x : Run W α}

theorem Raises.mono (h : Raises E x) (hEF : ∀ e, E e → F e) : Raises F x :=
  fun s e he => hEF e (h s e he)

theorem Confined.raises (h : Confined N Failure.Ordinary x) : Raises Error.OfRun x :=
  fun s e he => Error.ofRun_of_ordinary (h.errs s (.error e) he)

theorem raises_pure (a : α) : Raises E (pure a : Run W α) := fun _ _ h => nomatch h

theorem raises_exhausted : Raises E (exhausted : Run W α) := fun _ _ h => nomatch h

theorem raises_context : Raises E (context : Run W Context) := fun _ _ h => nomatch h

theorem raises_world : Raises E (world : Run W (World W)) := fun _ _ h => nomatch h

theorem raises_record (v : Event) : Raises E (record v : Run W Unit) := fun _ _ h => nomatch h

theorem raises_log (o : Origin) (l : Level) (m : String) : Raises E (log o l m : Run W Unit) :=
  raises_record _

theorem raises_fail {e : Error} (h : E e) : Raises E (fail e : Run W α) :=
  fun _ _ he => by cases he; exact h

theorem raises_ofSyntax : ∀ r : Except SyntaxError α, Raises Error.OfRun (ofSyntax r : Run W α)
  | .ok a => raises_pure a
  | .error _ => raises_fail trivial

/-- A command is carried out between its two events. -/
theorem raises_witnessed {x : Run W Value} (command : Command) (h : Raises E x) :
    Raises E (witnessed command x) :=
  fun s => h (s.note (.dispatched command s.context))

theorem Raises.bind {f : α → Run W β} (hx : Raises E x) (hf : ∀ a, Raises E (f a)) :
    Raises E (x >>= f) := by
  intro s e h
  rcases hxs : x s with ⟨e' | a, t⟩
  · rw [bind_of_error hxs] at h
    cases h
    exact hx s e (by rw [hxs])
  · rw [bind_of_ok hxs] at h
    exact hf a t e h

theorem Raises.map {f : α → β} (h : Raises E x) : Raises E (do return f (← x)) :=
  h.bind fun _ => raises_pure _

/-- A copy of the context is as good as the context. -/
theorem raises_forked (change : Context → Context) (h : Raises E x) :
    Raises E (forked change x) :=
  fun s => h { s with context := change s.context }

/-- A call that is nested too deep is a failed execution. -/
theorem raises_called {kind : SectionKind} {target : String} {go : Section → Run W α}
    {otherwise : α} (hgo : ∀ sec, Raises Error.OfRun (go sec)) :
    Raises Error.OfRun (called kind target go otherwise) := by
  intro s
  refine called_cases (P := fun r _ => ∀ e, r = .error (.error e) → e.OfRun) ?_ ?_ ?_
  · exact fun e he => nomatch he
  · exact fun e he => by cases he; trivial
  · exact fun callee _ _ e he => hgo callee.entries _ e he

end Raises

end Run

open Run

/-- Runners and installers that are not built in end with no other errors than the built-in ones do,
but that a runner may say that nothing is there for a tag. -/
structure Registry.Proper (r : Registry W) : Prop where
  extras : ∀ x, .extra x ∈ r.runners → ∀ inner command,
    Raises (fun e => e.OfRun ∨ e.Unhandled) (x.carryOut inner command)
  installers : ∀ i, r.Installs i → ∀ inner deps, Raises Error.OfRun (i.install inner deps)

/-- An installer that only fails to execute is proper with the built-in runners. -/
theorem Registry.proper_withInstaller {i : Installer W}
    (hi : ∀ inner deps, Raises (fun e => ∃ x, e = .execution x) (i.install inner deps)) :
    (withInstaller i).Proper where
  extras x hx := by simp [withInstaller] at hx
  installers j hj inner deps := by
    have hij : j = i := by simpa [Installs, withInstaller, eq_comm] using hj
    rw [hij]
    exact (hi inner deps).mono fun e he => Error.ofRun_iff.mpr (.inr he)

/-! ## Runners -/

namespace Run

section Runners

variable {env : Env W} {inner : Interpreter W}

theorem raises_installResolved (h : env.registry.Proper) (deps : List Dependency) :
    Raises Error.OfRun (installResolved env inner deps) := by
  unfold installResolved
  split
  · rename_i i hi
    exact h.installers i (.inl hi) inner deps
  · exact raises_log _ _ _

theorem raises_runCall (hgo : ∀ sec, Raises Error.OfRun (inner.runSection sec)) (target : String) :
    Raises Error.OfRun (runCall env.host inner.runSection target) := by
  refine raises_context.bind fun c => ?_
  cases c.kind with
  | run => exact (raises_called hgo).map
  | dependencies => exact (confined_callDependencies (N := noName) env.host target).raises.map

theorem raises_runDependencies {i : Installer W}
    (hi : ∀ deps, Raises Error.OfRun (i.install inner deps)) (command : Command) :
    Raises Error.OfRun (runDependencies inner i command) := by
  unfold runDependencies
  split
  · exact raises_context.bind fun c =>
      (raises_ofSyntax _).bind hi
  · exact raises_log _ _ _

/-- **Collecting dependencies** ends with an error of the script or of its execution. -/
theorem raises_dependencies (host : Host W) (sec : Section) :
    Raises Error.OfRun (dependencies host sec) := by
  have hlocal : Confined anyName Failure.Ordinary (dependencies host sec) :=
    confined_dependencies host fun _ _ => trivial
  exact hlocal.raises

/-- What the path of a marker names need not be there: then nothing is needed for it. -/
theorem raises_installIn (h : env.registry.Proper) (dir : String) :
    Raises Error.OfRun (Marker.installIn env inner dir) := by
  refine (confined_readIn env.host dir).ofExecution.raises.bind fun m => ?_
  refine (confined_creatorDependencies env.host m).raises.bind fun needed => ?_
  refine (raises_ofSyntax _).bind fun extra => ?_
  refine (raises_forked _ (raises_dependencies env.host extra)).bind fun added => ?_
  exact raises_installResolved h (needed ++ added)

theorem raises_runIn (hgo : ∀ sec, Raises Error.OfRun (inner.runSection sec)) (dir : String) :
    Raises Error.OfRun (Marker.runIn env.host inner.runSection dir) := by
  refine (confined_readIn env.host dir).ofExecution.raises.bind fun m => ?_
  refine (raises_ofSyntax _).bind fun sec => ?_
  exact raises_forked _ (hgo sec)

theorem raises_marker (h : env.registry.Proper)
    (hgo : ∀ sec, Raises Error.OfRun (inner.runSection sec)) (tag dir : String) :
    Raises Error.OfRun (Marker.run env inner tag dir) := by
  unfold Marker.run
  split
  · exact (confined_writeIn env.host dir).ofExecution.raises.map
  split
  · exact (confined_readIn env.host dir).ofExecution.raises.map
  split
  · exact (raises_installIn h dir).map
  split
  · exact (raises_runIn hgo dir).map
  · exact (raises_log _ _ _).map

/-- **A runner** keeps to the errors of a run, if running a section does. -/
theorem raises_runWith (h : env.registry.Proper)
    (hgo : ∀ sec, Raises Error.OfRun (inner.runSection sec)) (command : Command)
    {runner : Runner W} (hr : runner ∈ env.registry.runners) :
    Raises (fun e => e.OfRun ∨ e.Unhandled) (runWith env inner command runner) := by
  have htext : Raises Error.OfRun (textArgument command : Run W String) :=
    (confined_textArgument command).raises
  have hbuiltin {x : Run W Value} (hx : Raises Error.OfRun x) :
      Raises (fun e => e.OfRun ∨ e.Unhandled) x := hx.mono fun _ => .inl
  cases runner with
  | call => exact hbuiltin (htext.bind fun _ => raises_runCall hgo _)
  | shell =>
    exact hbuiltin (htext.bind fun _ => (confined_runShell env.host _ _).ofExecution.raises.map)
  | dependencies i =>
    exact hbuiltin (raises_runDependencies (h.installers i (.inr hr) inner) command).map
  | marker =>
    exact hbuiltin (htext.bind fun _ => raises_context.bind fun _ =>
      raises_world.bind fun _ => raises_marker h hgo command.tag _)
  | github =>
    exact hbuiltin (htext.bind fun _ => (confined_github env.host _).ofExecution.raises.map)
  | log => exact hbuiltin (htext.bind fun _ => (confined_runLog _ _).raises.map)
  | extra x => exact h.extras x hr inner command

end Runners

/-! ## Commands and sections -/

section Sections

variable {env : Env W} {inner : Interpreter W}

theorem raises_dispatch (h : env.registry.Proper)
    (hgo : ∀ sec, Raises Error.OfRun (inner.runSection sec)) (command : Command) :
    Raises (fun e => e.OfRun ∨ e.Unhandled) (dispatch env inner command) := by
  refine raises_witnessed command ?_
  split
  · exact raises_fail (.inr trivial)
  · rename_i runner hrunner
    exact (raises_record _).bind fun _ =>
      raises_runWith h hgo command (List.mem_of_find?_eq_some hrunner)

/-- **A command** that no runner is for is no error. -/
theorem raises_runCommand (h : env.registry.Proper)
    (hgo : ∀ sec, Raises Error.OfRun (inner.runSection sec)) (command : Command) :
    Raises Error.OfRun (runCommand env inner command) := by
  intro s e he
  unfold runCommand at he
  split at he
  · cases he
  · rename_i hother
    rcases raises_dispatch h hgo command s e he with hrun | hunhandled
    · exact hrun
    · match e, hunhandled with
      | .config (.noRunner tag), _ => exact (hother tag _ (Prod.ext he rfl)).elim

/-- **A walk** ends with an error of its leaves, or for what is wrong with a control construct. -/
theorem raises_walk {p : Walker W α} (host : Host W) (hleaf : ∀ e, Raises Error.OfRun (p.leaf e))
    (hskipped : ∀ e, Raises Error.OfRun (p.skipped e)) (paired : Bool) (sec : Section) :
    Raises Error.OfRun (walk host p paired sec) := by
  have hkeeps : KeepsLocal p anyName fun _ r _ => ∀ e, r = .error (.error e) → e.OfRun := {
    step := fun _ hr e he => Error.ofRun_of_ordinary (.inl (hr _ he))
    join := fun {_ _ _ _ r} _ hr e he => by
      rcases r with f | b <;> cases he
      exact hr e rfl
    scope := fun hr => hr
    leaf := fun e s => hleaf e s
    skipped := fun e s => ((hskipped e).bind fun _ => raises_pure []) s }
  exact fun s => walk_meets host hkeeps.keeps sec (fun _ _ => trivial) paired s

/-- **A run** ends with an error of the script or of its execution. The induction is on the bound on
nested runs, since a call and a marker run sections within one less. -/
theorem raises_runSection (h : env.registry.Proper) :
    ∀ (depth : Nat) (sec : Section), Raises Error.OfRun (runSection env depth sec)
  | 0, _ => raises_exhausted
  | depth + 1, sec => by
    have hleaf : ∀ e, Raises Error.OfRun ((executor env (interpreter env depth)).leaf e) := fun e =>
      (raises_runCommand h (raises_runSection h depth) ⟨e.tag, e.argument⟩).map
    exact (raises_walk env.host hleaf (fun _ => raises_log _ _ _) false sec).map

end Sections

end Run

/-- **The errors of a run.** Whatever the host does, with the built-in runners and an installer that
only fails to execute, a run of a section ends with no error but that a construct is malformed or
something failed to execute; and so does the collecting of its dependencies. -/
theorem errors_of_run (host : Host W) {i : Installer W}
    (hi : ∀ inner deps s e, (i.install inner deps s).1 = .error (.error e) → ∃ x, e = .execution x)
    (depth : Nat) (sec : Section) (s : State W) {e : Error}
    (h : (runSection ⟨host, .withInstaller i⟩ depth sec s).1 = .error (.error e) ∨
      (dependencies host sec s).1 = .error (.error e)) :
    (∃ x, e = .syntaxFault x) ∨ ∃ x, e = .execution x := by
  refine Error.ofRun_iff.mp ?_
  rcases h with hrun | hcollect
  · exact raises_runSection (Registry.proper_withInstaller hi) depth sec s e hrun
  · exact raises_dependencies host sec s e hcollect

/-! ## A run that goes wrong in several ways -/

/-- The warnings of a run in the order they were given. -/
def State.warned (s : State W) : List String :=
  s.world.history.filterMap fun
    | .logged _ .warn message => some message
    | _ => none

namespace Stale

/-- A marker whose path is that of an assistant that is not there. -/
def markerText : String :=
  "devassistant_version: 0.1.0\nsubassistant_path:\n- gone\noriginal_kwargs: \x7b\x7d\n"

/-- An installer that refuses whatever it is given. -/
def refusing : Installer Unit :=
  .extra fun _ => .done (.error (.error (.execution (.logged "refused"))))

/-- Every file is the marker. -/
def env : Env Unit := ⟨Host.still markerText, .withInstaller refusing⟩

/-- No runner is for the first tag. -/
def script : Section := [⟨"bogus", .text ""⟩, ⟨"dda_dependencies", .text "."⟩]

/-- Where the run starts. -/
def start : State Unit := ⟨{}, { outside := () }⟩

end Stale

/-- A tag that no runner is for and a path that leads nowhere are warnings. The run goes on to the
installer, and its error is the one that the run ends with. -/
theorem errors_of_run_stale :
    (runSection Stale.env 1 Stale.script Stale.start).2.warned =
      ["Unknown command type 'bogus', skipping", "Assistant 'crt gone' is not defined"] ∧
    (runSection Stale.env 1 Stale.script Stale.start).1 =
      .error (.error (.execution (.logged "refused"))) ∧
    ((∃ x, Error.execution (.logged "refused") = .syntaxFault x) ∨
      ∃ x, Error.execution (.logged "refused") = .execution x) := by
  have hrun : (runSection Stale.env 1 Stale.script Stale.start).2.warned =
        ["Unknown command type 'bogus', skipping", "Assistant 'crt gone' is not defined"] ∧
      failure? (runSection Stale.env 1 Stale.script Stale.start).1 =
        some (.error (.execution (.logged "refused"))) := by
    decide +kernel
  have hfailure := eq_error_of_failure? hrun.2
  have hrefusing : ∀ inner deps s e,
      (Stale.refusing.install inner deps s).1 = .error (.error e) → ∃ x, e = .execution x := by
    intro inner deps s e he
    cases he
    exact ⟨_, rfl⟩
  refine ⟨hrun.1, hfailure, ?_⟩
  exact errors_of_run (Host.still Stale.markerText) hrefusing 1 Stale.script Stale.start
    (.inl hfailure)

end Scaffold
