import Scaffold.Proofs.Related

/-!
# Two runs of a command side by side

Around the sections that it runs, a command only does what is confined. So a relation between
computations that holds of a confined one and itself, and goes through sequencing and through
changes of the context, goes from the sections that are run again to the command, and on to the
section that the command stands in. It goes to runners and installers that are not built in as well,
as they only know of an interpreter what it answers. What is left is whether two registries give a
command to the same runner, and what such code is shown of them.

* `Run.Structural R`: a relation that goes through whatever surrounds a section that is run.
* `Run.Interpreter.Related Alike R`: two interpreters that do related things.

Results:
* `Structural.compositional`: such a relation goes through the constructs of a walk.
* `Structural.perform`: from what is asked for by code that is not built in to what it does.
* **`Structural.runWith`**: from what the interpreters do to what a runner does.
* **`Structural.around`**: from the commands of a section to the next interpreter.
-/

namespace Scaffold

variable {W α : Type}

namespace Run

/-- A relation between computations of one type, at every type, that holds of a confined one and
itself, and goes through sequencing, changes of the context, copies of it, and what the interpreter
does around code that is not built in. Such code may be shown lists of runners that are `Alike`. -/
structure Structural (Alike : List Face → List Face → Prop)
    (R : ∀ γ : Type, Run W γ → Run W γ → Prop) : Prop where
  confined : ∀ {γ : Type} {N : String → Prop} {E : Failure → Prop} {x : Run W γ},
    Confined N E x → R γ x x
  sequence : ∀ {γ δ : Type} {x y : Run W γ} {f g : γ → Run W δ}, R γ x y →
    (∀ c, R δ (f c) (g c)) → R δ (x >>= f) (y >>= g)
  between : ∀ {γ : Type} {x y : Run W γ} (push pop : Context → Context), R γ x y →
    R γ (between push pop x) (between push pop y)
  forked : ∀ {γ : Type} {x y : Run W γ} (change : Context → Context), R γ x y →
    R γ (forked change x) (forked change y)
  witnessed : ∀ {x y : Run W Value} (command : Command), R Value x y →
    R Value (witnessed command x) (witnessed command y)
  apart : ∀ {γ : Type} (change : State W → State W) {f g : State W → Run W γ},
    (∀ s, R γ (f s) (g s)) → R γ (apart change f) (apart change g)
  caught : ∀ {γ : Type} {x y : Run W γ}, R γ x y → R (Except Error γ) (caught x) (caught y)
  consult : ∀ {γ : Type} {here there : List Face} {f g : List Face → Run W γ}, Alike here there →
    (∀ faces, R γ (f faces) (g faces)) →
    R γ (do record .consulted; f here) (do record .consulted; g there)

/-- Two interpreters that do related things. -/
structure Interpreter.Related (Alike : List Face → List Face → Prop)
    (R : ∀ γ : Type, Run W γ → Run W γ → Prop) (inner inner' : Interpreter W) : Prop where
  runSection : ∀ sec, R Unit (inner.runSection sec) (inner'.runSection sec)
  dispatch : ∀ command, R Value (inner.dispatch command) (inner'.dispatch command)
  install : ∀ deps, R Unit (inner.install deps) (inner'.install deps)
  runners : Alike inner.runners inner'.runners
  hasInstaller : inner'.hasInstaller = inner.hasInstaller

/-- Give a command to a runner, if there is one for it. -/
def give (env : Env W) (inner : Interpreter W) (command : Command) :
    Option (Runner W) → Run W Value
  | none => fail (.config (.noRunner command.tag))
  | some runner => do
    record (.handled runner.name command)
    runWith env inner command runner

/-- A command is given to the runner that it goes to. -/
theorem dispatch_eq_give (env : Env W) (inner : Interpreter W) (command : Command) :
    dispatch env inner command =
      witnessed command (give env inner command (env.registry.resolve? command)) := by
  rw [dispatch]
  cases env.registry.resolve? command <;> rfl

/-- Go on behind a command: one that no runner accepts is skipped with a warning. -/
def conclude : Except Error Value → Run W Value
  | .ok v => pure v
  | .error (.config (.noRunner tag)) => do
    log .running .warn (unknownCommand tag)
    pure .null
  | .error e => fail e

/-- Running a command is dispatching it, and going on behind how that ends. -/
theorem runCommand_eq (env : Env W) (inner : Interpreter W) (command : Command) :
    runCommand env inner command = (do conclude (← caught (dispatch env inner command))) := by
  funext s
  rw [bind_apply, runCommand, caught]
  rcases dispatch env inner command s with ⟨(e | _) | v, t⟩
  · cases e with
    | config e => cases e <;> rfl
    | _ => rfl
  · rfl
  · rfl

namespace Structural

variable {Alike : List Face → List Face → Prop} {R : ∀ γ : Type, Run W γ → Run W γ → Prop}
variable (h : Structural Alike R)

include h

theorem value (a : α) : R α (pure a) (pure a) :=
  h.confined (N := noName) (E := never) (confined_pure a)

theorem log (o : Origin) (l : Level) (m : String) : R Unit (log o l m) (log o l m) :=
  h.confined (N := noName) (E := never) (confined_log o l m)

theorem fail (e : Error) : R α (fail e) (fail e) :=
  h.confined (N := noName) (E := fun _ => True) (confined_fail trivial)

theorem compositional : Compositional R where
  value := h.value
  sequence := h.sequence
  scope labels hx := by
    rw [withScope_eq_between, withScope_eq_between]
    exact h.between _ _ hx
  bindings b := h.confined (confined_bindAll (N := anyName) fun _ _ => trivial)
  cancelled := h.confined (N := noName) (E := never) confined_isCancelled
  message := h.log

theorem withFiles {x y : Run W α} (hx : R α x y) (files : FileTable) :
    R α (withFiles files x) (withFiles files y) := by
  rw [withFiles_eq_between, withFiles_eq_between]
  exact h.between _ _ hx

/-- A confined computation in front. -/
theorem after {β : Type} {N : String → Prop} {E : Failure → Prop} {x : Run W β}
    {f g : β → Run W α} (hx : Confined N E x) (hf : ∀ b, R α (f b) (g b)) :
    R α (x >>= f) (x >>= g) := h.sequence (h.confined hx) hf

theorem afterContext {f g : Context → Run W α} (hf : ∀ c, R α (f c) (g c)) :
    R α (context >>= f) (context >>= g) :=
  h.after (N := noName) (E := never) confined_context hf

theorem afterSyntax {β : Type} (r : Except SyntaxError β) {f g : β → Run W α}
    (hf : ∀ b, R α (f b) (g b)) : R α (ofSyntax r >>= f) (ofSyntax r >>= g) :=
  h.after (N := noName) (confined_ofSyntax (E := Failure.IsSyntax) (fun _ => trivial) r) hf

/-- A computation that ends a command without a result of its own. -/
theorem returning {β : Type} {x y : Run W β} (hx : R β x y) (a : α) :
    R α (do let _ ← x; return a) (do let _ ← y; return a) :=
  h.sequence hx fun _ => h.value a

/-- **A walk** from its leaves. -/
theorem walk {host : Host W} {p : Walker W α} {leaf : Entry → Run W (List α)}
    {N : String → Prop} {E : Failure → Prop} (hskip : ∀ e, Confined N E (p.skipped e))
    (hleaf : ∀ e, R (List α) (p.leaf e) (leaf e)) (sec : Section) :
    R (List α) (walk host p false sec) (walk host { p with leaf } false sec) :=
  relates_anyWalk (h.compositional.relates
    { assign := fun _ => h.confined (confined_assign host (N := anyName) (fun _ _ => trivial) _)
      condition := fun _ _ => h.confined (confined_condition host _)
      rounds := fun _ => h.confined (confined_expandLoop host _)
      malformed := fun _ _ => h.fail _
      leaf := fun _ => hleaf _
      skipped := fun e => h.confined (hskip e) }) sec

/-! ## Sections that are run again -/

theorem called {go go' : Section → Run W α} (hgo : ∀ sec, R α (go sec) (go' sec))
    (kind : SectionKind) (target : String) (otherwise : α) :
    R α (called kind target go otherwise) (called kind target go' otherwise) := by
  refine h.afterContext fun c => ?_
  cases c.resolve? kind target with
  | none => exact h.returning (h.log _ _ _) otherwise
  | some callee =>
    refine h.afterContext fun c => ?_
    split
    · exact h.fail _
    · refine h.forked _ ?_
      cases callee.files with
      | none => exact hgo callee.entries
      | some files => exact h.withFiles (hgo callee.entries) files

/-- **Running a command**, from dispatching it. -/
theorem runCommand {env env' : Env W} {inner inner' : Interpreter W} {command : Command}
    (hdispatch : R Value (Run.dispatch env inner command) (Run.dispatch env' inner' command)) :
    R Value (runCommand env inner command) (runCommand env' inner' command) := by
  rw [runCommand_eq, runCommand_eq]
  refine h.sequence (h.caught hdispatch) fun outcome => ?_
  unfold conclude
  split
  · exact h.value _
  · exact h.returning (h.log _ _ _) _
  · exact h.fail _

/-! ## Code that is not built in -/

section Commands

variable {host : Host W} {r r' : Registry W} {inner inner' : Interpreter W}
variable (hinner : Interpreter.Related Alike R inner inner')

include hinner

theorem serve : ∀ q, R Value (inner.serve q) (inner'.serve q)
  | .run sec => h.returning (hinner.runSection sec) _
  | .dispatch command => hinner.dispatch command
  | .install deps => h.returning (hinner.install deps) _
  | .equipped => by
    rw [Interpreter.serve, Interpreter.serve, hinner.hasInstaller]
    exact h.value _

/-- **A procedure** does related things with related interpreters. -/
theorem perform (p : Procedure W α) : R α (p.perform inner) (p.perform inner') := by
  induction p with
  | done outcome =>
    cases outcome with
    | ok a => exact h.value a
    | error e =>
      exact h.confined (N := noName) (E := fun _ => True)
        ⟨fun s => .refl s, fun _ _ _ => trivial⟩
  | step change next ih => exact h.apart change ih
  | request q next ih => exact h.sequence (h.caught (h.serve hinner q)) ih
  | consult next ih => exact h.consult hinner.runners ih

theorem install (deps : List Dependency) : ∀ installer : Installer W,
    R Unit (installer.install inner deps) (installer.install inner' deps)
  | .command host => h.confined (confined_installEach host deps)
  | .recording =>
    h.after (confined_announceEach deps) fun _ =>
      h.confined (N := noName) (E := never) (confined_record rfl)
  | .extra _ => h.perform hinner _

/-! ## Runners -/

theorem runCall (target : String) :
    R Value (runCall host inner.runSection target) (runCall host inner'.runSection target) := by
  refine h.afterContext fun c => ?_
  cases c.kind with
  | run => exact h.returning (h.called hinner.runSection .run target ()) _
  | dependencies =>
    exact h.after (N := noName) (confined_callDependencies host target) fun _ => h.value _

theorem runIn (dir : String) :
    R Unit (Marker.runIn host inner.runSection dir) (Marker.runIn host inner'.runSection dir) :=
  h.after (confined_readIn host dir) fun _ =>
    h.afterSyntax _ fun sec => h.forked _ (hinner.runSection sec)

variable (hinstaller : r'.installer = r.installer)

include hinstaller

theorem installResolved (deps : List Dependency) :
    R Unit (installResolved ⟨host, r⟩ inner deps) (installResolved ⟨host, r'⟩ inner' deps) := by
  unfold Run.installResolved
  simp only [hinstaller]
  split
  · exact h.install hinner deps _
  · exact h.log _ _ _

theorem installIn (dir : String) :
    R Unit (Marker.installIn ⟨host, r⟩ inner dir) (Marker.installIn ⟨host, r'⟩ inner' dir) := by
  refine h.after (confined_readIn host dir) fun m => ?_
  refine h.after (confined_creatorDependencies host m) fun needed => ?_
  refine h.afterSyntax _ fun extra => ?_
  have hadded : Confined anyName Failure.Ordinary (dependencies host extra) :=
    confined_dependencies host fun _ _ => trivial
  exact h.after (N := noName) (confined_forked _ hadded) fun added =>
    h.installResolved hinner hinstaller (needed ++ added)

theorem marker (tag dir : String) :
    R Value (Marker.run ⟨host, r⟩ inner tag dir) (Marker.run ⟨host, r'⟩ inner' tag dir) := by
  unfold Marker.run
  split
  · exact h.returning (h.confined (confined_writeIn host dir)) _
  split
  · exact h.after (confined_readIn host dir) fun _ => h.value _
  split
  · exact h.returning (h.installIn hinner hinstaller dir) _
  split
  · exact h.returning (h.runIn hinner dir) _
  · exact h.returning (h.log _ _ _) _

/-- **What a runner does**, from what the interpreters do. -/
theorem runWith (command : Command) (runner : Runner W) :
    R Value (runWith ⟨host, r⟩ inner command runner)
      (runWith ⟨host, r'⟩ inner' command runner) := by
  have hargument := confined_textArgument (W := W) command
  cases runner with
  | call => exact h.after hargument fun _ => h.runCall hinner _
  | shell =>
    refine h.after hargument fun line => ?_
    dsimp only
    exact h.after (confined_runShell host line _) fun _ => h.value _
  | dependencies i =>
    refine h.returning ?_ _
    unfold runDependencies
    split
    · exact h.afterContext fun _ =>
        h.afterSyntax _ fun deps => h.install hinner deps i
    · exact h.log _ _ _
  | marker =>
    exact h.after hargument fun _ => h.afterContext fun _ =>
      h.after (N := noName) (E := never) confined_world fun _ => h.marker hinner hinstaller _ _
  | github =>
    refine h.after hargument fun action => ?_
    dsimp only
    exact h.returning (h.confined (confined_github host _)) _
  | log => exact h.after hargument fun _ => h.returning (h.confined (confined_runLog _ _)) _
  | extra x => exact h.perform hinner _

/-- A command that is given to a runner, if there is one for it. -/
theorem give (command : Command) (runner : Option (Runner W)) :
    R Value (give ⟨host, r⟩ inner command runner) (give ⟨host, r'⟩ inner' command runner) := by
  cases runner with
  | none => exact h.fail _
  | some runner =>
    exact h.after (N := noName) (E := never) (confined_record rfl) fun _ =>
      h.runWith hinner hinstaller command runner

/-- **A command**, if both registries give it to the same runner. -/
theorem dispatch {command : Command} (hresolve : r'.resolve? command = r.resolve? command) :
    R Value (dispatch ⟨host, r⟩ inner command) (dispatch ⟨host, r'⟩ inner' command) := by
  rw [dispatch_eq_give, dispatch_eq_give]
  dsimp only
  rw [hresolve]
  exact h.witnessed command (h.give hinner hinstaller command _)

/-- **An interpreter**, from what is done with its commands. -/
theorem around (hfaces : Alike r.faces r'.faces)
    (hdispatch : ∀ command, R Value (Run.dispatch ⟨host, r⟩ inner command)
      (Run.dispatch ⟨host, r'⟩ inner' command)) :
    Interpreter.Related Alike R (around ⟨host, r⟩ inner) (around ⟨host, r'⟩ inner') where
  runSection sec := by
    let p := executor ⟨host, r⟩ inner
    let q := executor ⟨host, r'⟩ inner'
    have hskip : ∀ e, Confined noName never (p.skipped e) := fun e => confined_log _ _ _
    have hleaf : ∀ e, R (List Empty) (p.leaf e) (q.leaf e) := fun e =>
      h.returning (h.runCommand (hdispatch ⟨e.tag, e.argument⟩)) []
    have hwalk : R (List Empty) (Run.walk host p false sec) (Run.walk host q false sec) :=
      h.walk hskip hleaf sec
    exact h.returning hwalk ()
  dispatch := hdispatch
  install := h.installResolved hinner hinstaller
  runners := hfaces
  hasInstaller := congrArg Option.isSome hinstaller

end Commands

end Structural

end Run

end Scaffold
