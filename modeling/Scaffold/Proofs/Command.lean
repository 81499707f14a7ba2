import Scaffold.Proofs.Collect
import Scaffold.Run.Section

/-!
# What a leaf command does

A leaf command goes to the first runner that accepts it. What any of the runners does with it
is said here once, as an inductive relation between the state before, the outcome and the state
after; the theorems on whole runs are cases on this relation and do not open a runner again.

* `State.Later`: a later state of a run, as far as a runner that is not built in may change it.
* `Handled`: a command is carried out. Only two of its cases run a section again, a call and the run
  section of a marker.
* `Concluded`: how a run goes on behind a command; one that no runner accepts is only a warning.

Results:
* **`handled_dispatch`**: every command that is dispatched is `Handled`, in any registry.
* **`runCommand_concluded`**: running a command is dispatching it, and concluding.
* `confined_github`, `confined_creatorDependencies`, **`confined_install`**: what the runners do
  besides sets no variable.
* `observes_observer`: a runner that is not built in and only observes.
-/

namespace Scaffold

variable {W α : Type}

/-! ## Runners that are not built in -/

/-- A later state: a cancellation stays, and no leaf command was dispatched. -/
structure State.Later (s t : State W) : Prop where
  cancelled : s.world.cancelled = true → t.world.cancelled = true
  events : ∃ new, t.world.history = s.world.history ++ new ∧ ∀ e ∈ new, e.ofDispatch = false

theorem State.Local.later {N : String → Prop} {s t : State W} (h : State.Local N s t) :
    State.Later s t := ⟨h.cancelled, h.events⟩

theorem State.Later.note {s t : State W} (h : State.Later s t) {e : Event}
    (he : e.ofDispatch = false) : State.Later s (t.note e) where
  cancelled := h.cancelled
  events := by
    obtain ⟨new, hnew, hplain⟩ := h.events
    refine ⟨new ++ [e], by simp [hnew], fun e' he' => ?_⟩
    rcases List.mem_append.mp he' with he' | he'
    · exact hplain e' he'
    · exact List.mem_singleton.mp he' ▸ he

/-- A state later than one without its history is later than that with it. -/
theorem State.Later.behind {s t : State W} (h : State.Later s.unrecorded t) :
    State.Later s (t.behind s.world.events) where
  cancelled := h.cancelled
  events := by
    obtain ⟨new, hnew, hplain⟩ := h.events
    refine ⟨new, ?_, hplain⟩
    have hnew : t.world.events.reverse = new := hnew
    simp [World.history, State.behind, hnew]

/-- A runner that dispatches no command itself and takes no cancellation back. -/
def ExtraRunner.Orderly (r : ExtraRunner W) : Prop :=
  ∀ inner command s, State.Later s (r.carryOut inner command s).2

/-- An orderly runner that leaves the context alone and does not run out of a bound. -/
structure ExtraRunner.Observes (r : ExtraRunner W) : Prop where
  orderly : r.Orderly
  context : ∀ inner command s, (r.carryOut inner command s).2.context = s.context
  ends : ∀ inner command s, (r.carryOut inner command s).1 ≠ .error .exhausted

/-- An installer that dispatches no command itself and takes no cancellation back. -/
def Installer.Orderly (i : Installer W) : Prop :=
  ∀ inner deps s, State.Later s (i.install inner deps s).2

/-- One of the two installers that are built in. -/
def Installer.BuiltIn (host : Host W) (i : Installer W) : Prop :=
  i = .command host ∨ i = .recording

/-- A host on which no process starts, and every file that is read holds `content`. -/
def Host.still (content : String) : Host Unit where
  spawn w _ := (.error .noEntry, w)
  isDir _ _ := false
  isFile _ _ := true
  listDir _ _ := []
  canonical? _ _ := none
  readText _ _ := .ok content
  writeText w _ _ := (.ok (), w)
  currentDir _ := "/"
  home? _ := none
  environment? _ _ := none

namespace Registry

/-- The installers of a registry: for collected dependencies, and of its runners. -/
def Installs (r : Registry W) (i : Installer W) : Prop :=
  r.installer = some i ∨ .dependencies i ∈ r.runners

/-- Built-in runners, and others that are orderly. -/
structure Orderly (r : Registry W) : Prop where
  extras : ∀ x, .extra x ∈ r.runners → x.Orderly
  installers : ∀ i, r.Installs i → i.Orderly

/-- Built-in runners and installers, and other runners that only observe. -/
structure Standard (host : Host W) (r : Registry W) : Prop where
  extras : ∀ x, .extra x ∈ r.runners → x.Observes
  installers : ∀ i, r.Installs i → i.BuiltIn host

theorem standard_withInstaller {host : Host W} {i : Installer W} (h : i.BuiltIn host) :
    (withInstaller i).Standard host where
  extras x hx := by simp [withInstaller] at hx
  installers j hj := by
    have : j = i := by simpa [Installs, withInstaller, eq_comm] using hj
    exact this ▸ h

theorem Standard.register {host : Host W} {r : Registry W} (h : r.Standard host)
    {x : ExtraRunner W} (hx : x.Observes) : (r.register (.extra x)).Standard host where
  extras y hy := by
    rcases List.mem_append.mp hy with hy | hy
    · exact h.extras y hy
    · cases List.mem_singleton.mp hy
      exact hx
  installers i hi := h.installers i <| hi.imp_right fun hi => by
    rcases List.mem_append.mp hi with hi | hi
    · exact hi
    · cases List.mem_singleton.mp hi

end Registry

namespace Run

variable {N : String → Prop} {E : Failure → Prop} {x : Run W α}

theorem Confined.ofSyntax (h : Confined N Failure.IsSyntax x) : Confined N Failure.Ordinary x :=
  h.mono (fun _ => id) fun _ => .inl

theorem Confined.ofExecution (h : Confined N Failure.IsExecution x) :
    Confined N Failure.Ordinary x := h.mono (fun _ => id) fun _ => .inr

end Run

open Run

/-! ## Installers -/

section Installers

variable (host : Host W)

theorem confined_installEach : ∀ deps,
    Confined noName Failure.IsExecution (Installer.installEach host deps)
  | [] => confined_pure ()
  | d :: rest => by
    rw [Installer.installEach]
    split
    · split
      · exact (confined_log _ _ _).bind fun _ => confined_installEach rest
      · exact (confined_log _ _ _).bind fun _ => (confined_runShell host _ _).bind fun _ =>
          confined_installEach rest
    · exact confined_installEach rest

theorem confined_announceEach : ∀ deps,
    Confined noName Failure.IsExecution (Installer.announceEach deps : Run W Unit)
  | [] => confined_pure ()
  | _ :: rest => (confined_log _ _ _).bind fun _ => confined_announceEach rest

/-- **The built-in installers** set no variable. -/
theorem confined_install {i : Installer W} (h : i.BuiltIn host) (inner : Interpreter W)
    (deps : List Dependency) : Confined noName Failure.IsExecution (i.install inner deps) := by
  rcases h with rfl | rfl
  · exact confined_installEach host deps
  · exact (confined_announceEach deps).bind fun _ => confined_record rfl

theorem Registry.Standard.orderly {host : Host W} {r : Registry W} (h : r.Standard host) :
    r.Orderly where
  extras x hx := (h.extras x hx).orderly
  installers i hi inner deps s :=
    ((confined_install host (h.installers i hi) inner deps).stays s).later

/-- Noting a command may cancel the run, and then notes it or refuses its argument. -/
theorem observe_run (name : String) (command : Command) (s : State W) :
    ∃ t : State W, t.context = s.context ∧ State.Later s t ∧
      ((∃ n a, observe name command s = (.ok a, t.note (.noted n))) ∨
        ∃ e, observe name command s = (.error (.error (.syntaxFault e)), t)) := by
  let t : State W := if Text.startsWith "stop" command.tag
    then { s with world := { s.world with cancelled := true } } else s
  refine ⟨t, ?_, ⟨fun hs => ?_, [], ?_, nofun⟩, ?_⟩
  · simp only [t]
    split <;> rfl
  · simp only [t]
    split
    · rfl
    · exact hs
  · simp only [t, List.append_nil]
    split <;> rfl
  · simp only [observe, t]
    split
    case' isTrue =>
      rw [bind_of_ok (show cancel s =
        (.ok (), { s with world := { s.world with cancelled := true } }) from rfl)]
    all_goals
      rw [context_bind]
      split
      · exact .inl ⟨_, _, rfl⟩
      · rcases hf : command.format s.context with e | a
        · exact .inr ⟨e, rfl⟩
        · exact .inl ⟨_, _, rfl⟩

/-- The runner that notes what it is given observes. -/
theorem observes_observer (name start : String) : (observer W name start).Observes := by
  refine ⟨fun inner command s => ?_, fun inner command s => ?_, fun inner command s => ?_⟩ <;>
    obtain ⟨t, hc, hl, ⟨n, a, h⟩ | ⟨e, h⟩⟩ := observe_run name command s.unrecorded <;>
    rw [ExtraRunner.carryOut, observer, Procedure.perform_ofRun, h]
  · exact (hl.note rfl).behind
  · exact hl.behind
  · exact hc
  · exact hc
  · nofun
  · nofun

end Installers

/-- A still host, with the built-in runners, the installer that records, and an observing runner
that may cancel. -/
def Env.watched (content : String) : Env Unit where
  host := .still content
  registry := (Registry.withInstaller .recording).register (.extra (observer Unit "watch" "stop"))

theorem standard_watched (content : String) :
    (Env.watched content).registry.Standard (Env.watched content).host :=
  (Registry.standard_withInstaller (.inr rfl)).register (observes_observer "watch" "stop")

/-! ## Built-in runners -/

namespace Run

section Runners

variable (host : Host W)

theorem confined_textArgument (command : Command) :
    Confined noName Failure.Ordinary (textArgument command : Run W String) :=
  confined_context.bind fun _ => (confined_ofSyntax (fun _ => trivial) _).ofSyntax

theorem confined_runLog (tag message : String) :
    Confined noName Failure.Ordinary (runLog tag message : Run W Unit) := by
  unfold runLog
  split
  · refine (confined_log _ _ _).bind fun _ => ?_
    split
    · exact confined_fail (.inr trivial)
    · exact confined_pure ()
  · exact confined_log _ _ _

theorem confined_repo : Confined noName Failure.IsExecution (Github.repo : Run W String) := by
  refine confined_context.bind fun c => ?_
  split
  · exact confined_pure _
  · exact confined_fail trivial

theorem confined_push : Confined noName Failure.IsExecution (Github.push host) := by
  refine confined_context.bind fun c => confined_world.bind fun w => ?_
  split
  · exact confined_fail trivial
  · exact confined_repo.bind fun _ => (confined_runShell host _ _).bind fun _ =>
      (confined_runShell host _ _).bind fun _ => (confined_runShell host _ _).bind fun _ =>
        confined_pure _

theorem confined_createRepo :
    Confined noName Failure.IsExecution (Github.createRepo : Run W Unit) :=
  confined_repo.bind fun _ => confined_log _ _ _

theorem confined_github (action : String) :
    Confined noName Failure.IsExecution (Github.run host action) := by
  unfold Github.run
  split
  · exact confined_createRepo
  split
  · exact confined_push host
  split
  · exact confined_repo.bind fun _ => (confined_log _ _ _).bind fun _ =>
      confined_createRepo.bind fun _ => (confined_log _ _ _).bind fun _ => confined_push host
  · exact confined_log _ _ _

theorem confined_writeIn (dir : String) :
    Confined noName Failure.IsExecution (Marker.writeIn host dir) := by
  refine confined_context.bind fun c => (confined_outside _).bind fun r => ?_
  split
  · exact confined_log _ _ _
  · exact confined_fail trivial

theorem confined_readIn (dir : String) :
    Confined noName Failure.IsExecution (Marker.readIn host dir) := by
  refine confined_world.bind fun w => ?_
  split
  · exact confined_pure _
  · exact (confined_log _ _ _).bind fun _ => confined_fail trivial

/-- The marker that is read from the text of its file. -/
theorem readIn_of_text {dir text : String} {m : Marker} {s : State W}
    (hfile : host.readText s.world.outside (Path.join dir markerFile) = .ok text)
    (hparse : Marker.parse? text = some m) : Marker.readIn host dir s = (.ok m, s) := by
  have hread : Marker.read host s.world.outside dir = .ok m := by
    simp only [Marker.read, hfile, hparse]
  rw [Marker.readIn, bind_of_ok (show world s = (.ok s.world, s) from rfl), hread]
  rfl

theorem confined_creatorDependencies (m : Marker) :
    Confined noName Failure.Ordinary (m.creatorDependencies host) := by
  unfold Marker.creatorDependencies
  split
  · exact confined_pure _
  refine confined_context.bind fun c => ?_
  split
  · exact confined_forked _ (confined_chainDependencies (N := noName) host _)
  · exact (confined_log _ _ _).bind fun _ => confined_pure _

end Runners

end Run

/-! ## One command -/

/-- What carrying out a command does, where `inner` carries out the re-entries: outcome and state
after. -/
inductive Handled (env : Env W) (inner : Interpreter W) (command : Command) (s : State W) :
    Except Failure Value → State W → Prop
  /-- No section is run, and no variable is set. -/
  | plain {r : Except Failure Value} {t : State W} (stays : State.Local noName s t)
      (ends : r ≠ .error .exhausted) : Handled env inner command s r t
  /-- A runner that is not built in is given the command. -/
  | extra {x : ExtraRunner W} {u : State W} (here : .extra x ∈ env.registry.runners)
      (before : State.Local noName s u) :
      Handled env inner command s (x.carryOut inner command u).1 (x.carryOut inner command u).2
  /-- Dependencies are installed. -/
  | installed {i : Installer W} {u : State W} (here : env.registry.Installs i)
      (before : State.Local noName s u) (deps : List Dependency) :
      Handled env inner command s ((i.install inner deps u).1.map fun _ => .null)
        (i.install inner deps u).2
  /-- A call runs the section it names. -/
  | called {u : State W} (before : State.Local noName s u) {target : String} {callee : Callee}
      (here : u.context.resolve? .run target = some callee)
      (room : u.context.calls.length < maxCalls) :
      Handled env inner command s
        ((inner.runSection callee.entries (u.entering .run target callee)).1.map fun _ => .null)
        { (inner.runSection callee.entries (u.entering .run target callee)).2 with
          context := u.context }
  /-- The run section of a marker is run. -/
  | marker {u : State W} (before : State.Local noName s u) (here : command.tag = "dda_run")
      (sec : Section) :
      Handled env inner command s
        ((inner.runSection sec { u with context := { u.context with kind := .run } }).1.map
          fun _ => .null)
        { (inner.runSection sec { u with context := { u.context with kind := .run } }).2 with
          context := u.context }

namespace Handled

variable {env : Env W} {inner : Interpreter W} {command : Command} {s t : State W}

/-- A command that is carried out after something local. -/
theorem after {r : Except Failure Value} {u : State W} (hl : State.Local noName s t)
    (h : Handled env inner command t r u) : Handled env inner command s r u := by
  cases h with
  | plain stays ends => exact .plain (hl.trans stays) ends
  | extra here before => exact .extra here (hl.trans before)
  | installed here before deps => exact .installed here (hl.trans before) deps
  | called before here room => exact .called (hl.trans before) here room
  | marker before here sec => exact .marker (hl.trans before) here sec

theorem of_confined {x : Run W Value} (h : Confined noName Failure.Ordinary x) (s : State W) :
    Handled env inner command s (x s).1 (x s).2 :=
  .plain (h.stays s) fun hx => (h.errs s _ hx).ne_exhausted rfl

theorem bind {x : Run W α} {f : α → Run W Value} (hx : Confined noName Failure.Ordinary x)
    (hf : ∀ a t, Handled env inner command t (f a t).1 (f a t).2) (s : State W) :
    Handled env inner command s ((x >>= f) s).1 ((x >>= f) s).2 := by
  have hl := hx.stays s
  rcases hxs : x s with ⟨e | a, t⟩ <;> rw [hxs] at hl
  · have he := hx.errs s e (by rw [hxs])
    rw [bind_of_error hxs]
    exact .plain hl fun h => he.ne_exhausted (by cases h; rfl)
  · rw [bind_of_ok hxs]
    exact after hl (hf a t)

end Handled

namespace Run

variable {env : Env W} {inner : Interpreter W} {command : Command}

theorem bind_null (x : Run W Unit) (s : State W) :
    (do x; return Value.null) s = ((x s).1.map fun _ => .null, (x s).2) := by
  rw [bind_apply]
  rcases x s with ⟨_ | _, _⟩ <;> rfl

theorem handled_installResolved (deps : List Dependency) (s : State W) :
    Handled env inner command s ((do installResolved env inner deps; return Value.null) s).1
      ((do installResolved env inner deps; return Value.null) s).2 := by
  unfold installResolved
  split
  · rename_i i hi
    rw [bind_null]
    exact .installed (.inl hi) (.refl s) deps
  · exact .of_confined ((confined_log _ _ _).bind fun _ => confined_pure _) s

theorem handled_runCall (target : String) (s : State W) :
    Handled env inner command s (runCall env.host inner.runSection target s).1
      (runCall env.host inner.runSection target s).2 := by
  unfold runCall
  rw [context_bind]
  cases s.context.kind with
  | run =>
    dsimp only
    rw [bind_null]
    refine called_cases (P := fun r t => Handled env inner command s (r.map fun _ => .null) t)
      ?_ ?_ ?_
    · exact .plain (.note s rfl) nofun
    · exact .plain (.refl s) nofun
    · exact fun callee hc hd => .called (.refl s) hc hd
  | dependencies =>
    exact .of_confined ((confined_callDependencies env.host target).bind fun _ => confined_pure _) s

theorem handled_runIn (dir : String) (htag : command.tag = "dda_run") (s : State W) :
    Handled env inner command s
      ((do Marker.runIn env.host inner.runSection dir; return Value.null) s).1
      ((do Marker.runIn env.host inner.runSection dir; return Value.null) s).2 := by
  simp only [Marker.runIn, bind_assoc]
  refine .bind (confined_readIn env.host dir).ofExecution (fun m => ?_) s
  refine .bind (confined_ofSyntax (fun _ => trivial) _).ofSyntax fun sec t => ?_
  rw [bind_null]
  exact .marker (.refl t) htag sec

theorem handled_installIn (dir : String) (s : State W) :
    Handled env inner command s ((do Marker.installIn env inner dir; return Value.null) s).1
      ((do Marker.installIn env inner dir; return Value.null) s).2 := by
  simp only [Marker.installIn, bind_assoc]
  refine .bind (confined_readIn env.host dir).ofExecution (fun m => ?_) s
  refine .bind (confined_creatorDependencies env.host m) fun needed => ?_
  refine .bind (confined_ofSyntax (fun _ => trivial) _).ofSyntax fun extra => ?_
  have hadded : Confined anyName Failure.Ordinary (dependencies env.host extra) :=
    confined_dependencies env.host fun _ _ => trivial
  exact .bind (confined_forked _ hadded) fun added => handled_installResolved (needed ++ added)

theorem handled_marker (dir : String) (s : State W) :
    Handled env inner command s (Marker.run env inner command.tag dir s).1
      (Marker.run env inner command.tag dir s).2 := by
  unfold Marker.run
  split
  · exact .of_confined
      ((confined_writeIn env.host dir).ofExecution.bind fun _ => confined_pure _) s
  split
  · exact .of_confined
      ((confined_readIn env.host dir).ofExecution.bind fun _ => confined_pure _) s
  split
  · exact handled_installIn dir s
  split
  · rename_i htag
    exact handled_runIn dir htag s
  · exact .of_confined ((confined_log _ _ _).bind fun _ => confined_pure _) s

theorem handled_runDependencies {i : Installer W} (hi : .dependencies i ∈ env.registry.runners)
    (s : State W) :
    Handled env inner command s ((do runDependencies inner i command; return Value.null) s).1
      ((do runDependencies inner i command; return Value.null) s).2 := by
  unfold runDependencies
  split
  · simp only [bind_assoc]
    refine .bind confined_context (fun c => ?_) s
    refine .bind (confined_ofSyntax (fun _ => trivial) _).ofSyntax fun deps t => ?_
    rw [bind_null]
    exact .installed (.inr hi) (.refl t) deps
  · exact .of_confined ((confined_log _ _ _).bind fun _ => confined_pure _) s

/-- A runner of the registry carries a command out as `Handled` says. -/
theorem handled_runWith {runner : Runner W} (hr : runner ∈ env.registry.runners) (s : State W) :
    Handled env inner command s (runWith env inner command runner s).1
      (runWith env inner command runner s).2 := by
  cases runner with
  | call => exact .bind (confined_textArgument command) (fun _ => handled_runCall _) s
  | shell =>
    exact .of_confined ((confined_textArgument command).bind fun _ =>
      (confined_runShell env.host _ _).ofExecution.bind fun _ => confined_pure _) s
  | dependencies i => exact handled_runDependencies hr s
  | marker =>
    exact .bind (confined_textArgument command) (fun _ =>
      .bind confined_context fun _ => .bind confined_world fun _ => handled_marker _) s
  | github =>
    exact .of_confined ((confined_textArgument command).bind fun _ =>
      (confined_github env.host _).ofExecution.bind fun _ => confined_pure _) s
  | log =>
    exact .of_confined ((confined_textArgument command).bind fun _ =>
      (confined_runLog _ _).bind fun _ => confined_pure _) s
  | extra x => exact .extra hr (.refl s)

/-- **A command that is dispatched** is carried out between its two events. -/
theorem handled_dispatch (env : Env W) (inner : Interpreter W) (command : Command)
    (s : State W) : ∃ r t, Handled env inner command (s.note (.dispatched command s.context)) r t ∧
      dispatch env inner command s = (r, t.note (.settled command r t.world.cancelled)) := by
  refine ⟨_, _, ?_, rfl⟩
  rcases hr : env.registry.resolve? command with _ | runner
  · exact .plain (.refl _) nofun
  · exact .bind (confined_record rfl) (fun _ => handled_runWith (List.mem_of_find?_eq_some hr)) _

end Run

/-! ## Behind a command -/

/-- How a run goes on when a command is done with outcome `r` in state `t`. -/
inductive Concluded (r : Except Failure Value) (t : State W) : Except Failure Value → State W → Prop
  /-- The outcome is that of the command. -/
  | same : Concluded r t r t
  /-- No runner accepts the command, or one that was asked says so of another: a warning. -/
  | unknown {tag : String} (h : r = .error (.error (.config (.noRunner tag)))) :
      Concluded r t (.ok .null) (t.note (.logged .running .warn (unknownCommand tag)))

/-- **Running a command** is carrying it out between its two events, and concluding. -/
theorem runCommand_concluded (env : Env W) (inner : Interpreter W) (command : Command)
    (s : State W) : ∃ r t r' u,
      Handled env inner command (s.note (.dispatched command s.context)) r t ∧
      Concluded r (t.note (.settled command r t.world.cancelled)) r' u ∧
      runCommand env inner command s = (r', u) := by
  obtain ⟨r, t, h, hd⟩ := handled_dispatch env inner command s
  unfold runCommand
  split
  · rename_i tag u hu
    cases hd.symm.trans hu
    exact ⟨_, t, _, _, h, .unknown rfl, rfl⟩
  · exact ⟨r, t, r, _, h, .same, hd⟩

/-! ## Sections -/

namespace Run

variable (env : Env W) (inner : Interpreter W)

theorem executor_leaf (e : Entry) (s : State W) :
    (executor env inner).leaf e s =
      ((runCommand env inner ⟨e.tag, e.argument⟩ s).1.map fun _ => [],
        (runCommand env inner ⟨e.tag, e.argument⟩ s).2) := by
  change (runCommand env inner ⟨e.tag, e.argument⟩ >>= fun _ => pure []) s = _
  rw [bind_apply]
  rcases runCommand env inner ⟨e.tag, e.argument⟩ s with ⟨_ | _, _⟩ <;> rfl

theorem runSection_succ (depth : Nat) (sec : Section) (s : State W) :
    runSection env (depth + 1) sec s =
      ((walk env.host (executor env (interpreter env depth)) false sec s).1.map fun _ => (),
        (walk env.host (executor env (interpreter env depth)) false sec s).2) := by
  change (walk env.host (executor env (interpreter env depth)) false sec >>= fun _ => pure ()) s = _
  rw [bind_apply]
  rcases walk env.host (executor env (interpreter env depth)) false sec s with ⟨_ | _, _⟩ <;> rfl

end Run

end Scaffold
