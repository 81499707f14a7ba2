import Scaffold.Proofs.Evaluation
import Scaffold.Proofs.Runners

/-!
# Runs with different histories

What happened is recorded for reasoning on it, and no part of the program looks at it; code that is
not built in has no access to it either. Two runs that start beside each other, in states that
differ in their histories alone, so stay beside each other, and any relation between the histories
that is kept by adding one event to both is kept.

* `Extends L`: a relation on histories that is kept by adding one event to both.
* `State.Beside L`: two states that differ in their histories alone, and those are related.
* `Run.Twin L x y`: two computations that give the same and keep states beside each other.
* `Run.TwinRunning L x y`: the same as long as the run is not cancelled.
* `Run.TwinInterpreter L`: an interpreter that does not look at what happened before.

Results:
* `Evaluates.twin`: evaluation does not look at what happened before.
* `relates_twin`, `relates_twinRunning`: walks are twins if their leaves, and what they do where
  they stop, are.
* **`twin_perform`**: nor does a procedure, whatever it asks for.
* **`twin_dependencies`**, **`twin_interpreter`**: nor does collecting, nor a run.
-/

namespace Scaffold

variable {W α β : Type}

/-- A relation on histories that is kept by adding one event to both. -/
def Extends (L : List Event → List Event → Prop) : Prop :=
  ∀ e {es es'}, L es es' → L (e :: es) (e :: es')

theorem Extends.append {L : List Event → List Event → Prop} (hL : Extends L) (new : List Event)
    {es es' : List Event} (h : L es es') : L (new ++ es) (new ++ es') := by
  induction new with
  | nil => exact h
  | cons e new ih => exact hL e ih

/-- Two states that differ in their histories alone, which are related. -/
structure State.Beside (L : List Event → List Event → Prop) (s t : State W) : Prop where
  context : t.context = s.context
  outside : t.world.outside = s.world.outside
  cancelled : t.world.cancelled = s.world.cancelled
  events : L s.world.events t.world.events

theorem State.Beside.note {L : List Event → List Event → Prop} {s t : State W} (h : Beside L s t)
    {e e' : Event} (he : L (e :: s.world.events) (e' :: t.world.events)) :
    Beside L (s.note e) (t.note e') := ⟨h.context, h.outside, h.cancelled, he⟩

/-- States beside each other are the same without their histories. -/
theorem State.Beside.unrecorded {L : List Event → List Event → Prop} {s t : State W}
    (h : Beside L s t) : t.unrecorded = s.unrecorded := by
  obtain ⟨c, w, k, es⟩ := s
  obtain ⟨c', w', k', es'⟩ := t
  obtain ⟨hc, hw, hk, -⟩ := h
  dsimp only at hc hw hk
  subst hc hw hk
  rfl

namespace Run

/-- From states beside each other, two computations give the same, in states beside each other. -/
def Twin (L : List Event → List Event → Prop) (x y : Run W α) : Prop :=
  ∀ s t, State.Beside L s t → (y t).1 = (x s).1 ∧ State.Beside L (x s).2 (y t).2

/-- Two computations that take no cancellation back, and give the same, in states beside each other,
unless the second ends cancelled. -/
structure TwinRunning (L : List Event → List Event → Prop) (x y : Run W α) : Prop where
  same : ∀ s t, State.Beside L s t → (y t).2.world.cancelled = false →
    (y t).1 = (x s).1 ∧ State.Beside L (x s).2 (y t).2
  keeps : ∀ t, t.world.cancelled = true → (y t).2.world.cancelled = true

section Primitives

variable {L : List Event → List Event → Prop}

theorem twin_pure (a : α) : Twin L (pure a : Run W α) (pure a) := fun _ _ h => ⟨rfl, h⟩

theorem twin_fail (e : Error) : Twin L (fail e : Run W α) (fail e) := fun _ _ h => ⟨rfl, h⟩

theorem twin_exhausted : Twin L (exhausted : Run W α) exhausted := fun _ _ h => ⟨rfl, h⟩

theorem twin_ofSyntax : ∀ r : Except SyntaxError α, Twin L (ofSyntax r : Run W α) (ofSyntax r)
  | .ok a => twin_pure a
  | .error _ => twin_fail _

theorem twin_context : Twin L (context : Run W Context) context :=
  fun _ _ h => ⟨congrArg Except.ok h.context, h⟩

theorem twin_isCancelled : Twin L (isCancelled : Run W Bool) isCancelled :=
  fun _ _ h => ⟨congrArg Except.ok h.cancelled, h⟩

theorem twin_outside (f : W → α × W) : Twin L (outside f) (outside f) := by
  intro s t h
  simp only [outside, h.outside]
  exact ⟨trivial, h.context, rfl, h.cancelled, h.events⟩

theorem Twin.bind {x y : Run W α} {f g : α → Run W β} (hx : Twin L x y)
    (hf : ∀ a, Twin L (f a) (g a)) : Twin L (x >>= f) (y >>= g) := by
  intro s t h
  obtain ⟨hr, hb⟩ := hx s t h
  rcases hxs : x s with ⟨r, s'⟩
  rcases hyt : y t with ⟨r', t'⟩
  rw [hxs, hyt] at hr hb
  cases hr
  cases r with
  | error e =>
    rw [bind_of_error hxs, bind_of_error hyt]
    exact ⟨rfl, hb⟩
  | ok a =>
    rw [bind_of_ok hxs, bind_of_ok hyt]
    exact hf a s' t' hb

/-- Of the world, but for the history, a computation may read what it likes. -/
theorem twin_world {f : World W → Run W α} (hf : ∀ w w' : World W, w'.outside = w.outside →
    f w' = f w) (hx : ∀ w, Twin L (f w) (f w)) : Twin L (world >>= f) (world >>= f) := by
  intro s t h
  have hsame : (world >>= f) t = f s.world t := congrFun (hf s.world t.world h.outside) t
  rw [hsame]
  exact hx s.world s t h

theorem twin_forked {x y : Run W α} (h : Twin L x y) (change : Context → Context) :
    Twin L (forked change x) (forked change y) := by
  intro s t hst
  obtain ⟨hr, hb⟩ := h { s with context := change s.context } { t with context := change t.context }
    ⟨congrArg change hst.context, hst.outside, hst.cancelled, hst.events⟩
  exact ⟨hr, hst.context, hb.outside, hb.cancelled, hb.events⟩

theorem twin_between {x y : Run W α} (h : Twin L x y) (push pop : Context → Context) :
    Twin L (between push pop x) (between push pop y) := by
  intro s t hst
  obtain ⟨hr, hb⟩ := h { s with context := push s.context } { t with context := push t.context }
    ⟨congrArg push hst.context, hst.outside, hst.cancelled, hst.events⟩
  exact ⟨hr, congrArg pop hb.context, hb.outside, hb.cancelled, hb.events⟩

/-- A run that goes on behind an error, with the same outcome. -/
theorem twin_caught {x y : Run W α} (h : Twin L x y) : Twin L (caught x) (caught y) := by
  intro s t hst
  obtain ⟨hr, hb⟩ := h s t hst
  rcases hxs : x s with ⟨r, s'⟩
  rcases hyt : y t with ⟨r', t'⟩
  rw [hxs, hyt] at hr hb
  cases hr
  rw [caught, caught, hxs, hyt]
  rcases r with (e | _) | a <;> exact ⟨rfl, hb⟩

theorem twin_withScope {x y : Run W α} (h : Twin L x y) (labels : List String) :
    Twin L (withScope labels x) (withScope labels y) := by
  rw [withScope_eq_between, withScope_eq_between]
  exact twin_between h _ _

theorem twin_withFiles {x y : Run W α} (h : Twin L x y) (files : FileTable) :
    Twin L (withFiles files x) (withFiles files y) := by
  rw [withFiles_eq_between, withFiles_eq_between]
  exact twin_between h _ _

theorem twin_textArgument (command : Command) :
    Twin L (textArgument command : Run W String) (textArgument command) :=
  twin_context.bind fun _ => twin_ofSyntax _

theorem twin_repo : Twin L (Github.repo : Run W String) Github.repo := by
  refine twin_context.bind fun c => ?_
  split
  · exact twin_pure _
  · exact twin_fail _

theorem Twin.running {x y : Run W α} (h : Twin L x y)
    (hkeeps : ∀ t, t.world.cancelled = true → (y t).2.world.cancelled = true) :
    TwinRunning L x y := ⟨fun s t hst _ => h s t hst, hkeeps⟩

theorem TwinRunning.bind {x y : Run W α} {f g : α → Run W β} (hx : TwinRunning L x y)
    (hf : ∀ a, TwinRunning L (f a) (g a)) : TwinRunning L (x >>= f) (y >>= g) where
  same s t hst h := by
    have hhere := hx.same s t hst
    rcases hxs : x s with ⟨r, s'⟩
    rcases hyt : y t with ⟨e | a, t'⟩ <;> rw [hxs, hyt] at hhere
    · rw [bind_of_error hyt] at h ⊢
      obtain ⟨hr, hb⟩ := hhere h
      cases hr
      rw [bind_of_error hxs]
      exact ⟨rfl, hb⟩
    · rw [bind_of_ok hyt] at h ⊢
      have ht' : t'.world.cancelled = false := by
        rw [Bool.eq_false_iff]
        exact fun hk => absurd ((hf a).keeps t' hk) (by simp [h])
      obtain ⟨hr, hb⟩ := hhere ht'
      cases hr
      rw [bind_of_ok hxs]
      exact (hf a).same s' t' hb h
  keeps t ht := by
    have hy := hx.keeps t ht
    rcases hyt : y t with ⟨e | a, t'⟩ <;> rw [hyt] at hy
    · rw [bind_of_error hyt]
      exact hy
    · rw [bind_of_ok hyt]
      exact (hf a).keeps t' hy

theorem TwinRunning.between {x y : Run W α} (h : TwinRunning L x y)
    (push pop : Context → Context) : TwinRunning L (between push pop x) (between push pop y) where
  same s t hst hend := by
    obtain ⟨hr, hb⟩ := h.same { s with context := push s.context }
      { t with context := push t.context }
      ⟨congrArg push hst.context, hst.outside, hst.cancelled, hst.events⟩ hend
    exact ⟨hr, congrArg pop hb.context, hb.outside, hb.cancelled, hb.events⟩
  keeps t := h.keeps { t with context := push t.context }

end Primitives

/-! ## What adds the same events to both histories -/

section Extending

variable {L : List Event → List Event → Prop} (hL : Extends L)

include hL

theorem twin_record (e : Event) : Twin L (record e : Run W Unit) (record e) :=
  fun _ _ h => ⟨rfl, h.note (hL e h.events)⟩

theorem twin_log (o : Origin) (l : Level) (m : String) :
    Twin L (log o l m : Run W Unit) (log o l m) := twin_record hL _

theorem twin_witnessed {x y : Run W Value} (h : Twin L x y) (command : Command) :
    Twin L (witnessed command x) (witnessed command y) := by
  intro s t hst
  have hstart : State.Beside L (s.note (.dispatched command s.context))
      (t.note (.dispatched command t.context)) := by
    rw [hst.context]
    exact hst.note (hL _ hst.events)
  obtain ⟨hr, hb⟩ := h _ _ hstart
  refine ⟨hr, ?_⟩
  simp only [witnessed, hr, hb.cancelled]
  exact hb.note (hL _ hb.events)

/-- A step with the history out of reach adds the same events to both. -/
theorem twin_apart (change : State W → State W) {f g : State W → Run W α}
    (hf : ∀ s, Twin L (f s) (g s)) : Twin L (apart change f) (apart change g) := by
  intro s t hst
  simp only [apart, hst.unrecorded]
  exact hf _ _ _ ⟨rfl, rfl, rfl, hL.append _ hst.events⟩

/-- Evaluation does not look at the past, so it adds the same events to both histories. -/
theorem Evaluates.twin {x : Run W α} (h : Evaluates x) : Twin L x x := by
  rintro ⟨c, w, k, es⟩ ⟨c', w', k', es'⟩ ⟨hc, hw, hk, hes⟩
  dsimp only at hc hw hk hes
  subst hc hw hk
  obtain ⟨new, -, r, d, v, hnew⟩ := h.added c' w' k'
  rw [hnew, hnew]
  exact ⟨rfl, rfl, rfl, rfl, hL.append new hes⟩

theorem compositional_twin : Compositional fun _ : Type => Twin (W := W) L where
  value := twin_pure
  sequence := Twin.bind
  scope labels h := twin_withScope h labels
  bindings b := (evaluates_bindAll b).twin hL
  cancelled := twin_isCancelled
  message := twin_log hL

theorem Evaluates.twinRunning {x : Run W α} (h : Evaluates x) : TwinRunning L x x :=
  (h.twin hL).running fun t ht => (h.steady t).trans ht

theorem compositional_twinRunning : Compositional fun _ : Type => TwinRunning (W := W) L where
  value a := (evaluates_pure a).twinRunning hL
  sequence := TwinRunning.bind
  scope labels h := by
    rw [withScope_eq_between, withScope_eq_between]
    exact h.between _ _
  bindings b := (evaluates_bindAll b).twinRunning hL
  cancelled := twin_isCancelled.running fun _ => id
  message o l m := (twin_log hL o l m).running fun _ => id

/-- The constructs of a block are twins if its leaves are, and what is done where it stops. -/
theorem relates_twin {host : Host W} {p : Walker W α} {leaf : Entry → Run W (List α)}
    (hskip : ∀ e, Twin L (p.skipped e) (p.skipped e)) (hleaf : ∀ e, Twin L (p.leaf e) (leaf e)) :
    Relates host p { p with leaf } (fun _ => True) (Twin L) :=
  (compositional_twin hL).relates
    { assign := fun _ => (evaluates_assign host _ _).twin hL
      condition := fun _ _ => (evaluates_condition host _).twin hL
      rounds := fun _ => (evaluates_expandLoop host _).twin hL
      malformed := fun _ _ => twin_fail _
      leaf := fun _ => hleaf _
      skipped := hskip }

/-- So they are as long as the run is not cancelled. -/
theorem relates_twinRunning {host : Host W} {p : Walker W α} {leaf : Entry → Run W (List α)}
    (hskip : ∀ e, TwinRunning L (p.skipped e) (p.skipped e))
    (hleaf : ∀ e, TwinRunning L (p.leaf e) (leaf e)) :
    Relates host p { p with leaf } (fun _ => True) (TwinRunning L) :=
  (compositional_twinRunning hL).relates
    { assign := fun _ => (evaluates_assign host _ _).twinRunning hL
      condition := fun _ _ => (evaluates_condition host _).twinRunning hL
      rounds := fun _ => (evaluates_expandLoop host _).twinRunning hL
      malformed := fun _ _ => (evaluates_fail _).twinRunning hL
      leaf := fun _ => hleaf _
      skipped := hskip }

theorem twin_walk {host : Host W} {p : Walker W α}
    (hskip : ∀ e, Twin L (p.skipped e) (p.skipped e)) (hleaf : ∀ e, Twin L (p.leaf e) (p.leaf e))
    (sec : Section) : Twin L (walk host p false sec) (walk host p false sec) :=
  relates_anyWalk (relates_twin hL hskip hleaf) sec

theorem twin_called {go : Section → Run W α} (hgo : ∀ sec, Twin L (go sec) (go sec))
    (kind : SectionKind) (target : String) (otherwise : α) :
    Twin L (called kind target go otherwise) (called kind target go otherwise) := by
  refine twin_context.bind fun c => ?_
  cases c.resolve? kind target with
  | none => exact (twin_log hL _ _ _).bind fun _ => twin_pure _
  | some callee =>
    refine twin_context.bind fun c => ?_
    split
    · exact twin_fail _
    · refine twin_forked ?_ _
      cases callee.files with
      | none => exact hgo callee.entries
      | some files => exact twin_withFiles (hgo callee.entries) files

/-! ## Collecting -/

theorem twin_dependencyLeaf {go : Section → Run W (List Dependency)}
    (hgo : ∀ sec, Twin L (go sec) (go sec)) (e : Entry) :
    Twin L (dependencyLeaf go e) (dependencyLeaf go e) := by
  refine twin_context.bind fun c => ?_
  split
  · exact twin_called hL hgo _ _ _
  · split
    · exact twin_pure _
    · exact (twin_log hL _ _ _).bind fun _ => twin_pure _

theorem twin_collect (host : Host W) : ∀ (depth : Nat) (sec : Section),
    Twin L (collect host depth sec) (collect host depth sec)
  | 0, _ => twin_exhausted
  | depth + 1, sec => twin_walk (p := collector (collect host depth)) hL (fun _ => twin_pure ())
      (twin_dependencyLeaf hL (twin_collect host depth)) sec

theorem twin_dependencies (host : Host W) (sec : Section) :
    Twin L (dependencies host sec) (dependencies host sec) := twin_collect hL host _ sec

theorem twin_collectNamed (host : Host W) (a : Assistant) : ∀ names,
    Twin L (collectNamed host a names) (collectNamed host a names)
  | [] => twin_pure []
  | name :: rest => by
    rw [collectNamed]
    split
    · exact twin_collectNamed host a rest
    · exact (twin_log hL _ _ _).bind fun _ =>
        (compositional_twin hL).andThen (twin_dependencies hL host _)
          (twin_collectNamed host a rest)

theorem twin_assistantDependencies (host : Host W) (a : Assistant) :
    Twin L (assistantDependencies host a) (assistantDependencies host a) :=
  twin_context.bind fun _ => twin_forked (twin_collectNamed hL host a _) _

theorem twin_chainDependencies (host : Host W) : ∀ chain,
    Twin L (chainDependencies host chain) (chainDependencies host chain)
  | [] => twin_pure []
  | a :: rest =>
    (compositional_twin hL).andThen (twin_assistantDependencies hL host a)
      (twin_chainDependencies host rest)

/-! ## Runners -/

theorem twin_runShell (host : Host W) (command : String) (options : ShellOptions) :
    Twin L (runShell host command options) (runShell host command options) :=
  (evaluates_runShell host command options).twin hL

theorem twin_runLog (tag message : String) :
    Twin L (runLog tag message : Run W Unit) (runLog tag message) := by
  unfold runLog
  split
  · refine (twin_log hL _ _ _).bind fun _ => ?_
    split
    · exact twin_fail _
    · exact twin_pure ()
  · exact twin_log hL _ _ _

theorem twin_push (host : Host W) : Twin L (Github.push host) (Github.push host) := by
  refine twin_context.bind fun c => twin_world (fun w w' h => by simp only [h]) fun w => ?_
  split
  · exact twin_fail _
  · exact twin_repo.bind fun _ => (twin_runShell hL host _ _).bind fun _ =>
      (twin_runShell hL host _ _).bind fun _ => (twin_runShell hL host _ _).bind fun _ =>
        twin_pure _

theorem twin_createRepo : Twin L (Github.createRepo : Run W Unit) Github.createRepo :=
  twin_repo.bind fun _ => twin_log hL _ _ _

theorem twin_github (host : Host W) (action : String) :
    Twin L (Github.run host action) (Github.run host action) := by
  unfold Github.run
  split
  · exact twin_createRepo hL
  split
  · exact twin_push hL host
  split
  · exact twin_repo.bind fun _ => (twin_log hL _ _ _).bind fun _ =>
      (twin_createRepo hL).bind fun _ => (twin_log hL _ _ _).bind fun _ => twin_push hL host
  · exact twin_log hL _ _ _

theorem twin_writeIn (host : Host W) (dir : String) :
    Twin L (Marker.writeIn host dir) (Marker.writeIn host dir) := by
  refine twin_context.bind fun c => (twin_outside _).bind fun r => ?_
  split
  · exact twin_log hL _ _ _
  · exact twin_fail _

theorem twin_readIn (host : Host W) (dir : String) :
    Twin L (Marker.readIn host dir) (Marker.readIn host dir) := by
  refine twin_world (fun w w' h => by simp only [h]) fun w => ?_
  split
  · exact twin_pure _
  · exact (twin_log hL _ _ _).bind fun _ => twin_fail _

theorem twin_creatorDependencies (host : Host W) (m : Marker) :
    Twin L (m.creatorDependencies host) (m.creatorDependencies host) := by
  unfold Marker.creatorDependencies
  split
  · exact twin_pure _
  refine twin_context.bind fun c => ?_
  split
  · exact twin_forked (twin_chainDependencies hL host _) _
  · exact (twin_log hL _ _ _).bind fun _ => twin_pure _

theorem twin_installEach (host : Host W) : ∀ deps,
    Twin L (Installer.installEach host deps) (Installer.installEach host deps)
  | [] => twin_pure ()
  | d :: rest => by
    rw [Installer.installEach]
    split
    · split
      · exact (twin_log hL _ _ _).bind fun _ => twin_installEach host rest
      · exact (twin_log hL _ _ _).bind fun _ => (twin_runShell hL host _ _).bind fun _ =>
          twin_installEach host rest
    · exact twin_installEach host rest

theorem twin_announceEach : ∀ deps,
    Twin L (Installer.announceEach deps : Run W Unit) (Installer.announceEach deps)
  | [] => twin_pure ()
  | _ :: rest => (twin_log hL _ _ _).bind fun _ => twin_announceEach rest

/-! ## Code that is not built in -/

/-- An interpreter that does not look at what happened before. -/
structure TwinInterpreter (L : List Event → List Event → Prop) (inner : Interpreter W) : Prop where
  runSection : ∀ sec, Twin L (inner.runSection sec) (inner.runSection sec)
  dispatch : ∀ command, Twin L (inner.dispatch command) (inner.dispatch command)
  install : ∀ deps, Twin L (inner.install deps) (inner.install deps)

section Commands

variable {env : Env W} {inner : Interpreter W} (hinner : TwinInterpreter L inner)

omit hL in
include hinner in
theorem twin_serve : ∀ q, Twin L (inner.serve q) (inner.serve q)
  | .run sec => (hinner.runSection sec).bind fun _ => twin_pure _
  | .dispatch command => hinner.dispatch command
  | .install deps => (hinner.install deps).bind fun _ => twin_pure _
  | .equipped => twin_pure _

include hinner

/-- **A procedure** does not look at what happened before, nor does what it asks for. -/
theorem twin_perform (p : Procedure W α) : Twin L (p.perform inner) (p.perform inner) := by
  induction p with
  | done outcome => exact fun _ _ h => ⟨rfl, h⟩
  | step change next ih => exact twin_apart hL change ih
  | request q next ih => exact (twin_caught (twin_serve hinner q)).bind ih
  | consult next ih => exact (twin_record hL _).bind fun _ => ih _

theorem twin_install (deps : List Dependency) : ∀ installer : Installer W,
    Twin L (installer.install inner deps) (installer.install inner deps)
  | .command host => twin_installEach hL host deps
  | .recording => (twin_announceEach hL deps).bind fun _ => twin_record hL _
  | .extra _ => twin_perform hL hinner _

/-! ## Commands -/

theorem twin_runCall (target : String) :
    Twin L (runCall env.host inner.runSection target)
      (runCall env.host inner.runSection target) := by
  refine twin_context.bind fun c => ?_
  cases c.kind with
  | run => exact (twin_called hL hinner.runSection .run target ()).bind fun _ => twin_pure _
  | dependencies =>
    exact (twin_called hL (twin_dependencies hL env.host) _ _ _).bind fun _ => twin_pure _

theorem twin_runIn (dir : String) :
    Twin L (Marker.runIn env.host inner.runSection dir)
      (Marker.runIn env.host inner.runSection dir) :=
  (twin_readIn hL env.host dir).bind fun _ => (twin_ofSyntax _).bind fun sec =>
    twin_forked (hinner.runSection sec) _

theorem twin_installResolved (deps : List Dependency) :
    Twin L (installResolved env inner deps) (installResolved env inner deps) := by
  unfold installResolved
  split
  · exact twin_install hL hinner deps _
  · exact twin_log hL _ _ _

theorem twin_installIn (dir : String) :
    Twin L (Marker.installIn env inner dir) (Marker.installIn env inner dir) :=
  (twin_readIn hL env.host dir).bind fun m => (twin_creatorDependencies hL env.host m).bind fun _ =>
    (twin_ofSyntax _).bind fun _ => (twin_forked (twin_dependencies hL env.host _) _).bind fun _ =>
      twin_installResolved hL hinner _

theorem twin_marker (tag dir : String) :
    Twin L (Marker.run env inner tag dir) (Marker.run env inner tag dir) := by
  unfold Marker.run
  split
  · exact (twin_writeIn hL env.host dir).bind fun _ => twin_pure _
  split
  · exact (twin_readIn hL env.host dir).bind fun _ => twin_pure _
  split
  · exact (twin_installIn hL hinner dir).bind fun _ => twin_pure _
  split
  · exact (twin_runIn hL hinner dir).bind fun _ => twin_pure _
  · exact (twin_log hL _ _ _).bind fun _ => twin_pure _

theorem twin_runWith (command : Command) (runner : Runner W) :
    Twin L (runWith env inner command runner) (runWith env inner command runner) := by
  have hargument : Twin L (textArgument command : Run W String) _ := twin_textArgument command
  cases runner with
  | call => exact hargument.bind fun _ => twin_runCall hL hinner _
  | shell =>
    exact hargument.bind fun _ => (twin_runShell hL env.host _ _).bind fun _ => twin_pure _
  | dependencies i =>
    refine Twin.bind ?_ fun _ => twin_pure _
    unfold runDependencies
    split
    · exact twin_context.bind fun _ => (twin_ofSyntax _).bind fun deps =>
        twin_install hL hinner deps i
    · exact twin_log hL _ _ _
  | marker =>
    exact hargument.bind fun _ => twin_context.bind fun c =>
      twin_world (fun w w' h => by simp only [h]) fun w => twin_marker hL hinner _ _
  | github => exact hargument.bind fun _ => (twin_github hL env.host _).bind fun _ => twin_pure _
  | log => exact hargument.bind fun _ => (twin_runLog hL _ _).bind fun _ => twin_pure _
  | extra x => exact twin_perform hL hinner _

theorem twin_dispatch (command : Command) :
    Twin L (dispatch env inner command) (dispatch env inner command) := by
  refine twin_witnessed hL ?_ command
  cases env.registry.resolve? command with
  | none => exact twin_fail _
  | some runner => exact (twin_record hL _).bind fun _ => twin_runWith hL hinner command runner

theorem twin_runCommand (command : Command) :
    Twin L (runCommand env inner command) (runCommand env inner command) := by
  rw [runCommand_eq]
  refine (twin_caught (twin_dispatch hL hinner command)).bind fun outcome => ?_
  unfold conclude
  split
  · exact twin_pure _
  · exact (twin_log hL _ _ _).bind fun _ => twin_pure _
  · exact twin_fail _

end Commands

/-- **A run** does not look at what happened before, at any depth. -/
theorem twin_interpreter (env : Env W) : ∀ depth, TwinInterpreter L (interpreter env depth)
  | 0 =>
    { runSection := fun _ => twin_exhausted
      dispatch := fun _ => twin_exhausted
      install := fun _ => twin_exhausted }
  | depth + 1 =>
    have hinner := twin_interpreter env depth
    { runSection := fun sec => by
        let p := executor env (interpreter env depth)
        have hleaf : ∀ e, Twin L (p.leaf e) (p.leaf e) := fun e =>
          (twin_runCommand hL hinner _).bind fun _ => twin_pure _
        exact (twin_walk hL (fun _ => twin_log hL _ _ _) hleaf sec).bind fun _ => twin_pure _
      dispatch := twin_dispatch hL hinner
      install := twin_installResolved hL hinner }

end Extending

end Run

end Scaffold
