import Scaffold.Proofs.Evaluation
import Scaffold.Proofs.Related

/-!
# The two interpreters agree

Running a section and collecting its dependencies are two walks over one control flow. On a section
whose leaves are all packages they do the same, if in a run a runner records the packages that the
other walk collects.

* `ExtraRunner.Records`: a runner that notes a package with its argument filled in, and does no
  more.
* `State.Alike`: two states with one context, one host and one trace of evaluation.
* `Run.Agreed`: two outcomes that say the same, of a run and of a collection.

Outside the scope: leaves that are calls, and commands that no runner accepts.

Results:
* `agrees_bind`: evaluation goes on alike in both.
* `relates_agrees`: the constructs of a block keep the agreement.
* **`run_agrees_with_collection`**: from one state, both end in the same way and in the same
  context, after the same evaluations and the same shell commands in the same order; and what a run
  that succeeds has recorded is what the collection gives.
-/

namespace Scaffold

variable {W α β γ : Type}

/-! ## Recording packages -/

/-- A runner that notes each package with its argument filled in, and does nothing else. -/
def ExtraRunner.Records (r : ExtraRunner W) : Prop :=
  ∀ inner command s, isDependencyKind command.tag = true →
    ∃ v note, r.carryOut inner command s = (.ok v, s.note (.noted note)) ∧
      note.tag = command.tag ∧ note.argument = s.context.formatValue command.argument

/-- A runner that records packages. -/
def packageRecorder (W : Type) : ExtraRunner W where
  name := "packages"
  accepts command := isDependencyKind command.tag
  run command := .ofRun do
    let c ← Run.context
    Run.record (.noted
      { runner := "packages", tag := command.tag, argument := c.formatValue command.argument,
        labels := c.labels, calls := c.calls, filesDepth := c.files.length, kind := c.kind })
    return .null

theorem records_packageRecorder : (packageRecorder W).Records := fun _ _ _ _ =>
  ⟨_, _, rfl, rfl, rfl⟩

/-- A registry in which one runner is for all kinds of packages. -/
def Registry.Gives (registry : Registry W) (r : ExtraRunner W) : Prop :=
  ∀ command, isDependencyKind command.tag = true → registry.resolve? command = some (.extra r)

/-- Tag and argument that an observing runner noted. -/
def Event.entry? : Event → Option (String × Value)
  | .noted note => some (note.tag, note.argument)
  | _ => none

/-- The process that was asked for. -/
def Event.launch? : Event → Option Launch
  | .launched l => some l
  | _ => none

theorem Event.entry?_of_ofEvaluation : ∀ {e : Event}, e.ofEvaluation = true → e.entry? = none
  | .evaluated _, _ | .assigned _ _, _ | .launched _, _ | .logged _ _ _, _ => rfl

namespace State

/-- What evaluation did so far, in order. -/
def trace (s : State W) : List Event := s.world.history.filter Event.ofEvaluation

/-- The processes asked for so far, in order. -/
def launches (s : State W) : List Launch := s.world.history.filterMap Event.launch?

/-- Tags and arguments noted so far, in order. -/
def recorded (s : State W) : List (String × Value) := s.world.history.filterMap Event.entry?

/-- Two states that differ at most in events that are not of evaluation. -/
structure Alike (s t : State W) : Prop where
  context : t.context = s.context
  outside : t.world.outside = s.world.outside
  cancelled : t.world.cancelled = s.world.cancelled
  trace : t.trace = s.trace

theorem Alike.refl (s : State W) : s.Alike s := ⟨rfl, rfl, rfl, rfl⟩

theorem launches_of_trace (s : State W) : s.launches = s.trace.filterMap Event.launch? := by
  have hlaunch : Event.launch? = fun e => if e.ofEvaluation then e.launch? else none := by
    funext e
    cases e <;> simp [Event.launch?, Event.ofEvaluation]
  rw [launches, State.trace, List.filterMap_filter, ← hlaunch]

theorem trace_note {s : State W} {e : Event} (he : e.ofEvaluation = false) :
    (s.note e).trace = s.trace := by
  simp [State.trace, he]

theorem recorded_note (s : State W) (e : Event) :
    (s.note e).recorded = s.recorded ++ e.entry?.toList := by
  rw [recorded, history_note, List.filterMap_append]
  cases h : e.entry? <;> simp [recorded, h]

/-- Events that are not of evaluation leave states alike. -/
theorem Alike.note {s t : State W} (h : s.Alike t) {e : Event} (he : e.ofEvaluation = false) :
    (s.note e).Alike t :=
  ⟨h.context, h.outside, h.cancelled, h.trace.trans (trace_note he).symm⟩

theorem Alike.note_right {s t : State W} (h : s.Alike t) {e : Event} (he : e.ofEvaluation = false) :
    s.Alike (t.note e) :=
  ⟨h.context, h.outside, h.cancelled, (trace_note he).trans h.trace⟩

/-- After an evaluation, two states that were alike are. -/
theorem alike_of_added {c c' : Context} {w w' : W} {k : Bool} {new past past' : List Event}
    (h : Alike ⟨c, ⟨w, k, past⟩⟩ ⟨c, ⟨w, k, past'⟩⟩) :
    Alike ⟨c', ⟨w', k, new ++ past⟩⟩ ⟨c', ⟨w', k, new ++ past'⟩⟩ := by
  refine ⟨rfl, rfl, rfl, ?_⟩
  have ht := h.trace
  simp only [State.trace, World.history, List.reverse_append, List.filter_append] at ht ⊢
  rw [ht]

theorem recorded_of_added {c c' : Context} {w w' : W} {k : Bool} {new past : List Event}
    (h : ∀ e ∈ new, e.ofEvaluation = true) :
    recorded ⟨c', ⟨w', k, new ++ past⟩⟩ = recorded ⟨c, ⟨w, k, past⟩⟩ := by
  have hnew : new.reverse.filterMap Event.entry? = [] :=
    List.filterMap_eq_nil_iff.mpr fun e he =>
      Event.entry?_of_ofEvaluation (h e (List.mem_reverse.mp he))
  simp only [recorded, World.history, List.reverse_append, List.filterMap_append, hnew,
    List.append_nil]

end State

/-- A package, as an observing runner notes it. -/
def Dependency.entry (d : Dependency) : String × Value := (d.kind, d.argument)

namespace Run

/-! ## Agreement -/

/-- A run and a collection, from states that were alike, ended in the same way and alike; and if
they succeeded, the run recorded what the collection gave. -/
structure Agreed (s : State W) (run : Except Failure γ × State W)
    (collection : Except Failure (List Dependency) × State W) : Prop where
  outcome : run.1.map (fun _ => ()) = collection.1.map (fun _ => ())
  alike : run.2.Alike collection.2
  recorded : ∀ deps, collection.1 = .ok deps →
    run.2.recorded = s.recorded ++ deps.map Dependency.entry

/-- A run agrees with a collection from all states in which they are not cancelled, and does not
cancel itself. -/
def Agrees (x : Run W (List α)) (y : Run W (List Dependency)) : Prop :=
  ∀ s t, s.Alike t → s.world.cancelled = false →
    Agreed s (x s) (y t) ∧ (x s).2.world.cancelled = false

section Agrees

variable {x : Run W (List α)} {y : Run W (List Dependency)}

theorem agrees_nothing : Agrees (pure [] : Run W (List α)) (pure []) := fun _ _ hst hs =>
  ⟨⟨rfl, hst, fun deps h => by cases h; exact (List.append_nil _).symm⟩, hs⟩

theorem agrees_fail (e : Error) : Agrees (fail e : Run W (List α)) (fail e) := fun _ _ hst hs =>
  ⟨⟨rfl, hst, nofun⟩, hs⟩

/-- Evaluation goes on alike in both. -/
theorem agrees_bind {z : Run W γ} (hz : Evaluates z) {f : γ → Run W (List α)}
    {g : γ → Run W (List Dependency)} (hfg : ∀ a, Agrees (f a) (g a)) :
    Agrees (z >>= f) (z >>= g) := by
  rintro ⟨c, w, k, past⟩ ⟨c₁, w₁, k₁, past'⟩ hst hs
  obtain ⟨rfl, rfl, rfl, -⟩ : c₁ = c ∧ w₁ = w ∧ k₁ = k ∧ True :=
    ⟨hst.context, hst.outside, hst.cancelled, trivial⟩
  obtain ⟨new, hnew, r, c', w', hz⟩ := hz.added c₁ w₁ k₁
  have hadded : State.recorded ⟨c', ⟨w', k₁, new ++ past⟩⟩ = State.recorded ⟨c₁, ⟨w₁, k₁, past⟩⟩ :=
    State.recorded_of_added hnew
  have halike : State.Alike ⟨c', ⟨w', k₁, new ++ past⟩⟩ ⟨c', ⟨w', k₁, new ++ past'⟩⟩ :=
    State.alike_of_added hst
  rcases r with e | a
  · rw [bind_of_error (hz past), bind_of_error (hz past')]
    exact ⟨⟨rfl, halike, nofun⟩, hs⟩
  · rw [bind_of_ok (hz past), bind_of_ok (hz past')]
    obtain ⟨hagreed, hrunning⟩ := hfg a _ _ halike hs
    exact ⟨{ hagreed with recorded := fun deps h => by rw [hagreed.recorded deps h, hadded] },
      hrunning⟩

theorem agrees_andThen {x' : Run W (List α)} {y' : Run W (List Dependency)} (hx : Agrees x y)
    (hx' : Agrees x' y') : Agrees (andThen x x') (andThen y y') := by
  intro s t hst hs
  obtain ⟨⟨houtcome, halike, hrecorded⟩, hrunning⟩ := hx s t hst hs
  rcases hxs : x s with ⟨e | a, s₁⟩ <;> rcases hyt : y t with ⟨e' | d, t₁⟩ <;>
    simp only [hxs, hyt] at houtcome halike hrecorded hrunning
  · cases houtcome
    rw [andThen, andThen, bind_of_error hxs, bind_of_error hyt]
    exact ⟨⟨rfl, halike, fun _ h => by cases h⟩, hrunning⟩
  · cases houtcome
  · cases houtcome
  · obtain ⟨⟨houtcome', halike', hrecorded'⟩, hrunning'⟩ := hx' s₁ t₁ halike hrunning
    rw [andThen, andThen, bind_of_ok hxs, bind_of_ok hyt]
    rcases hxs' : x' s₁ with ⟨e | b, s₂⟩ <;> rcases hyt' : y' t₁ with ⟨e' | d', t₂⟩ <;>
      simp only [hxs', hyt'] at houtcome' halike' hrecorded' hrunning'
    · cases houtcome'
      rw [bind_of_error hxs', bind_of_error hyt']
      exact ⟨⟨rfl, halike', fun _ h => by cases h⟩, hrunning'⟩
    · cases houtcome'
    · cases houtcome'
    · rw [bind_of_ok hxs', bind_of_ok hyt']
      refine ⟨⟨rfl, halike', fun deps h => ?_⟩, hrunning'⟩
      cases h
      rw [List.map_append, ← List.append_assoc, ← hrecorded d rfl]
      exact hrecorded' d' rfl

/-- Behind a round that leaves the run uncancelled, a loop goes on. -/
theorem rounds_of_running {body : Run W (List α)} {stops : Bool} {rest : List Bindings}
    {s : State W} (h : (body s).2.world.cancelled = false) :
    (body >>= fun here => isCancelled >>= fun cancelled =>
      if stops && cancelled then pure here
      else rounds stops body rest >>= fun there => pure (here ++ there)) s =
      andThen body (rounds stops body rest) s := by
  rcases hs : body s with ⟨e | a, t⟩ <;> rw [hs] at h
  · rw [andThen, bind_of_error hs, bind_of_error hs]
  · rw [andThen, bind_of_ok hs, bind_of_ok hs, isCancelled_bind, h, Bool.and_false]
    rfl

/-- The rounds of a loop. Neither side is cancelled, so it does not matter which of them looks. -/
theorem agrees_rounds (hx : Agrees x y) (stops stops' : Bool) :
    ∀ bs, Agrees (rounds stops x bs) (rounds stops' y bs)
  | [] => agrees_nothing
  | b :: rest => by
    refine agrees_bind (evaluates_bindAll b) fun _ s t hst hs => ?_
    obtain ⟨hagreed, hrunning⟩ := hx s t hst hs
    rw [rounds_of_running hrunning,
      rounds_of_running (hagreed.alike.cancelled.trans hrunning)]
    exact agrees_andThen hx (agrees_rounds hx stops stops' rest) s t hst hs

theorem agrees_scope (hx : Agrees x y) (labels : List String) :
    Agrees (withScope labels x) (withScope labels y) := by
  intro s t hst hs
  have hin : (s.inScope labels).Alike (t.inScope labels) :=
    { hst with context := by simp only [State.inScope, hst.context] }
  obtain ⟨hagreed, hrunning⟩ := hx _ _ hin hs
  refine ⟨⟨hagreed.outcome, ⟨?_, hagreed.alike.outside, hagreed.alike.cancelled,
    hagreed.alike.trace⟩, hagreed.recorded⟩, hrunning⟩
  change (y (t.inScope labels)).2.outScope.context = (x (s.inScope labels)).2.outScope.context
  simp only [State.outScope, hagreed.alike.context]

end Agrees

/-! ## Both interpreters -/

section Interpreters

variable (env : Env W) {r : ExtraRunner W}

theorem runCommand_of_ok {inner : Interpreter W} {command : Command} {s t : State W} {v : Value}
    (h : dispatch env inner command s = (.ok v, t)) :
    runCommand env inner command s = (.ok v, t) := by
  unfold runCommand
  rw [h]

/-- A state in which a command was given to a runner. -/
def given (s : State W) (runner : String) (command : Command) : State W :=
  (s.note (.dispatched command s.context)).note (.handled runner command)

/-- What a runner that is not built in does with a command, between the events of the dispatcher. -/
theorem dispatch_extra {inner : Interpreter W} {command : Command} {s t : State W} {v : Value}
    (hreg : env.registry.resolve? command = some (.extra r))
    (h : r.carryOut inner command (given s r.name command) = (.ok v, t)) :
    dispatch env inner command s =
      (.ok v, t.note (.settled command (.ok v) t.world.cancelled)) := by
  have hdispatch : dispatch env inner command s =
      ((r.carryOut inner command (given s r.name command)).1,
        (r.carryOut inner command (given s r.name command)).2.note (.settled command
          (r.carryOut inner command (given s r.name command)).1
          (r.carryOut inner command (given s r.name command)).2.world.cancelled)) := by
    rw [dispatch, hreg]
    rfl
  rw [hdispatch, h]

/-- A leaf that is a kind of package: what the run records is what the collection gives. -/
theorem agrees_leaf (hr : r.Records) (hreg : env.registry.Gives r)
    (inner : Interpreter W) (collect : Section → Run W (List Dependency)) {e : Entry}
    (he : isDependencyKind e.tag = true) :
    Agrees ((executor env inner).leaf e) ((collector collect).leaf e) := by
  intro s t hst hs
  obtain ⟨v, note, hrun, htag, hargument⟩ :=
    hr inner ⟨e.tag, e.argument⟩ (given s r.name ⟨e.tag, e.argument⟩) he
  have hcall : e.tag ≠ "call" := by
    rintro h
    rw [h] at he
    exact absurd he (by decide)
  have hleaf : (collector collect).leaf e t =
      (.ok [{ kind := e.tag, argument := t.context.formatValue e.argument }], t) := by
    change dependencyLeaf collect e t = _
    rw [dependencyLeaf, context_bind, if_neg hcall, if_pos he]
    rfl
  rw [executor_leaf,
    runCommand_of_ok env (dispatch_extra env (hreg ⟨e.tag, e.argument⟩ he) hrun), hleaf]
  refine ⟨⟨rfl, (((hst.note rfl).note rfl).note rfl).note rfl, fun deps h => ?_⟩, hs⟩
  cases h
  simp only [given, State.recorded_note, Event.entry?, htag, hargument, State.context_note,
    Option.toList, List.append_nil, List.map, Dependency.entry, hst.context]

/-- The constructs of a block keep the agreement, if its leaves are kinds of packages. -/
theorem relates_agrees (hr : r.Records) (hreg : env.registry.Gives r)
    (inner : Interpreter W) (collect : Section → Run W (List Dependency)) :
    Relates env.host (executor env inner) (collector collect)
      (Block.Reads fun e => Construct.ofTag e.tag = .command → isDependencyKind e.tag = true)
      Agrees where
  done := agrees_nothing
  assign _ := agrees_bind (evaluates_assign env.host _ _) fun _ => agrees_nothing
  choose _ _ hx hy := agrees_bind (evaluates_condition env.host _) fun holds => by
    split
    · exact hx
    · exact hy
  malformed _ _ := agrees_fail _
  warning _ := fun s t hst hs =>
    ⟨⟨rfl, (hst.note rfl).note_right rfl, fun deps h => by
      cases h
      exact (State.recorded_note s _)⟩, hs⟩
  loop _ hx := agrees_bind (evaluates_expandLoop env.host _) fun bs => agrees_rounds hx _ _ bs
  scope hx := agrees_scope hx _
  leaf hb := agrees_leaf env hr hreg inner collect (hb.2 hb.1)
  join hx hy := agrees_andThen hx hy
  reached hx := fun s t hst hs => by
    rw [reached_apply, reached_apply, hst.cancelled, hs]
    exact hx s t hst hs

end Interpreters

end Run

/-- **The two interpreters agree** on a section all of whose leaves are kinds of packages, where a
run gives those to a runner that records them. From any state, the run and the collection end in the
same way, in the same context and with the same host, after the same evaluations, assignments and
processes in the same order; and if they succeed, the run has recorded the packages that the
collection gives, in their order. -/
theorem run_agrees_with_collection (env : Env W) {r : ExtraRunner W} (hr : r.Records)
    (hreg : env.registry.Gives r) {sec : Section}
    (hsec : ∀ e ∈ sec.nested, Construct.ofTag e.tag = .command → isDependencyKind e.tag = true)
    (depth : Nat) (s : State W) :
    Run.Agreed s (Run.runSection env (depth + 1) sec s) (Run.dependencies env.host sec s) ∧
      (Run.dependencies env.host sec s).2.launches =
        (Run.runSection env (depth + 1) sec s).2.launches := by
  have hwalks : Run.Agreed s
      (Run.walk env.host (Run.executor env (Run.interpreter env depth)) false sec s)
      (Run.walk env.host (Run.collector (Run.collect env.host maxCalls)) false sec s) := by
    cases hs : s.world.cancelled with
    | false =>
      exact (Run.relates_walk (Run.relates_agrees env hr hreg _ _) hsec s s (.refl s) hs).1
    | true =>
      cases sec with
      | nil =>
        rw [Run.walk_nil, Run.walk_nil]
        exact ⟨rfl, .refl s, fun deps h => by cases h; exact (List.append_nil _).symm⟩
      | cons e rest =>
        rw [Run.walk_cons_of_cancelled _ _ _ _ _ hs, Run.walk_cons_of_cancelled _ _ _ _ _ hs]
        exact ⟨rfl, (State.Alike.refl s).note rfl, fun deps h => by
          cases h
          exact State.recorded_note s _⟩
  have hagreed : Run.Agreed s (Run.runSection env (depth + 1) sec s)
      (Run.dependencies env.host sec s) := by
    rw [Run.runSection_succ]
    refine { hwalks with outcome := Eq.trans ?_ hwalks.outcome }
    rcases (Run.walk env.host (Run.executor env (Run.interpreter env depth)) false sec s).1 <;> rfl
  refine ⟨hagreed, ?_⟩
  rw [State.launches_of_trace, State.launches_of_trace, hagreed.alike.trace]

/-- A section of packages with a condition, a loop and an assignment. -/
def packageSection : Section :=
  [⟨"$all", .list [.text "left", .text "right"]⟩,
    ⟨"if $name", .list [.mapping [(.text "pip", .text "django-$name")]]⟩,
    ⟨"else", .list [.mapping [(.text "rpm", .text "python")]]⟩,
    ⟨"for $side in $all", .list [.mapping [(.text "npm", .text "$side-pad")]]⟩]

/-- In a context without variables, with one recorder, both give the branch of the `else` and then a
package for each round of the loop. -/
theorem run_agrees_with_collection_recorder :
    Run.Agreed (W := Unit) ⟨{}, { outside := () }⟩
        (Run.runSection ⟨Host.still "", { runners := [.extra (packageRecorder Unit)] }⟩ 1
          packageSection ⟨{}, { outside := () }⟩)
        (Run.dependencies (Host.still "") packageSection ⟨{}, { outside := () }⟩) ∧
      (Run.dependencies (Host.still "") packageSection ⟨{}, { outside := () }⟩).1.toOption =
        some [⟨"rpm", .text "python"⟩, ⟨"npm", .text "left-pad"⟩, ⟨"npm", .text "right-pad"⟩] := by
  refine ⟨(run_agrees_with_collection
    ⟨Host.still "", { runners := [.extra (packageRecorder Unit)] }⟩
    records_packageRecorder (fun command hk => ?_) ?_ 0 _).1, ?_⟩
  · simp [Registry.resolve?, Runner.accepts, packageRecorder, hk]
  · decide +kernel
  · decide +kernel

end Scaffold
