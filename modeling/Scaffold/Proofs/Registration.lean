import Mathlib.Data.List.Find
import Mathlib.Data.List.Pairwise
import Scaffold.Proofs.Runners

/-!
# Registering runners

A command goes to the first runner that accepts it, so a runner that is added behind the others is
asked only for commands that none of them accepts. A run in which no such command is dispatched does
not notice the new runner, however deep its calls and markers, and code that is not built in, run
sections and dispatch commands again.

There is one other way to notice it. Code that is not built in has the registry at hand and may ask
which runners there are. What it is told, it may do anything with, so nothing is said of runs in
which it asks. Both what is dispatched and that there was such a question is read off the history.

* `Event.Agreed`: a command that is dispatched goes to the same runner of two registries.
* `Run.Follows ok x y`: where all that `x` adds to the history is `ok`, `y` does the same.

Results:
* `structural_follows`: this goes through whatever surrounds a section that is run.
* **`follows_interpreter`**: two registries run a section alike if they agree on what is dispatched,
  and are not asked for their runners.
* `prefix_of_accepts`, `resolve?_perm`: the tag of a command that a built-in runner accepts starts
  with its name, so the order of the built-in runners does not matter.
* **`registering_conservative`**: both for whole runs.
* **`not_conservative_of_census`**: a runner that asks for the runners notices one that is added,
  and in which order they stand.
-/

namespace Scaffold

variable {W α β : Type}

/-- If this is a command that is dispatched, then two registries give it to the same runner; and it
is no question which runners there are. -/
def Event.Agreed (r r' : Registry W) : Event → Prop
  | .dispatched command _ => r'.resolve? command = r.resolve? command
  | .consulted => False
  | _ => True

namespace Run

/-! ## Following -/

/-- `x` only adds to the history, and where all that it adds is `ok`, `y` does the same. -/
def Follows (ok : Event → Prop) (x y : Run W α) : Prop :=
  ∀ s, ∃ new, (x s).2.world.history = s.world.history ++ new ∧ ((∀ e ∈ new, ok e) → y s = x s)

section Follows

variable {ok : Event → Prop}

theorem Confined.follows {N : String → Prop} {E : Failure → Prop} {x : Run W α}
    (h : Confined N E x) : Follows ok x x := fun s => by
  obtain ⟨new, hnew, -⟩ := (h.stays s).events
  exact ⟨new, hnew, fun _ => rfl⟩

theorem Follows.bind {x y : Run W α} {f g : α → Run W β} (hx : Follows ok x y)
    (hf : ∀ a, Follows ok (f a) (g a)) : Follows ok (x >>= f) (y >>= g) := by
  intro s
  obtain ⟨new, hnew, hsame⟩ := hx s
  rcases hxs : x s with ⟨e | a, t⟩ <;> rw [hxs] at hnew hsame
  · rw [bind_of_error hxs]
    exact ⟨new, hnew, fun h => bind_of_error (hsame h)⟩
  · rw [bind_of_ok hxs]
    obtain ⟨more, hmore, hrest⟩ := hf a t
    refine ⟨new ++ more, by rw [hmore, hnew, List.append_assoc], fun h => ?_⟩
    obtain ⟨hhere, hthere⟩ := List.forall_mem_append.mp h
    rw [bind_of_ok (hsame hhere), hrest hthere]

theorem Follows.between {x y : Run W α} (h : Follows ok x y) (push pop : Context → Context) :
    Follows ok (between push pop x) (between push pop y) := by
  intro s
  obtain ⟨new, hnew, hsame⟩ := h { s with context := push s.context }
  refine ⟨new, hnew, fun hok => ?_⟩
  simp only [Run.between]
  rw [hsame hok]

theorem Follows.forked {x y : Run W α} (h : Follows ok x y) (change : Context → Context) :
    Follows ok (forked change x) (forked change y) := by
  intro s
  obtain ⟨new, hnew, hsame⟩ := h { s with context := change s.context }
  refine ⟨new, hnew, fun hok => ?_⟩
  simp only [Run.forked]
  rw [hsame hok]

/-- Between its two events, a command may be carried out as something else that is the same if the
event that it is dispatched is `ok`. -/
theorem Follows.witnessed {x y z : Run W Value} {command : Command} (h : Follows ok x y)
    (hz : ∀ c, ok (.dispatched command c) → z = y) :
    Follows ok (witnessed command x) (witnessed command z) := by
  intro s
  let start := s.note (.dispatched command s.context)
  obtain ⟨new, hnew, hsame⟩ := h start
  let settled : Event := .settled command (x start).1 (x start).2.world.cancelled
  refine ⟨.dispatched command s.context :: (new ++ [settled]), ?_, fun hok => ?_⟩
  · change ((x start).2.note settled).world.history = _
    rw [State.history_note, hnew, State.history_note]
    simp
  · obtain ⟨hhere, hok⟩ := List.forall_mem_cons.mp hok
    obtain ⟨hok, -⟩ := List.forall_mem_append.mp hok
    simp only [Run.witnessed]
    rw [hz _ hhere, hsame hok]

/-- What a step with the history out of reach adds comes behind it. -/
theorem Follows.apart (change : State W → State W) {f g : State W → Run W α}
    (h : ∀ s, Follows ok (f s) (g s)) : Follows ok (apart change f) (apart change g) := by
  intro s
  let t := (change s.unrecorded).behind s.world.events
  obtain ⟨new, hnew, hsame⟩ := h s.unrecorded t
  have ht : t.world.history = s.world.history ++ (change s.unrecorded).world.history := by
    simp [t, World.history, State.behind]
  refine ⟨(change s.unrecorded).world.history ++ new, ?_, fun hok => ?_⟩
  · rw [Run.apart, hnew, ht, List.append_assoc]
  · exact hsame (List.forall_mem_append.mp hok).2

theorem Follows.caught {x y : Run W α} (h : Follows ok x y) : Follows ok (caught x) (caught y) := by
  intro s
  obtain ⟨new, hnew, hsame⟩ := h s
  refine ⟨new, ?_, fun hok => by simp only [Run.caught, hsame hok]⟩
  rcases hxs : x s with ⟨(e | _) | a, t⟩ <;> rw [hxs] at hnew <;> rw [Run.caught, hxs] <;>
    exact hnew

/-- Behind a question which runners there are, anything may follow. -/
theorem Follows.consult (hok : ¬ ok .consulted) {f g : List Face → Run W α}
    (h : ∀ faces, Follows ok (f faces) (g faces)) (here there : List Face) :
    Follows ok (do record .consulted; f here) (do record .consulted; g there) := by
  intro s
  obtain ⟨new, hnew, -⟩ := h here (s.note .consulted)
  refine ⟨.consulted :: new, ?_, fun hall => absurd (hall _ List.mem_cons_self) hok⟩
  change (f here (s.note .consulted)).2.world.history = _
  rw [hnew, State.history_note, List.append_assoc]
  rfl

theorem structural_follows (hok : ¬ ok .consulted) :
    Structural (fun _ _ => True) fun _ : Type => Follows (W := W) ok where
  confined h := h.follows
  sequence := Follows.bind
  between push pop h := h.between push pop
  forked change h := h.forked change
  witnessed _ h := h.witnessed fun _ _ => rfl
  apart change _ _ h := .apart change h
  caught h := h.caught
  consult _ h := Follows.consult hok h _ _

end Follows

/-! ## Runs with two registries -/

section Registries

variable {host : Host W} {r r' : Registry W} (hinstaller : r'.installer = r.installer)

include hinstaller

/-- **A command** is carried out alike if both registries give it to the same runner, and agree on
what that dispatches. -/
theorem follows_dispatch {inner inner' : Interpreter W}
    (hinner : Interpreter.Related (fun _ _ => True)
      (fun _ : Type => Follows (W := W) (Event.Agreed r r')) inner inner') (command : Command) :
    Follows (Event.Agreed r r') (dispatch ⟨host, r⟩ inner command)
      (dispatch ⟨host, r'⟩ inner' command) := by
  rw [dispatch_eq_give, dispatch_eq_give]
  refine Follows.witnessed ((structural_follows id).give hinner hinstaller command _)
    fun _ hagreed => ?_
  have hresolve : r'.resolve? command = r.resolve? command := hagreed
  rw [hresolve]

/-- **Two registries** run a section alike, at any depth, if they agree on all that is dispatched,
and no one asks for the runners in them. -/
theorem follows_interpreter : ∀ depth, Interpreter.Related (fun _ _ => True)
    (fun _ : Type => Follows (W := W) (Event.Agreed r r')) (interpreter ⟨host, r⟩ depth)
      (interpreter ⟨host, r'⟩ depth)
  | 0 =>
    have hstops {γ : Type} : Follows (W := W) (α := γ) (Event.Agreed r r') exhausted exhausted :=
      fun _ => ⟨[], by simp [exhausted], fun _ => rfl⟩
    { runSection := fun _ => hstops
      dispatch := fun _ => hstops
      install := fun _ => hstops
      runners := trivial
      hasInstaller := congrArg Option.isSome hinstaller }
  | depth + 1 =>
    have hinner := follows_interpreter depth
    (structural_follows id).around hinner hinstaller trivial fun command =>
      follows_dispatch hinstaller hinner command

end Registries

/-- **A run** is the same with another registry that gives each command that is dispatched to the
same runner, if no one asks for the runners. -/
theorem runSection_of_agreed (env : Env W) {other : Registry W} (depth : Nat) (sec : Section)
    (s : State W)
    (hresolve : ∀ command c, .dispatched command c ∈ s.since (runSection env depth sec s).2 →
      other.resolve? command = env.registry.resolve? command)
    (hasked : .consulted ∉ s.since (runSection env depth sec s).2)
    (hinstaller : other.installer = env.registry.installer) :
    runSection { env with registry := other } depth sec s = runSection env depth sec s := by
  have hfollows : Follows (Event.Agreed env.registry other) (runSection env depth sec)
      (runSection { env with registry := other } depth sec) :=
    (follows_interpreter hinstaller depth).runSection sec
  obtain ⟨new, hnew, hsame⟩ := hfollows s
  rw [State.since_eq hnew] at hresolve hasked
  refine hsame fun e he => ?_
  match e with
  | .dispatched command c => exact hresolve command c he
  | .consulted => exact hasked he
  | .logged .. | .evaluated .. | .assigned .. | .launched .. | .handled .. | .settled ..
  | .noted .. | .recorded .. => exact trivial

end Run

/-! ## The built-in runners -/

namespace Registry

/-- The tag of a command that a built-in runner accepts starts with the name of the runner. -/
theorem prefix_of_accepts {i : Installer W} {command : Command} {runner : Runner W}
    (here : runner ∈ (withInstaller i).runners) (h : runner.accepts command = true) :
    runner.name.toList <+: command.tag.toList := by
  simp only [withInstaller, List.mem_cons, List.not_mem_nil, or_false] at here
  rcases here with rfl | rfl | rfl | rfl | rfl | rfl <;> simp only [Runner.accepts] at h
  · exact beq_iff_eq.mp h ▸ List.prefix_rfl
  · exact Text.startsWith_iff.mp h
  · exact Text.startsWith_iff.mp h
  · have hmark : "dda".toList <+: "dda_".toList := by decide
    exact hmark.trans (Text.startsWith_iff.mp h)
  · exact beq_iff_eq.mp h ▸ List.prefix_rfl
  · have hmark : "log".toList <+: "log_".toList := by decide
    exact hmark.trans (Text.startsWith_iff.mp h)

/-- No command is accepted by two of the built-in runners: no name of one starts that of another. -/
theorem pairwise_accepts (i : Installer W) (command : Command) :
    (withInstaller i).runners.Pairwise fun a b =>
      ¬ (a.accepts command = true ∧ b.accepts command = true) := by
  have hnames : (withInstaller i).names.Pairwise fun a b =>
      ¬ a.toList <+: b.toList ∧ ¬ b.toList <+: a.toList := by
    change ["call", "cl", "dependencies", "dda", "github", "log"].Pairwise _
    decide
  refine (List.pairwise_map.mp hnames).imp_of_mem fun {a b} ha hb hab h => ?_
  rcases List.prefix_or_prefix_of_prefix (prefix_of_accepts ha h.1) (prefix_of_accepts hb h.2)
    with hpre | hpre
  · exact hab.1 hpre
  · exact hab.2 hpre

/-- **For every command** there is at most one built-in runner. -/
theorem length_accepting_le (i : Installer W) (command : Command) :
    ((withInstaller i).runners.filter (·.accepts command)).length ≤ 1 := by
  have hpair := (pairwise_accepts i command).filter fun runner => runner.accepts command
  have hall := fun runner (h : runner ∈ (withInstaller i).runners.filter (·.accepts command)) =>
    (List.mem_filter.mp h).2
  generalize (withInstaller i).runners.filter (·.accepts command) = accepting at hpair hall ⊢
  match accepting with
  | [] => exact Nat.zero_le 1
  | [_] => exact Nat.le_refl 1
  | a :: b :: rest =>
    have hab := (List.pairwise_cons.mp hpair).1 b List.mem_cons_self
    exact absurd ⟨hall a List.mem_cons_self, hall b (List.mem_cons_of_mem a List.mem_cons_self)⟩ hab

/-- In whatever order the built-in runners stand in front of others, a command goes to the same
runner. -/
theorem resolve?_perm {i : Installer W} {builtIn : List (Runner W)}
    (hperm : builtIn.Perm (withInstaller i).runners) (more : List (Runner W)) (command : Command) :
    resolve? { runners := builtIn ++ more, installer := some i } command =
      resolve? { runners := (withInstaller i).runners ++ more, installer := some i } command := by
  have hunique :
      {runner ∈ (withInstaller i).runners | runner.accepts command}.Subsingleton := by
    rintro a ⟨ha, hta⟩ b ⟨hb, htb⟩
    have : Std.Symm fun a b : Runner W =>
        ¬ (a.accepts command = true ∧ b.accepts command = true) := ⟨fun _ _ h k => h k.symm⟩
    by_contra hab
    exact (pairwise_accepts i command).forall ha hb hab ⟨hta, htb⟩
  have hfind := List.find?_eq_find?_of_perm hperm.symm hunique
  simp only [resolve?, List.find?_append, hfind]

/-- A command that some runner accepts is not for one that is added behind. -/
theorem resolve?_register {r : Registry W} {command : Command}
    (h : (r.resolve? command).isSome = true) (runner : Runner W) :
    (r.register runner).resolve? command = r.resolve? command := by
  rw [register, resolve?, List.find?_append]
  exact Option.or_of_isSome h

end Registry

/-! ## Whole runs -/

open Run

/-- **A runner that is added** is not noticed by a run in which every command that is dispatched is
accepted by one that is there, and in which no one asks which runners there are: outcome, context,
messages, processes, commands and who carried them out are the same, at any depth. The built-in
runners may stand in any order: at most one accepts a command, so such runs are the same, also with
others behind them. -/
theorem registering_conservative :
    (∀ (env : Env W) (runner : Runner W) (depth : Nat) (sec : Section) (s : State W),
      (∀ command c, .dispatched command c ∈ s.since (runSection env depth sec s).2 →
        (env.registry.resolve? command).isSome = true) →
      .consulted ∉ s.since (runSection env depth sec s).2 →
      runSection { env with registry := env.registry.register runner } depth sec s =
        runSection env depth sec s) ∧
    (∀ (i : Installer W) (command : Command),
      ((Registry.withInstaller i).runners.filter (·.accepts command)).length ≤ 1) ∧
    ∀ (host : Host W) (i : Installer W) (builtIn more : List (Runner W)),
      builtIn.Perm (Registry.withInstaller i).runners →
      ∀ (depth : Nat) (sec : Section) (s : State W),
        let env : Env W := ⟨host, { runners := (Registry.withInstaller i).runners ++ more
                                    installer := some i }⟩
        .consulted ∉ s.since (runSection env depth sec s).2 →
        runSection ⟨host, { runners := builtIn ++ more, installer := some i }⟩ depth sec s =
          runSection env depth sec s := by
  refine ⟨fun env runner depth sec s hmatched hasked => ?_, Registry.length_accepting_le,
    fun host i builtIn more hperm depth sec s hasked => ?_⟩
  · exact runSection_of_agreed env depth sec s
      (fun command c h => Registry.resolve?_register (hmatched command c h) runner) hasked rfl
  · exact runSection_of_agreed ⟨host, _⟩ depth sec s
      (fun command _ _ => Registry.resolve?_perm hperm more command) hasked rfl

namespace Relay

/-- A runner that has its argument logged twice. -/
def repeater : ExtraRunner Unit where
  name := "repeater"
  accepts command := command.tag == "twice"
  run command :=
    let message : Command := ⟨"log_i", command.argument⟩
    .request (.dispatch message) fun _ =>
      .request (.run [⟨message.tag, message.argument⟩]) fun _ => .done (.ok .null)

/-- The built-in runners and the repeater. -/
def env : Env Unit where
  host := .still ""
  registry := (Registry.withInstaller .recording).register (.extra repeater)

/-- A call, and a message behind it. -/
def entries : Section := [⟨"call", .text "self.greeting"⟩, ⟨"log_i", .text "done"⟩]

/-- The section that is called, in the running assistant. -/
def start : State Unit where
  context := { assistant.sections := Table.ofList [("greeting", [⟨"twice", .text "hello"⟩])] }
  world := { outside := () }

end Relay

/-- A runner that accepts every command does not come to see the messages that are dispatched for
another one in a called section, and the built-in runners may stand the other way round. -/
theorem registering_conservative_relay :
    (∀ command c, .dispatched command c ∈
        Relay.start.since (runSection Relay.env 4 Relay.entries Relay.start).2 →
      (Relay.env.registry.resolve? command).isSome = true) ∧
    .consulted ∉ Relay.start.since (runSection Relay.env 4 Relay.entries Relay.start).2 ∧
    (runSection Relay.env 4 Relay.entries Relay.start).1 = .ok () ∧
    runSection
        { Relay.env with
          registry := Relay.env.registry.register (.extra (observer Unit "any" "")) }
        4 Relay.entries Relay.start =
      runSection Relay.env 4 Relay.entries Relay.start ∧
    runSection ⟨.still "", { runners := (Registry.withInstaller .recording).runners.reverse ++
                               [.extra Relay.repeater]
                             installer := some .recording }⟩ 4 Relay.entries Relay.start =
      runSection Relay.env 4 Relay.entries Relay.start := by
  obtain ⟨hregister, -, horder⟩ := registering_conservative (W := Unit)
  have hall : (Relay.start.since (runSection Relay.env 4 Relay.entries Relay.start).2).all
      (fun e => match e with
        | .dispatched command _ => (Relay.env.registry.resolve? command).isSome
        | .consulted => false
        | _ => true) = true := by decide +kernel
  have hmatched : ∀ command c, .dispatched command c ∈
        Relay.start.since (runSection Relay.env 4 Relay.entries Relay.start).2 →
      (Relay.env.registry.resolve? command).isSome = true :=
    fun command c h => List.all_eq_true.mp hall _ h
  have hasked :
      .consulted ∉ Relay.start.since (runSection Relay.env 4 Relay.entries Relay.start).2 :=
    fun h => Bool.false_ne_true (List.all_eq_true.mp hall _ h)
  exact ⟨hmatched, hasked, eq_ok_of_toOption (by decide +kernel),
    hregister _ _ 4 Relay.entries Relay.start hmatched hasked,
    horder (.still "") .recording _ [.extra Relay.repeater] (List.reverse_perm _) 4 Relay.entries
      Relay.start hasked⟩

/-! ## A runner that asks -/

namespace Census

/-- A runner that puts the names of all runners into a variable. -/
def taker : ExtraRunner Unit where
  name := "census"
  accepts command := command.tag == "census"
  run _ := .consult fun faces => .ofRun do
    setVar "runners" (.list (faces.map fun face => .text face.name))
    return .null

/-- The built-in runners in any order, the one that asks, and more. -/
def env (builtIn more : List (Runner Unit)) : Env Unit where
  host := .still ""
  registry := { runners := builtIn ++ .extra taker :: more, installer := some .recording }

/-- Where the run starts. -/
def start : State Unit := ⟨{}, { outside := () }⟩

/-- The names that a run of a census finds. -/
def found (env : Env Unit) : Option Value :=
  (runSection env 1 [⟨"census", .null⟩] start).2.context.vars.get? "runners"

end Census

/-- **A runner that asks for the runners** notices one that is added, though every command that is
dispatched is accepted by one that was there; and it notices in which order the others stand. -/
theorem not_conservative_of_census :
    (¬ ∀ (env : Env Unit) (runner : Runner Unit) (depth : Nat) (sec : Section) (s : State Unit),
      (∀ command c, .dispatched command c ∈ s.since (runSection env depth sec s).2 →
        (env.registry.resolve? command).isSome = true) →
      runSection { env with registry := env.registry.register runner } depth sec s =
        runSection env depth sec s) ∧
    ¬ ∀ (host : Host Unit) (i : Installer Unit) (builtIn more : List (Runner Unit)),
      builtIn.Perm (Registry.withInstaller i).runners → ∀ (depth : Nat) (sec : Section),
        runSection ⟨host, { runners := builtIn ++ more, installer := some i }⟩ depth sec =
          runSection ⟨host, { runners := (Registry.withInstaller i).runners ++ more
                              installer := some i }⟩ depth sec := by
  let standard := (Registry.withInstaller (.recording : Installer Unit)).runners
  have hmatched : ∀ command c, .dispatched command c ∈ Census.start.since
      (runSection (Census.env standard []) 1 [⟨"census", .null⟩] Census.start).2 →
        ((Census.env standard []).registry.resolve? command).isSome = true := by
    have hall : (Census.start.since (runSection (Census.env standard []) 1 [⟨"census", .null⟩]
        Census.start).2).all (fun e => match e with
          | .dispatched command _ => ((Census.env standard []).registry.resolve? command).isSome
          | _ => true) = true := by decide +kernel
    exact fun command c h => List.all_eq_true.mp hall _ h
  refine ⟨fun h => ?_, fun h => ?_⟩
  · have hsame := h (Census.env standard []) (.extra (observer Unit "late" "late")) 1
      [⟨"census", .null⟩] Census.start hmatched
    have hfound : Census.found (Census.env standard [.extra (observer Unit "late" "late")]) =
        Census.found (Census.env standard []) :=
      congrArg (fun out => out.2.context.vars.get? "runners") hsame
    revert hfound
    decide +kernel
  · have hsame := h (.still "") .recording standard.reverse [.extra Census.taker]
      (List.reverse_perm _) 1 [⟨"census", .null⟩]
    have hfound : Census.found (Census.env standard.reverse []) =
        Census.found (Census.env standard []) :=
      congrArg (fun run => (run Census.start).2.context.vars.get? "runners") hsame
    revert hfound
    decide +kernel

end Scaffold
