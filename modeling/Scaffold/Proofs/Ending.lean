import Scaffold.Proofs.Bound
import Scaffold.Proofs.Frame

/-!
# Which runs end

A leaf command comes back to the interpreter in three ways: a call, the run section of a marker, and
the collecting of dependencies. Calls are counted on the stack of calls and refused at `maxCalls`,
and collecting only calls. The run section of a marker is run on a copy of the context with the same
stack of calls, and nothing is refused: a marker whose run section runs its own project never ends.

The commands that run a marker are brackets in the history, from where they are dispatched to where
they are done, so how deep they are nested can be read off it.

* `nesting`: how deep the commands that run markers are nested in a history.
* `Nests new n`: a history of whole brackets, nested `n` deep.
* `Measured`: what is left of a bound on re-entries, in terms of nesting and calls.

Results:
* `Handled.carried`, `measured_runCommand`: one leaf command.
* `measured_runSection`: a run uses up its bound only by nesting markers or calls.
* **`ends_iff_nesting_bounded`**: a run ends exactly if the nesting of markers is bounded, and
  collecting dependencies always ends.
* **`not_ends_of_own_marker`**: a run that does not end.
-/

namespace Scaffold

open Run

variable {W α : Type}

/-! ## Nesting -/

/-- The tag of the command that runs the run section of a marker. -/
def runMarkerTag : String := "dda_run"

/-- The level behind an event: one up where a marker is to be run, one down where that is done. -/
def Event.level (k : Nat) : Event → Nat
  | .dispatched command _ => if command.tag = runMarkerTag then k + 1 else k
  | .settled command _ _ => if command.tag = runMarkerTag then k - 1 else k
  | _ => k

/-- The highest level in a history that starts at level `k`. -/
def nesting : Nat → List Event → Nat
  | k, [] => k
  | k, e :: rest => max k (nesting (e.level k) rest)

/-- A history that ends at the level it starts at, and is nested `n` deep. -/
structure Nests (new : List Event) (n : Nat) : Prop where
  balanced : ∀ k, new.foldl Event.level k = k
  deepest : ∀ k, nesting k new = k + n

theorem le_nesting (k : Nat) (new : List Event) : k ≤ nesting k new := by
  cases new with
  | nil => exact Nat.le_refl k
  | cons e rest => exact Nat.le_max_left _ _

theorem nesting_append (k : Nat) (a b : List Event) :
    nesting k (a ++ b) = max (nesting k a) (nesting (a.foldl Event.level k) b) := by
  induction a generalizing k with
  | nil => exact (Nat.max_eq_right (le_nesting k b)).symm
  | cons e rest ih =>
    simp only [List.cons_append, nesting, List.foldl_cons, ih]
    omega

theorem Event.level_of_not_dispatch {e : Event} (h : e.ofDispatch = false) (k : Nat) :
    e.level k = k := by
  cases e <;> first | rfl | cases h

namespace Nests

variable {a b : List Event} {m n : Nat}

theorem nil : Nests [] 0 := ⟨fun _ => rfl, fun _ => rfl⟩

theorem append (h : Nests a m) (k : Nests b n) : Nests (a ++ b) (max m n) where
  balanced l := by rw [List.foldl_append, h.balanced, k.balanced]
  deepest l := by
    rw [nesting_append, h.balanced, h.deepest, k.deepest]
    omega

theorem of_not_dispatch (h : ∀ e ∈ a, e.ofDispatch = false) : Nests a 0 := by
  induction a with
  | nil => exact nil
  | cons e rest ih =>
    have he : Nests [e] 0 := by
      have hl := Event.level_of_not_dispatch (h e List.mem_cons_self)
      exact ⟨fun k => by simp [hl], fun k => by simp [nesting, hl]⟩
    exact he.append (ih fun e he => h e (List.mem_cons_of_mem _ he))

/-- A command is one level if it runs a marker, and none otherwise. -/
theorem bracket (h : Nests a n) (command : Command) (c : Context) (r : Except Failure Value)
    (cancelled : Bool) :
    Nests (.dispatched command c :: a ++ [.settled command r cancelled])
      (if command.tag = runMarkerTag then n + 1 else n) := by
  by_cases ht : command.tag = runMarkerTag
  · refine ⟨fun k => ?_, fun k => ?_⟩
    · simp [Event.level, ht, h.balanced]
    · simp only [List.cons_append, nesting, nesting_append, Event.level, ht, if_true, h.balanced,
        h.deepest]
      omega
  · refine ⟨fun k => ?_, fun k => ?_⟩
    · simp [Event.level, ht, h.balanced]
    · simp only [List.cons_append, nesting, nesting_append, Event.level, ht, if_false, h.balanced,
        h.deepest]
      omega

end Nests

/-! ## What is left of the bound -/

/-- From one state to another with `depth` re-entries to go: the stack of calls is the same, markers
are nested at most as deep as there were re-entries, and they are all used up only by the nesting of
markers and the calls that there was room for. -/
structure Measured (depth : Nat) (s : State W) (r : Except Failure α) (t : State W) : Prop where
  calls : t.context.calls = s.context.calls
  nests : ∃ new n, t.world.history = s.world.history ++ new ∧ Nests new n ∧ n ≤ depth ∧
    (r = .error .exhausted → depth ≤ n + (maxCalls - s.context.calls.length))

namespace Measured

variable {β : Type} {depth : Nat} {s t u : State W} {r : Except Failure α} {r' : Except Failure β}

theorem of_local {N : String → Prop} (h : State.Local N s t) (hr : r ≠ .error .exhausted) :
    Measured depth s r t := by
  obtain ⟨new, hn, hd⟩ := h.events
  exact ⟨h.context.calls, new, 0, hn, .of_not_dispatch hd, Nat.zero_le _, fun h => absurd h hr⟩

theorem trans {a : α} (h : Measured depth s (.ok a : Except Failure α) t)
    (k : Measured depth t r' u) : Measured depth s r' u := by
  obtain ⟨hcalls, new, n, hn, hnests, hle, -⟩ := h
  obtain ⟨kcalls, more, m, hm, knests, kle, kexh⟩ := k
  refine ⟨kcalls.trans hcalls, new ++ more, max n m, by rw [hm, hn, List.append_assoc],
    hnests.append knests, by omega, fun hr => ?_⟩
  have := kexh hr
  rw [hcalls] at this
  omega

/-- The same run with another outcome that is no exhaustion more. -/
theorem imp (h : Measured depth s r t) (hr : r' = .error .exhausted → r = .error .exhausted) :
    Measured depth s r' t := by
  obtain ⟨hcalls, new, n, hn, hnests, hle, hexh⟩ := h
  exact ⟨hcalls, new, n, hn, hnests, hle, hexh ∘ hr⟩

theorem map (h : Measured depth s r t) (f : α → β) : Measured depth s (r.map f) t :=
  h.imp fun hr => by
    cases r with
    | error e => cases hr; rfl
    | ok a => cases hr

end Measured

/-- From one state to another, a command that is not yet done was carried out. With `depth`
re-entries to go behind it, it uses them all up only as a command that runs a marker, or as a call
that there was room for. -/
structure Carried (depth : Nat) (command : Command) (s : State W) (r : Except Failure Value)
    (t : State W) : Prop where
  calls : t.context.calls = s.context.calls
  nests : ∃ new n, t.world.history = s.world.history ++ new ∧ Nests new n ∧ n ≤ depth ∧
    (r = .error .exhausted →
      command.tag = runMarkerTag ∧ depth ≤ n + (maxCalls - s.context.calls.length) ∨
        depth + 1 ≤ n + (maxCalls - s.context.calls.length))

namespace Carried

variable {depth : Nat} {command : Command} {s t u : State W} {r : Except Failure Value}

theorem of_later (h : State.Later s t) (hc : t.context.calls = s.context.calls)
    (hr : r ≠ .error .exhausted) : Carried depth command s r t := by
  obtain ⟨new, hn, hd⟩ := h.events
  exact ⟨hc, new, 0, hn, .of_not_dispatch hd, Nat.zero_le _, fun h => absurd h hr⟩

theorem after {N : String → Prop} (h : State.Local N s t) (k : Carried depth command t r u) :
    Carried depth command s r u := by
  obtain ⟨old, ho, hd⟩ := h.events
  obtain ⟨kcalls, new, n, hn, knests, kle, kexh⟩ := k
  have hnests := (Nests.of_not_dispatch hd).append knests
  rw [Nat.zero_max] at hnests
  rw [h.context.calls] at kcalls kexh
  exact ⟨kcalls, old ++ new, n, by rw [hn, ho, List.append_assoc], hnests, kle, kexh⟩

/-- The end of a command closes its bracket. -/
theorem measured (h : Carried depth command (s.note (.dispatched command s.context)) r t) :
    Measured (depth + 1) s r (t.note (.settled command r t.world.cancelled)) := by
  obtain ⟨hcalls, new, n, hn, hnests, hle, hexh⟩ := h
  refine ⟨hcalls, _, _, ?_, hnests.bracket command s.context r t.world.cancelled, ?_, fun hr => ?_⟩
  · simp [hn]
  · split <;> omega
  · have := hexh hr
    rw [State.context_note] at this
    -- a command that runs a marker has one level more; any other needs the sharper bound
    split <;> rcases this with ⟨ht, h⟩ | h
    · omega
    · omega
    · exact absurd ht ‹_›
    · exact h

end Carried

section Command

variable {env : Env W} {inner : Interpreter W} (hstd : env.registry.Standard env.host)
variable {depth : Nat}
variable (hgo : ∀ sec s, Measured depth s (inner.runSection sec s).1 (inner.runSection sec s).2)

include hstd hgo

/-- **A command** that is carried out. -/
theorem Handled.carried {command : Command} {s t : State W} {r : Except Failure Value}
    (h : Handled env inner command s r t) : Carried depth command s r t := by
  cases h with
  | plain stays ends => exact .of_later stays.later stays.context.calls ends
  | @extra x u here before =>
    have hx := hstd.extras x here
    have hcalls := congrArg (·.calls) (hx.context inner command u)
    exact .after before (.of_later (hx.orderly inner command u) hcalls (hx.ends inner command u))
  | @installed i u here before deps =>
    have hi := confined_install env.host (hstd.installers i here) inner deps
    refine .after before (.of_later (hi.stays u).later (hi.stays u).context.calls fun h => ?_)
    rcases hr : (i.install inner deps u).1 with e | a <;> rw [hr] at h <;> cases h
    exact hi.errs u _ hr
  | @called u before target callee here room =>
    obtain ⟨-, new, n, hn, hnests, hle, hexh⟩ :=
      (hgo callee.entries (u.entering .run target callee)).map fun _ => Value.null
    -- the callee sees one call more on the stack, and `room` says that it counts
    refine .after before ⟨rfl, new, n, hn, hnests, hle, fun h => .inr ?_⟩
    have := hexh h
    simp only [State.entering, Context.entering, List.length_append, List.length_singleton] at this
    omega
  | @marker u before here sec =>
    obtain ⟨-, new, n, hn, hnests, hle, hexh⟩ :=
      (hgo sec { u with context := { u.context with kind := .run } }).map fun _ => Value.null
    exact .after before ⟨rfl, new, n, hn, hnests, hle, fun h => .inl ⟨here, hexh h⟩⟩

theorem measured_runCommand (command : Command) (s : State W) :
    Measured (depth + 1) s (runCommand env inner command s).1
      (runCommand env inner command s).2 := by
  obtain ⟨r, t, r', u, hr, hc, h⟩ := runCommand_concluded env inner command s
  have hdone := (hr.carried hstd hgo).measured
  rw [h]
  cases hc with
  | same => exact hdone
  | unknown =>
    have hok : Measured (depth + 1) s (.ok () : Except Failure Unit) _ := hdone.imp nofun
    exact hok.trans (.of_local (.note (N := anyName) _ rfl) nofun)

end Command

/-! ## Sections -/

/-- **A run** uses up its bound only by nesting markers, and calls. -/
theorem measured_runSection {env : Env W} (hstd : env.registry.Standard env.host) (depth : Nat)
    (sec : Section) (s : State W) :
    Measured depth s (runSection env depth sec s).1 (runSection env depth sec s).2 := by
  induction depth generalizing sec s with
  | zero =>
    exact ⟨rfl, [], 0, by simp [runSection, interpreter, exhausted], .nil, Nat.le_refl 0, by omega⟩
  | succ depth ih =>
    have h : KeepsLocal (executor env (interpreter env depth)) anyName (Measured (depth + 1)) :=
      { step := fun hl hf => .of_local hl fun h => hf _ h
        join := fun hx hy => (hx.trans hy).map _
        scope := fun hg => ⟨hg.calls, hg.nests⟩
        leaf := fun e s => by
          rw [Meets, executor_leaf]
          exact (measured_runCommand hstd ih _ s).map _
        skipped := fun e s => .of_local (.note (N := anyName) s rfl) fun h => by cases h }
    rw [runSection_succ]
    exact (walk_meets env.host h.keeps sec (fun _ _ => trivial) false s).map _

/-! ## Ending -/

/-- How deep a run with a bound nests the commands that run markers. -/
def markerNesting (env : Env W) (sec : Section) (s : State W) (depth : Nat) : Nat :=
  nesting 0 (s.since (runSection env depth sec s).2)

section Ends

variable {env : Env W} (hstd : env.registry.Standard env.host) (sec : Section) (s : State W)

include hstd

theorem markerNesting_le (depth : Nat) : markerNesting env sec s depth ≤ depth := by
  obtain ⟨-, new, n, hn, hnests, hle, -⟩ := measured_runSection hstd depth sec s
  rw [markerNesting, State.since_eq hn, hnests.deepest]
  omega

theorem le_markerNesting_of_exhausted {depth : Nat}
    (h : (runSection env depth sec s).1 = .error .exhausted) :
    depth ≤ markerNesting env sec s depth + (maxCalls - s.context.calls.length) := by
  obtain ⟨-, new, n, hn, hnests, -, hexh⟩ := measured_runSection hstd depth sec s
  have := hexh h
  rw [markerNesting, State.since_eq hn, hnests.deepest]
  omega

/-- **Which runs end.** A run ends exactly if markers are not run inside each other without limit;
calls do not matter, as a bound `maxCalls` above the nesting of markers is enough. Collecting
dependencies always ends. -/
theorem ends_iff_nesting_bounded :
    ((∃ depth, (runSection env depth sec s).1 ≠ .error .exhausted) ↔
      ∃ m, ∀ depth, markerNesting env sec s depth ≤ m) ∧
    (∀ m depth, markerNesting env sec s depth ≤ m → m + maxCalls < depth →
      (runSection env depth sec s).1 ≠ .error .exhausted) ∧
    (dependencies env.host sec s).1 ≠ .error .exhausted := by
  have hends : ∀ m depth, markerNesting env sec s depth ≤ m → m + maxCalls < depth →
      (runSection env depth sec s).1 ≠ .error .exhausted := by
    intro m depth hm hlt h
    have := le_markerNesting_of_exhausted hstd sec s h
    omega
  refine ⟨⟨fun ⟨depth, h⟩ => ⟨depth, fun more => ?_⟩, fun ⟨m, hm⟩ => ?_⟩, hends, fun h => ?_⟩
  · rcases Nat.le_total more depth with hle | hle
    · exact Nat.le_trans (markerNesting_le hstd sec s more) hle
    · rw [markerNesting, runSection_of_le hle h]
      exact markerNesting_le hstd sec s depth
  · exact ⟨m + maxCalls + 1, hends m _ (hm _) (by omega)⟩
  · have hdeps : Confined anyName Failure.Ordinary (dependencies env.host sec) :=
      confined_dependencies env.host fun _ _ => trivial
    exact (hdeps.errs s _ h).ne_exhausted rfl

end Ends

/-- A run on a still host that calls, and then runs a marker that holds nothing. -/
theorem ends_iff_nesting_bounded_watched :
    (Env.watched "").registry.Standard (Env.watched "").host ∧
      (let sec : Section := [⟨"call", .text "self.other"⟩, ⟨"dda_run", .text "."⟩]
        let s : State Unit := ⟨{}, ⟨(), false, []⟩⟩
        (∃ depth, (runSection (Env.watched "") depth sec s).1 ≠ .error .exhausted) ↔
          ∃ m, ∀ depth, markerNesting (Env.watched "") sec s depth ≤ m) :=
  ⟨standard_watched "", (ends_iff_nesting_bounded (standard_watched "") _ _).1⟩

/-! ## A run that does not end -/

/-- The text of a marker whose run section runs the project it stands in. -/
def ownMarker : String := "run:\n- dda_run: .\n"

/-- The command in that run section. -/
def runOwn : Command := ⟨runMarkerTag, .text "."⟩

/-- The run section of that marker. -/
def ownRun : Section := [⟨runOwn.tag, runOwn.argument⟩]

theorem parse_ownMarker :
    ∃ m, Marker.parse? ownMarker = some m ∧ m.section? runSectionName = .ok ownRun := by
  have h : (Marker.parse? ownMarker).map (fun m => (m.section? runSectionName).toOption) =
      some (some ownRun) := by decide +kernel
  obtain ⟨m, hm, hs⟩ := Option.map_eq_some_iff.mp h
  exact ⟨m, hm, eq_ok_of_toOption hs⟩

theorem marker_runOwn (env : Env W) (inner : Interpreter W) (dir : String) :
    Marker.run env inner runOwn.tag dir =
      (do Marker.runIn env.host inner.runSection dir; return Value.null) := by
  unfold Marker.run
  rw [if_neg (by decide), if_neg (by decide), if_neg (by decide), if_pos (by decide)]

/-- Carrying out the command of that section is running the section again. -/
theorem runWith_runOwn (inner : Interpreter Unit) {s : State Unit} (hc : s.context = {}) :
    runWith (.watched ownMarker) inner runOwn .marker s =
      (do
        forked (fun c => { c with kind := .run }) (inner.runSection ownRun)
        return Value.null) s := by
  obtain ⟨m, hm, hs⟩ := parse_ownMarker
  have hformat : Command.format {} runOwn = .ok "." := eq_ok_of_toOption (by decide +kernel)
  have harg : textArgument runOwn s = (.ok ".", s) := by
    rw [textArgument, context_bind, hc, hformat]
    rfl
  rw [runWith, bind_of_ok harg, context_bind, bind_of_ok (show world s = (.ok s.world, s) from rfl),
    marker_runOwn, Marker.runIn]
  simp only [bind_assoc]
  rw [bind_of_ok (readIn_of_text _ rfl hm), hs]
  rfl

theorem runCommand_runOwn {inner : Interpreter Unit} {s : State Unit} (hc : s.context = {})
    (hgo : ∀ t : State Unit, t.context = {} → t.world.cancelled = s.world.cancelled →
      (inner.runSection ownRun t).1 = .error .exhausted) :
    (runCommand (.watched ownMarker) inner runOwn s).1 = .error .exhausted := by
  have hres : (Env.watched ownMarker).registry.resolve? runOwn = some .marker := rfl
  have hd : (dispatch (.watched ownMarker) inner runOwn s).1 = .error .exhausted := by
    let t := (s.note (.dispatched runOwn s.context)).note (.handled "dda" runOwn)
    have ht : { t.context with kind := .run } = ({} : Context) := by
      change { s.context with kind := .run } = ({} : Context)
      rw [hc]
    have hrun : (dispatch (.watched ownMarker) inner runOwn s).1 =
        (runWith (.watched ownMarker) inner runOwn .marker t).1 := by
      rw [dispatch, hres]
      rfl
    rw [hrun, runWith_runOwn inner (s := t) hc, bind_null, forked]
    dsimp only
    rw [hgo { t with context := { t.context with kind := .run } } ht rfl]
    rfl
  unfold runCommand
  split
  · rename_i h
    rw [h] at hd
    cases hd
  · exact hd

/-- Whatever the bound on re-entries, a run of that section uses it up. -/
theorem exhausted_ownRun (depth : Nat) {s : State Unit} (hc : s.context = {})
    (hs : s.world.cancelled = false) :
    (runSection (.watched ownMarker) depth ownRun s).1 = .error .exhausted := by
  induction depth generalizing s with
  | zero => rfl
  | succ depth ih =>
    have hcmd := runCommand_runOwn hc fun t ht hct => ih ht (hct.trans hs)
    have hleaf : Construct.ofTag runOwn.tag = .command := by decide +kernel
    rw [runSection_succ, ownRun, walk_cons_of_command _ _ _ _ hleaf hs, andThen]
    have he : ((executor (.watched ownMarker) (interpreter (.watched ownMarker) depth)).leaf
        ⟨runOwn.tag, runOwn.argument⟩ s).1 = .error .exhausted := by
      rw [executor_leaf]
      exact congrArg (Except.map _) hcmd
    rw [bind_of_error (Prod.ext he rfl)]
    rfl

/-- **A run that does not end**: the run section of a marker runs its own project. -/
theorem not_ends_of_own_marker :
    ¬ ∃ depth, (runSection (.watched ownMarker) depth ownRun ⟨{}, ⟨(), false, []⟩⟩).1 ≠
      .error .exhausted :=
  fun ⟨depth, h⟩ => h (exhausted_ownRun depth rfl rfl)

end Scaffold
