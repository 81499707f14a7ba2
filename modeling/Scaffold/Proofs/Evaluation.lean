import Scaffold.Proofs.Confined
import Scaffold.Run.Procedure

/-!
# What evaluation reads and leaves

Expressions, assignments and loop headers are evaluated by computations that read the context and
use the host. What happened before them they do not look at, and the events that they add are of few
kinds.

* `Event.ofEvaluation`: those events; `State.trace` is what happened of them.
* `Run.attempt`: a computation whose failure is a result.
* `Run.Evaluates`: a computation that does not look at the past, adds such events alone and leaves a
  cancellation as it is.

Results:
* **`evaluates_evaluate`**, `evaluates_assign`, `evaluates_condition`, `evaluates_expandLoop`,
  `evaluates_bindAll`: all evaluation is of this sort.
* `Evaluates.added`: what it adds, it adds to any past.
-/

namespace Scaffold

variable {W α β : Type}

/-- Events that evaluation records. The messages of the shell are among them. -/
def Event.ofEvaluation : Event → Bool
  | .evaluated _ | .assigned _ _ | .launched _ => true
  | .logged origin _ _ => origin == .shell
  | _ => false

namespace State

/-- Only events of evaluation happened. -/
def Within (s : State W) : Prop := ∀ e ∈ s.world.events, e.ofEvaluation = true

theorem within_note {s : State W} {e : Event} (h : s.Within) (he : e.ofEvaluation = true) :
    (s.note e).Within := List.forall_mem_cons.mpr ⟨he, h⟩

end State

namespace Run

/-- Fail with a failure of any kind. -/
def raise (f : Failure) : Run W α := fun s => (.error f, s)

/-- A computation whose failure is a result. -/
def attempt (x : Run W α) : Run W (Except Failure α) := fun s => (.ok (x s).1, (x s).2)

/-- What the outcome of a command line says of it as an expression. -/
def verdict : Except Failure String → Run W Evaluated
  | .ok output => pure ⟨true, .text output⟩
  | .error (.error (.execution (.commandFailed _ _ output))) => pure ⟨false, .text output⟩
  | .error (.error (.execution _)) => pure ⟨false, .text ""⟩
  | .error f => raise f

theorem evaluateCommand_eq (host : Host W) (command : String) :
    evaluateCommand host command =
      context >>= fun c => attempt (runShell host (c.format command) .quiet) >>= verdict := by
  funext s
  rw [context_bind]
  unfold evaluateCommand
  rcases h : runShell host (s.context.format command) .quiet s with ⟨r, t⟩
  rw [bind_of_ok (show attempt _ s = (.ok r, t) by rw [attempt, h])]
  match r with
  | .ok _ => rfl
  | .error .exhausted => rfl
  | .error (.error (.execution (.commandFailed _ _ _))) => rfl
  | .error (.error (.execution (.logged _))) => rfl
  | .error (.error (.execution (.markerFile _))) => rfl
  | .error (.error (.execution (.missingArgument _))) => rfl
  | .error (.error (.execution (.recursionLimit _))) => rfl
  | .error (.error (.config _)) => rfl
  | .error (.error (.syntaxFault _)) => rfl
  | .error (.error (.io _)) => rfl
  | .error (.error .yaml) => rfl

/-! ## Evaluating computations -/

/-- A computation that does not look at the past, that adds events of evaluation alone, and that
leaves a cancellation as it is. -/
structure Evaluates (x : Run W α) : Prop where
  blind : ∀ past s, x (s.behind past) = ((x s).1, (x s).2.behind past)
  within : ∀ s, s.Within → (x s).2.Within
  steady : ∀ s, (x s).2.world.cancelled = s.world.cancelled

/-- The events that an evaluating computation adds do not depend on those before. -/
theorem Evaluates.added {x : Run W α} (h : Evaluates x) (c : Context) (w : W) (cancelled : Bool) :
    ∃ new, (∀ e ∈ new, e.ofEvaluation = true) ∧ ∃ r c' w', ∀ past,
      x ⟨c, ⟨w, cancelled, past⟩⟩ = (r, ⟨c', ⟨w', cancelled, new ++ past⟩⟩) := by
  have hw := h.within ⟨c, ⟨w, cancelled, []⟩⟩ nofun
  have hc := h.steady ⟨c, ⟨w, cancelled, []⟩⟩
  have hb := fun past => h.blind past ⟨c, ⟨w, cancelled, []⟩⟩
  rcases hx : x ⟨c, ⟨w, cancelled, []⟩⟩ with ⟨r, c', w', k, new⟩
  simp only [hx] at hw hc hb
  subst hc
  exact ⟨new, hw, r, c', w', hb⟩

section Primitives

theorem evaluates_pure (a : α) : Evaluates (pure a : Run W α) :=
  ⟨fun _ _ => rfl, fun _ => id, fun _ => rfl⟩

theorem evaluates_raise (f : Failure) : Evaluates (raise f : Run W α) :=
  ⟨fun _ _ => rfl, fun _ => id, fun _ => rfl⟩

theorem evaluates_fail (e : Error) : Evaluates (fail e : Run W α) := evaluates_raise (.error e)

theorem evaluates_ofSyntax : ∀ r : Except SyntaxError α, Evaluates (ofSyntax r : Run W α)
  | .ok a => evaluates_pure a
  | .error _ => evaluates_fail _

theorem evaluates_context : Evaluates (context : Run W Context) :=
  ⟨fun _ _ => rfl, fun _ => id, fun _ => rfl⟩

theorem evaluates_modifyContext (f : Context → Context) :
    Evaluates (modifyContext f : Run W Unit) :=
  ⟨fun _ _ => rfl, fun _ => id, fun _ => rfl⟩

theorem evaluates_outside (f : W → α × W) : Evaluates (outside f) :=
  ⟨fun _ _ => rfl, fun _ => id, fun _ => rfl⟩

theorem evaluates_record {e : Event} (he : e.ofEvaluation = true) :
    Evaluates (record e : Run W Unit) :=
  ⟨fun _ _ => rfl, fun _ h => State.within_note h he, fun _ => rfl⟩

theorem evaluates_log (l : Level) (m : String) : Evaluates (log .shell l m : Run W Unit) :=
  evaluates_record rfl

theorem Evaluates.bind {x : Run W α} {f : α → Run W β} (hx : Evaluates x)
    (hf : ∀ a, Evaluates (f a)) : Evaluates (x >>= f) := by
  refine ⟨fun past s => ?_, fun s hs => ?_, fun s => ?_⟩
  · rcases h : x s with ⟨e | a, t⟩
    · rw [bind_of_error h, bind_of_error (by rw [hx.blind, h])]
    · rw [bind_of_ok h, bind_of_ok (by rw [hx.blind, h]), (hf a).blind]
  · have ht := hx.within s hs
    rcases h : x s with ⟨e | a, t⟩ <;> rw [h] at ht
    · rw [bind_of_error h]
      exact ht
    · rw [bind_of_ok h]
      exact (hf a).within t ht
  · have ht := hx.steady s
    rcases h : x s with ⟨e | a, t⟩ <;> rw [h] at ht
    · rw [bind_of_error h]
      exact ht
    · rw [bind_of_ok h]
      exact ((hf a).steady t).trans ht

theorem Evaluates.attempt {x : Run W α} (hx : Evaluates x) : Evaluates (attempt x) :=
  ⟨fun past s => by rw [Run.attempt, hx.blind]; rfl, hx.within, hx.steady⟩

/-- Of the world, evaluation reads only the state of the host. -/
theorem evaluates_world {f : World W → Run W α}
    (hf : ∀ w w', w.outside = w'.outside → f w = f w') (hx : ∀ w, Evaluates (f w)) :
    Evaluates (world >>= f) := by
  refine ⟨fun past s => ?_, fun s => (hx s.world).within s, fun s => (hx s.world).steady s⟩
  have hpast : f (s.behind past).world (s.behind past) = f s.world (s.behind past) :=
    congrFun (hf (s.behind past).world s.world rfl) _
  exact hpast.trans ((hx s.world).blind past s)

theorem evaluates_setVar (name : String) (v : Value) : Evaluates (setVar name v : Run W Unit) :=
  (evaluates_record rfl).bind fun _ => evaluates_modifyContext _

theorem evaluates_bindAll : ∀ bs : Bindings, Evaluates (bindAll bs : Run W Unit)
  | [] => evaluates_pure ()
  | (name, v) :: rest => (evaluates_setVar name v).bind fun _ => evaluates_bindAll rest

end Primitives

section Shell

variable (host : Host W)

theorem evaluates_logLines (l : Level) : ∀ lines, Evaluates (logLines l lines : Run W Unit)
  | [] => evaluates_pure ()
  | _ :: rest => (evaluates_log l _).bind fun _ => evaluates_logLines l rest

theorem evaluates_changeDir (dir : String) (options : ShellOptions) :
    Evaluates (changeDir host dir options) := by
  refine evaluates_context.bind fun c =>
    evaluates_world (fun w w' h => by simp only [h]) fun w => ?_
  dsimp only
  split
  · exact (evaluates_log _ _).bind fun _ =>
      (evaluates_modifyContext _).bind fun _ => evaluates_pure _
  · split
    · exact (evaluates_log _ _).bind fun _ => evaluates_fail _
    · exact evaluates_fail _

theorem evaluates_notStarted (command reason : String) (options : ShellOptions) :
    Evaluates (notStarted command reason options : Run W String) :=
  (evaluates_log _ _).bind fun _ => evaluates_fail _

theorem evaluates_finished (command : String) (options : ShellOptions) (f : Finished) :
    Evaluates (finished command options f : Run W String) := by
  refine (evaluates_logLines _ _).bind fun _ => ?_
  dsimp only
  split
  · exact evaluates_pure _
  · split
    · exact (evaluates_log _ _).bind fun _ => evaluates_fail _
    · exact evaluates_fail _

theorem evaluates_runShell (command : String) (options : ShellOptions) :
    Evaluates (runShell host command options) := by
  unfold runShell
  split
  · exact evaluates_changeDir host _ options
  · refine evaluates_context.bind fun c => (evaluates_log _ _).bind fun _ => ?_
    split
    · exact evaluates_notStarted _ _ options
    · refine (evaluates_record rfl).bind fun _ => (evaluates_outside _).bind fun r => ?_
      cases r with
      | error e => exact evaluates_notStarted _ _ options
      | ok f => exact evaluates_finished _ options f

end Shell

section Expressions

variable (host : Host W)

theorem evaluates_verdict (r : Except Failure String) :
    Evaluates (verdict r : Run W Evaluated) := by
  unfold verdict
  split
  · exact evaluates_pure _
  · exact evaluates_pure _
  · exact evaluates_pure _
  · exact evaluates_raise _

theorem evaluates_ask : ∀ q, Evaluates (ask host q)
  | .command line => by
    rw [ask, evaluateCommand_eq]
    exact evaluates_context.bind fun c =>
      (evaluates_runShell host _ _).attempt.bind evaluates_verdict
  | .variable _ => evaluates_context.bind fun _ => evaluates_pure _
  | .defined _ => evaluates_context.bind fun _ => evaluates_pure _

/-- **Evaluating an expression** reads nothing of the past and adds events of evaluation alone. -/
theorem evaluates_evaluate (expression : Value) : Evaluates (evaluate host expression) := by
  refine (evaluates_record rfl).bind fun _ => ?_
  split
  · exact (evaluates_ofSyntax _).bind fun e =>
      (evaluates_ask host e.query).bind fun _ => evaluates_pure _
  · exact evaluates_pure _

theorem evaluates_assign (target : String) (expression : Value) :
    Evaluates (assign host target expression) := by
  refine (evaluates_ofSyntax _).bind fun names =>
    (evaluates_evaluate host expression).bind fun r => ?_
  split
  · exact evaluates_setVar _ _
  · exact (evaluates_setVar _ _).bind fun _ => evaluates_setVar _ _

theorem evaluates_condition (tag : String) : Evaluates (condition host tag) :=
  (evaluates_evaluate host _).bind fun _ => evaluates_pure _

theorem evaluates_expandLoop (tag : String) : Evaluates (expandLoop host tag) :=
  (evaluates_ofSyntax _).bind fun _ =>
    (evaluates_evaluate host _).bind fun _ => evaluates_ofSyntax _

end Expressions

end Run

end Scaffold
