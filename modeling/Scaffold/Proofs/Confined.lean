import Scaffold.Run.Evaluate

/-!
# What a computation may change

A run is put together from computations that touch little: a message, a shell command, the
evaluation of an expression. This module says once how little, so that the theorems on whole runs
need not look inside them again.

* `Context.Aligned`: two contexts differ at most in variables and working directory.
* `State.Frame N`: from one state to a later one, stacks and shared data stay, a cancellation stays,
  and variables change at most at names in `N`.
* `State.Local N`: a frame in which no leaf command was dispatched and no cancellation happened.
* `Run.Confined N E`: every run of a computation is local, and it fails only with failures in `E`.

Results:
* **`confined_runShell`**: a shell command sets no variable and fails only as a failed command.
* **`confined_evaluate`**, `confined_assign`, `confined_expandLoop`: expressions fail only for what
  is wrong with their text, and an assignment sets only the names in its target.
* `confined_forked`: on a copy of the context, any change of the copy is forgotten.
-/

namespace Scaffold

variable {W α β : Type}

/-! ## Failures -/

/-- A malformed construct. -/
def Failure.IsSyntax : Failure → Prop
  | .error (.syntaxFault _) => True
  | _ => False

/-- A failed execution. -/
def Failure.IsExecution : Failure → Prop
  | .error (.execution _) => True
  | _ => False

/-- A failure of the script or of its execution. -/
def Failure.Ordinary (f : Failure) : Prop := f.IsSyntax ∨ f.IsExecution

theorem Failure.Ordinary.ne_exhausted {f : Failure} (h : f.Ordinary) : f ≠ .exhausted := by
  rintro rfl
  rcases h with h | h <;> exact h

/-! ## Histories -/

/-- Events that only the dispatcher of leaf commands records. -/
def Event.ofDispatch : Event → Bool
  | .dispatched _ _ => true
  | .settled _ _ _ => true
  | _ => false

@[simp] theorem State.context_note (s : State W) (e : Event) : (s.note e).context = s.context := rfl

@[simp] theorem State.cancelled_note (s : State W) (e : Event) :
    (s.note e).world.cancelled = s.world.cancelled := rfl

@[simp] theorem State.outside_note (s : State W) (e : Event) :
    (s.note e).world.outside = s.world.outside := rfl

@[simp] theorem State.history_note (s : State W) (e : Event) :
    (s.note e).world.history = s.world.history ++ [e] := by
  simp [World.history, State.note]

/-- What was added to the history since a state. -/
def State.since (s t : State W) : List Event := t.world.history.drop s.world.history.length

theorem State.since_eq {s t : State W} {new : List Event}
    (h : t.world.history = s.world.history ++ new) : s.since t = new := by simp [since, h]

/-! ## Contexts -/

/-- The second context differs from the first at most in variables and working directory. -/
structure Context.Aligned (c d : Context) : Prop where
  interpreter : d.interpreter = c.interpreter
  kind : d.kind = c.kind
  assistant : d.assistant = c.assistant
  library : d.library = c.library
  calls : d.calls = c.calls
  scopes : d.scopes = c.scopes
  files : d.files = c.files

namespace Context.Aligned

variable {c d e : Context}

theorem refl (c : Context) : c.Aligned c := ⟨rfl, rfl, rfl, rfl, rfl, rfl, rfl⟩

theorem trans (h : c.Aligned d) (k : d.Aligned e) : c.Aligned e where
  interpreter := k.interpreter.trans h.interpreter
  kind := k.kind.trans h.kind
  assistant := k.assistant.trans h.assistant
  library := k.library.trans h.library
  calls := k.calls.trans h.calls
  scopes := k.scopes.trans h.scopes
  files := k.files.trans h.files

end Context.Aligned

namespace State

/-- A state with a group of scope labels pushed. -/
def inScope (labels : List String) (s : State W) : State W :=
  { s with context := { s.context with scopes := s.context.scopes ++ [labels] } }

/-- A state with the innermost group of scope labels popped. -/
def outScope (s : State W) : State W :=
  { s with context := { s.context with scopes := s.context.scopes.dropLast } }

theorem aligned_outScope {labels : List String} {s t : State W}
    (h : (s.inScope labels).context.Aligned t.context) :
    s.context.Aligned t.outScope.context :=
  { h with scopes := by simp [outScope, h.scopes, inScope] }

/-- What a run that sets only names in `N` may do to a state: all but variables and working
directory stays, a cancellation stays, variables stay set, and only those in `N` change. -/
structure Frame (N : String → Prop) (s t : State W) : Prop where
  context : s.context.Aligned t.context
  cancelled : s.world.cancelled = true → t.world.cancelled = true
  kept : ∀ x, s.context.vars.contains x = true → t.context.vars.contains x = true
  changed : ∀ x, t.context.vars.get? x ≠ s.context.vars.get? x → N x

/-- A frame without a cancellation and without a leaf command. -/
structure Local (N : String → Prop) (s t : State W) : Prop extends Frame N s t where
  steady : t.world.cancelled = s.world.cancelled
  events : ∃ new, t.world.history = s.world.history ++ new ∧ ∀ e ∈ new, e.ofDispatch = false

variable {N M : String → Prop} {s t u : State W}

namespace Frame

theorem refl (s : State W) : Frame N s s :=
  ⟨.refl _, id, fun _ => id, fun _ h => absurd rfl h⟩

theorem note (s : State W) (e : Event) : Frame N s (s.note e) :=
  ⟨.refl _, id, fun _ => id, fun _ h => absurd rfl h⟩

theorem trans (h : Frame N s t) (k : Frame N t u) : Frame N s u where
  context := h.context.trans k.context
  cancelled := k.cancelled ∘ h.cancelled
  kept x := k.kept x ∘ h.kept x
  changed x hx := by
    by_cases ht : t.context.vars.get? x = s.context.vars.get? x
    · exact k.changed x (ht ▸ hx)
    · exact h.changed x ht

theorem mono (h : Frame N s t) (hNM : ∀ x, N x → M x) : Frame M s t :=
  ⟨h.context, h.cancelled, h.kept, fun x hx => hNM x (h.changed x hx)⟩

/-- A run between a push and a pop of scope labels. -/
theorem scope {labels : List String} (h : Frame N (s.inScope labels) t) : Frame N s t.outScope where
  context := aligned_outScope h.context
  cancelled := h.cancelled
  kept := h.kept
  changed := h.changed

/-- A run on a copy of the context: only the world of the copy is kept. -/
theorem forked {c : Context} (h : Frame M { s with context := c } t) :
    Frame N s { t with context := s.context } where
  context := .refl _
  cancelled := h.cancelled
  kept _ := id
  changed _ hx := absurd rfl hx

end Frame

namespace Local

theorem refl (s : State W) : Local N s s :=
  { Frame.refl s with
    steady := rfl
    events := ⟨[], by simp, by simp⟩ }

theorem trans (h : Local N s t) (k : Local N t u) : Local N s u := by
  obtain ⟨a, ha, hoa⟩ := h.events
  obtain ⟨b, hb, hob⟩ := k.events
  refine { h.toFrame.trans k.toFrame with steady := k.steady.trans h.steady, events := ?_ }
  exact ⟨a ++ b, by rw [hb, ha, List.append_assoc], List.forall_mem_append.mpr ⟨hoa, hob⟩⟩

theorem mono (h : Local N s t) (hNM : ∀ x, N x → M x) : Local M s t :=
  { h.toFrame.mono hNM with steady := h.steady, events := h.events }

theorem scope {labels : List String} (h : Local N (s.inScope labels) t) : Local N s t.outScope :=
  { h.toFrame.scope with steady := h.steady, events := h.events }

theorem forked {c : Context} (h : Local M { s with context := c } t) :
    Local N s { t with context := s.context } :=
  { h.toFrame.forked with steady := h.steady, events := h.events }

/-- One event that is not one of the dispatcher's. -/
theorem note (s : State W) {e : Event} (he : e.ofDispatch = false) : Local N s (s.note e) :=
  { Frame.refl s with
    steady := rfl
    events := ⟨[e], by simp, by simpa using he⟩ }

end Local

end State

/-! ## Confined computations -/

namespace Run

/-- A computation whose runs are local and that fails only with failures in `E`. -/
structure Confined (N : String → Prop) (E : Failure → Prop) (x : Run W α) : Prop where
  stays : ∀ s, State.Local N s (x s).2
  errs : ∀ s f, (x s).1 = .error f → E f

/-- No name at all. -/
abbrev noName : String → Prop := fun _ => False

/-- No failure at all. -/
abbrev never : Failure → Prop := fun _ => False

variable {N M : String → Prop} {E F : Failure → Prop} {x : Run W α}

theorem Confined.mono (h : Confined N E x) (hNM : ∀ y, N y → M y) (hEF : ∀ f, E f → F f) :
    Confined M F x :=
  ⟨fun s => (h.stays s).mono hNM, fun s f hf => hEF f (h.errs s f hf)⟩

/-- A computation that sets no variable is confined to any names. -/
theorem Confined.anyName (h : Confined noName E x) : Confined N E x :=
  h.mono (fun _ => False.elim) fun _ => id

/-- A computation that does not fail fails as one likes. -/
theorem Confined.anyFailure (h : Confined N never x) : Confined N E x :=
  h.mono (fun _ => id) fun _ => False.elim

theorem confined_pure (a : α) : Confined N E (pure a : Run W α) :=
  ⟨fun s => .refl s, fun _ _ h => nomatch h⟩

theorem bind_of_ok {f : α → Run W β} {s t : State W} {a : α} (h : x s = (.ok a, t)) :
    (x >>= f) s = f a t := by rw [bind_apply, h]

theorem bind_of_error {f : α → Run W β} {s t : State W} {e : Failure} (h : x s = (.error e, t)) :
    (x >>= f) s = (.error e, t) := by rw [bind_apply, h]

instance : LawfulMonad (Run W) := LawfulMonad.mk' (Run W)
  (fun x => funext fun s => by
    change (x >>= fun a => pure (id a)) s = x s
    rw [bind_apply]
    rcases x s with ⟨_ | _, _⟩ <;> rfl)
  (fun _ _ => rfl)
  (fun x f g => funext fun s => by
    simp only [bind_apply]
    rcases x s with ⟨_ | _, _⟩ <;> rfl)

theorem context_bind (f : Context → Run W α) (s : State W) :
    (context >>= f) s = f s.context s := rfl

theorem isCancelled_bind (f : Bool → Run W α) (s : State W) :
    (isCancelled >>= f) s = f s.world.cancelled s := rfl

theorem map_apply (g : α → β) (x : Run W α) (s : State W) :
    (g <$> x) s = ((x s).1.map g, (x s).2) := by
  rw [map_eq_pure_bind, bind_apply]
  rcases x s with ⟨_ | _, _⟩ <;> rfl

theorem Confined.bind {f : α → Run W β} (hx : Confined N E x) (hf : ∀ a, Confined N E (f a)) :
    Confined N E (x >>= f) := by
  refine ⟨fun s => ?_, fun s e h => ?_⟩
  · have hs := hx.stays s
    rcases hxs : x s with ⟨e | a, t⟩ <;> rw [hxs] at hs
    · rw [bind_of_error hxs]
      exact hs
    · rw [bind_of_ok hxs]
      exact hs.trans ((hf a).stays t)
  · rcases hxs : x s with ⟨e' | a, t⟩
    · rw [bind_of_error hxs] at h
      exact hx.errs s e (by rw [hxs]; cases h; rfl)
    · rw [bind_of_ok hxs] at h
      exact (hf a).errs t e h

theorem confined_fail {e : Error} (h : E (.error e)) : Confined N E (fail e : Run W α) :=
  ⟨fun s => .refl s, fun _ f hf => by cases hf; exact h⟩

theorem confined_ofSyntax (hE : ∀ e, E (.error (.syntaxFault e))) (r : Except SyntaxError α) :
    Confined N E (ofSyntax r : Run W α) := by
  cases r with
  | ok a => exact confined_pure a
  | error e => exact confined_fail (hE e)

theorem confined_context : Confined N E (context : Run W Context) :=
  ⟨fun s => .refl s, fun _ _ h => nomatch h⟩

theorem confined_world : Confined N E (world : Run W (World W)) :=
  ⟨fun s => .refl s, fun _ _ h => nomatch h⟩

theorem confined_isCancelled : Confined N E (isCancelled : Run W Bool) :=
  ⟨fun s => .refl s, fun _ _ h => nomatch h⟩

theorem confined_record {e : Event} (he : e.ofDispatch = false) :
    Confined N E (record e : Run W Unit) :=
  ⟨fun s => .note s he, fun _ _ h => nomatch h⟩

theorem confined_log (o : Origin) (l : Level) (m : String) :
    Confined N E (log o l m : Run W Unit) :=
  confined_record rfl

theorem confined_outside (f : W → α × W) : Confined N E (outside f) :=
  ⟨fun s => { State.Frame.refl s with
      steady := rfl
      events := ⟨[], by simp [outside, World.history]⟩ },
    fun _ _ h => nomatch h⟩

/-- A change of the working directory. -/
theorem confined_workingDir (dir : String) :
    Confined N E (modifyContext fun c => { c with workingDir := dir } : Run W Unit) :=
  ⟨fun s => { State.Frame.refl s with
      context := ⟨rfl, rfl, rfl, rfl, rfl, rfl, rfl⟩
      steady := rfl
      events := ⟨[], by simp [modifyContext]⟩ },
    fun _ _ h => nomatch h⟩

theorem setVar_apply (name : String) (v : Value) (s : State W) :
    setVar name v s = (.ok (), { s.note (.assigned name v) with
      context := { s.context with vars := s.context.vars.insert name v } }) := rfl

theorem confined_setVar {name : String} (h : N name) (v : Value) :
    Confined N E (setVar name v : Run W Unit) := by
  refine ⟨fun s => ?_, fun _ _ h => nomatch h⟩
  rw [setVar_apply]
  refine ⟨⟨⟨rfl, rfl, rfl, rfl, rfl, rfl, rfl⟩, id, fun x hx => ?_, fun x hx => ?_⟩, rfl,
    ⟨[.assigned name v], by simp [World.history, State.note], by simp [Event.ofDispatch]⟩⟩
  · simp only [Table.contains, Table.get?_insert] at hx ⊢
    split
    · rfl
    · exact hx
  · by_cases hn : name = x
    · exact hn ▸ h
    · exact absurd (Table.get?_insert_of_ne _ v hn) hx

/-- Whatever a copy of the context goes through is forgotten with the copy. -/
theorem confined_forked (change : Context → Context) (h : Confined M E x) :
    Confined N E (forked change x) :=
  ⟨fun s => (h.stays { s with context := change s.context }).forked,
    fun s => h.errs { s with context := change s.context }⟩

/-! ## Shell commands -/

section Shell

variable (host : Host W)

theorem confined_logLines (l : Level) : ∀ lines, Confined N E (logLines l lines : Run W Unit)
  | [] => confined_pure ()
  | _ :: rest => (confined_log _ _ _).bind fun _ => confined_logLines l rest

theorem confined_changeDir (dir : String) (options : ShellOptions) :
    Confined noName Failure.IsExecution (changeDir host dir options) := by
  refine confined_context.bind fun c => confined_world.bind fun w => ?_
  dsimp only
  split
  · exact (confined_log _ _ _).bind fun _ => (confined_workingDir _).bind fun _ => confined_pure _
  · split
    · exact (confined_log _ _ _).bind fun _ => confined_fail trivial
    · exact confined_fail trivial

theorem confined_notStarted (command reason : String) (options : ShellOptions) :
    Confined noName Failure.IsExecution (notStarted command reason options : Run W String) :=
  (confined_log _ _ _).bind fun _ => confined_fail trivial

theorem confined_finished (command : String) (options : ShellOptions) (f : Finished) :
    Confined noName Failure.IsExecution (finished command options f : Run W String) := by
  refine (confined_logLines _ _).bind fun _ => ?_
  dsimp only
  split
  · exact confined_pure _
  · split
    · exact (confined_log _ _ _).bind fun _ => confined_fail trivial
    · exact confined_fail trivial

/-- **A shell command** sets no variable and fails only as a failed command. -/
theorem confined_runShell (command : String) (options : ShellOptions) :
    Confined noName Failure.IsExecution (runShell host command options) := by
  unfold runShell
  split
  · exact confined_changeDir host _ options
  · refine confined_context.bind fun c => (confined_log _ _ _).bind fun _ => ?_
    split
    · exact confined_notStarted _ _ options
    · refine (confined_record rfl).bind fun _ => (confined_outside _).bind fun r => ?_
      cases r with
      | error e => exact confined_notStarted _ _ options
      | ok f => exact confined_finished _ options f

end Shell

/-! ## Expressions -/

section Evaluation

variable (host : Host W)

/-- A command that is run for its result never fails: a failed command is a false result. -/
theorem confined_evaluateCommand (command : String) :
    Confined noName never (evaluateCommand host command) := by
  refine ⟨fun s => ?_, fun s f h => ?_⟩
  · have hs := (confined_runShell host (s.context.format command) .quiet).stays s
    unfold evaluateCommand
    split <;> rename_i hr <;> rw [hr] at hs <;> exact hs
  · unfold evaluateCommand at h
    split at h
    · cases h
    · cases h
    · cases h
    · rename_i e t _ hne hr
      have he := (confined_runShell host (s.context.format command) .quiet).errs s e (by rw [hr])
      match e, he with
      | .error (.execution x), _ => exact hne x rfl

theorem confined_ask : ∀ q, Confined noName never (ask host q)
  | .command line => confined_evaluateCommand host line
  | .variable _ => confined_context.bind fun _ => confined_pure _
  | .defined _ => confined_context.bind fun _ => confined_pure _

/-- **An expression** sets no variable and fails only if its text is malformed. -/
theorem confined_evaluate (expression : Value) :
    Confined noName Failure.IsSyntax (evaluate host expression) := by
  refine (confined_record rfl).bind fun _ => ?_
  split
  · exact (confined_ofSyntax (fun _ => trivial) _).bind fun e =>
      (confined_ask host e.query).anyFailure.bind fun _ => confined_pure _
  · exact confined_pure _

theorem confined_condition (tag : String) :
    Confined noName Failure.IsSyntax (condition host tag) :=
  (confined_evaluate host _).bind fun _ => confined_pure _

theorem confined_expandLoop (tag : String) :
    Confined noName Failure.IsSyntax (expandLoop host tag) :=
  (confined_ofSyntax (fun _ => trivial) _).bind fun _ =>
    (confined_evaluate host _).bind fun _ => confined_ofSyntax (fun _ => trivial) _

/-- The names on the left of an assignment, if they read. -/
def targetNames (target : String) : List String :=
  match assignedNames target with
  | .ok (first, second) => first :: second.toList
  | .error _ => []

/-- An assignment sets the names in its target. -/
theorem confined_assign {target : String} (h : ∀ x ∈ targetNames target, N x)
    (expression : Value) : Confined N Failure.IsSyntax (assign host target expression) := by
  unfold assign
  rcases hn : assignedNames target with e | ⟨first, second⟩
  · exact confined_fail trivial
  · simp only [targetNames, hn] at h
    refine (confined_evaluate host expression).anyName.bind fun r => ?_
    cases second with
    | none => exact confined_setVar (h first (by simp)) _
    | some second =>
      exact (confined_setVar (h first (by simp)) _).bind fun _ =>
        confined_setVar (h second (by simp)) _

theorem confined_bindAll : ∀ {bs : Bindings}, (∀ b ∈ bs, N b.1) →
    Confined N never (bindAll bs : Run W Unit)
  | [], _ => confined_pure ()
  | (_, _) :: _, h =>
    (confined_setVar (h _ List.mem_cons_self) _).bind fun _ =>
      confined_bindAll fun b hb => h b (List.mem_cons_of_mem _ hb)

end Evaluation

end Run

end Scaffold
