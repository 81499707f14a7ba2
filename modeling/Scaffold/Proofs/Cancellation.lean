import Scaffold.Proofs.Command
import Scaffold.Run.Path

/-!
# Cancellation

A run is cancelled by a command, at any depth: in a branch, in a round of a loop, in a section that
was called or that a marker holds. The sections around it only notice before their next entry, on
contexts of their own. That is enough: once the command is done, nothing happens any more but that
the commands around it end.

What happens is read off the history. `Event.halting` is the end of a command in a cancelled run, so
the first such event is the end of the command that cancelled it; `Event.ofWindDown` is what may
come behind.

* `Halted new r`: the events of a run that was cancelled on the way, and how it ended.
* `Heeded`: the three ways a run takes cancellation, by whether it was cancelled before and after.

Results:
* `Handled.minds`, `heeds_runCommand`: one leaf command that is reached.
* **`heeds_runSection`**: a run of a section.
* `runSection_of_cancelled`, `carryOut_of_cancelled`: what is cancelled before it starts only says
  so.
* `lasting_interpreter`: a cancellation is not taken back, unless by code that is not built in.
* **`cancellation_heeded`**: the statement for sections, for dependencies and for invoked paths.
-/

namespace Scaffold

open Run

variable {W α β : Type}

/-! ## Histories of cancelled runs -/

/-- A command was done in a cancelled run. -/
def Event.halting : Event → Bool
  | .settled _ _ cancelled => cancelled
  | _ => false

/-- A message, or a command was done in a cancelled run. -/
def Event.ofWindDown : Event → Bool
  | .logged _ _ _ => true
  | .settled _ _ cancelled => cancelled
  | _ => false

theorem Event.not_halting {e : Event} (h : e.ofDispatch = false) : e.halting = false := by
  cases e <;> first | rfl | cases h

/-- The run was cancelled by a command; behind its end there are only messages and the ends of
commands around it, and unless it failed the run did not either. -/
def Halted (new : List Event) (r : Except Failure α) : Prop :=
  ∃ before command outcome after, new = before ++ .settled command outcome true :: after ∧
    (∀ e ∈ before, e.halting = false) ∧ (∀ e ∈ after, e.ofWindDown = true) ∧
    (outcome.isOk = true → r.isOk = true)

/-- What a run adds to the history and how it ends, by whether it is cancelled before and after. -/
inductive Heeded (new : List Event) (r : Except Failure α) : Bool → Bool → Prop
  /-- The run was not cancelled. -/
  | undisturbed (h : ∀ e ∈ new, e.halting = false) : Heeded new r false false
  /-- The run was cancelled on the way. -/
  | halted (h : Halted new r) : Heeded new r false true
  /-- The run was cancelled before it started. -/
  | ended (h : ∀ e ∈ new, e.ofWindDown = true) (ok : r.isOk = true) : Heeded new r true true

/-- From one state to another, a run that ends as `r` heeds cancellation. -/
def Heeds (s : State W) (r : Except Failure α) (t : State W) : Prop :=
  ∃ new, t.world.history = s.world.history ++ new ∧
    Heeded new r s.world.cancelled t.world.cancelled

theorem Halted.prepend {new : List Event} {r : Except Failure α} (h : Halted new r)
    {old : List Event} (ho : ∀ e ∈ old, e.halting = false) : Halted (old ++ new) r := by
  obtain ⟨before, command, outcome, after, rfl, hb, ha, hr⟩ := h
  exact ⟨old ++ before, command, outcome, after, by simp, List.forall_mem_append.mpr ⟨ho, hb⟩,
    ha, hr⟩

theorem Halted.append {new : List Event} {r : Except Failure α} {r' : Except Failure β}
    (h : Halted new r) {last : List Event} (hl : ∀ e ∈ last, e.ofWindDown = true)
    (hr : r.isOk = true → r'.isOk = true) : Halted (new ++ last) r' := by
  obtain ⟨before, command, outcome, after, rfl, hb, ha, ho⟩ := h
  exact ⟨before, command, outcome, after ++ last, by simp, hb,
    List.forall_mem_append.mpr ⟨ha, hl⟩, hr ∘ ho⟩

/-- The same history with an outcome that is no worse. -/
theorem Halted.imp {new : List Event} {r : Except Failure α} {r' : Except Failure β}
    (h : Halted new r) (hr : r.isOk = true → r'.isOk = true) : Halted new r' := by
  obtain ⟨before, command, outcome, after, hn, hb, ha, ho⟩ := h
  exact ⟨before, command, outcome, after, hn, hb, ha, hr ∘ ho⟩

theorem Heeds.refl (s : State W) (a : α) : Heeds s (.ok a : Except Failure α) s := by
  refine ⟨[], by simp, ?_⟩
  cases s.world.cancelled with
  | false => exact .undisturbed nofun
  | true => exact .ended nofun rfl

/-- A step in which no command was dispatched does not disturb a run. -/
theorem State.Local.heeds {N : String → Prop} {s t : State W} (h : State.Local N s t)
    (hs : s.world.cancelled = false) (r : Except Failure α) : Heeds s r t := by
  obtain ⟨new, hn, hd⟩ := h.events
  refine ⟨new, hn, ?_⟩
  rw [h.steady, hs]
  exact .undisturbed fun e he => Event.not_halting (hd e he)

/-- What follows on a run that did not fail. -/
theorem Heeds.trans {s t u : State W} {a : α} {r : Except Failure β}
    (h : Heeds s (.ok a : Except Failure α) t) (k : Heeds t r u) : Heeds s r u := by
  obtain ⟨new, hn, hd⟩ := h
  obtain ⟨more, hm, hk⟩ := k
  refine ⟨new ++ more, by rw [hm, hn, List.append_assoc], ?_⟩
  generalize s.world.cancelled = x, t.world.cancelled = y, u.world.cancelled = z at hd hk
  cases hd with
  | undisturbed h =>
    cases hk with
    | undisturbed k => exact .undisturbed (List.forall_mem_append.mpr ⟨h, k⟩)
    | halted k => exact .halted (k.prepend h)
  | halted h =>
    cases hk with
    | ended k ok => exact .halted (h.append k fun _ => ok)
  | ended h =>
    cases hk with
    | ended k ok => exact .ended (List.forall_mem_append.mpr ⟨h, k⟩) ok

/-- The same run with an outcome that is no worse. -/
theorem Heeds.imp {s t : State W} {r : Except Failure α} {r' : Except Failure β} (h : Heeds s r t)
    (hr : r.isOk = true → r'.isOk = true) : Heeds s r' t := by
  obtain ⟨new, hn, hd⟩ := h
  refine ⟨new, hn, ?_⟩
  generalize s.world.cancelled = x, t.world.cancelled = y at hd
  cases hd with
  | undisturbed h => exact .undisturbed h
  | halted h => exact .halted (h.imp hr)
  | ended h ok => exact .ended h (hr ok)

theorem isOk_map (f : α → β) (r : Except Failure α) : (r.map f).isOk = r.isOk := by
  cases r <;> rfl

theorem Heeds.map {s t : State W} {r : Except Failure α} (h : Heeds s r t) (f : α → β) :
    Heeds s (r.map f) t := h.imp fun hr => by rw [isOk_map]; exact hr

/-- A message behind a run. -/
theorem Heeds.logged {s t : State W} {r : Except Failure α} {r' : Except Failure β}
    (h : Heeds s r t) (hr : r'.isOk = true) (origin : Origin) (level : Level) (message : String) :
    Heeds s r' (t.note (.logged origin level message)) := by
  obtain ⟨new, hn, hd⟩ := h
  refine ⟨new ++ [.logged origin level message], by simp [hn], ?_⟩
  rw [State.cancelled_note]
  generalize s.world.cancelled = x, t.world.cancelled = y at hd
  cases hd with
  | undisturbed h => exact .undisturbed (List.forall_mem_append.mpr ⟨h, by simp [Event.halting]⟩)
  | halted h => exact .halted (h.append (by simp [Event.ofWindDown]) fun _ => hr)
  | ended h => exact .ended (List.forall_mem_append.mpr ⟨h, by simp [Event.ofWindDown]⟩) hr

/-! ## One command -/

/-- From one state to another, no command was done in a cancelled run. -/
def Undisturbed (s t : State W) : Prop :=
  ∃ new, t.world.history = s.world.history ++ new ∧ ∀ e ∈ new, e.halting = false

theorem Undisturbed.trans {s t u : State W} (h : Undisturbed s t) (k : Undisturbed t u) :
    Undisturbed s u := by
  obtain ⟨a, ha, hda⟩ := h
  obtain ⟨b, hb, hdb⟩ := k
  exact ⟨a ++ b, by rw [hb, ha, List.append_assoc], List.forall_mem_append.mpr ⟨hda, hdb⟩⟩

theorem State.Later.undisturbed {s t : State W} (h : State.Later s t) : Undisturbed s t :=
  h.events.imp fun _ hn => ⟨hn.1, fun e he => Event.not_halting (hn.2 e he)⟩

/-- From one state to another, a command that is not yet done was carried out with outcome `r`:
either no command in a section that it ran was done in a cancelled run, or that section was halted
and there was nothing behind it. -/
def Minds (s : State W) (r : Except Failure α) (t : State W) : Prop :=
  Undisturbed s t ∨ t.world.cancelled = true ∧
    ∃ new, t.world.history = s.world.history ++ new ∧ Halted new r

theorem Minds.after {s t u : State W} {r : Except Failure α} (h : Undisturbed s t)
    (k : Minds t r u) : Minds s r u := by
  rcases k with k | ⟨hu, new, hn, hk⟩
  · exact .inl (h.trans k)
  · obtain ⟨old, ho, hd⟩ := h
    exact .inr ⟨hu, old ++ new, by rw [hn, ho, List.append_assoc], hk.prepend hd⟩

/-- A section that is run where the run is not cancelled. -/
theorem Heeds.minds {s t : State W} {r : Except Failure α} (h : Heeds s r t)
    (hs : s.world.cancelled = false) : Minds s r t := by
  obtain ⟨new, hn, hh⟩ := h
  rw [hs] at hh
  generalize ht : t.world.cancelled = y at hh
  cases hh with
  | undisturbed h => exact .inl ⟨new, hn, h⟩
  | halted h => exact .inr ⟨ht, new, hn, h⟩

/-- A command that is done heeds cancellation, from what carrying it out minds. -/
theorem Minds.heeds {s t : State W} {r : Except Failure Value} (command : Command)
    (h : Minds s r t) (hs : s.world.cancelled = false) :
    Heeds s r (t.note (.settled command r t.world.cancelled)) := by
  rcases h with ⟨new, hn, hd⟩ | ⟨ht, new, hn, hh⟩
  · refine ⟨new ++ [.settled command r t.world.cancelled], by simp [hn], ?_⟩
    rw [hs, State.cancelled_note]
    cases t.world.cancelled with
    | false => exact .undisturbed (List.forall_mem_append.mpr ⟨hd, by simp [Event.halting]⟩)
    | true => exact .halted ⟨new, command, r, [], rfl, hd, nofun, id⟩
  · refine ⟨new ++ [.settled command r t.world.cancelled], by simp [hn], ?_⟩
    rw [hs, State.cancelled_note, ht]
    exact .halted (hh.append (by simp [Event.ofWindDown]) id)

section Command

variable {env : Env W} {inner : Interpreter W} (ho : env.registry.Orderly)
variable (hgo : ∀ sec s, s.world.cancelled = false →
  Heeds s (inner.runSection sec s).1 (inner.runSection sec s).2)

include ho hgo

theorem Handled.minds {command : Command} {s t : State W} {r : Except Failure Value}
    (h : Handled env inner command s r t) (hs : s.world.cancelled = false) : Minds s r t := by
  cases h with
  | plain stays => exact .inl stays.later.undisturbed
  | @extra x u here before =>
    exact .inl (before.later.undisturbed.trans (ho.extras x here inner command u).undisturbed)
  | @installed i u here before deps =>
    exact .inl (before.later.undisturbed.trans (ho.installers i here inner deps u).undisturbed)
  | @called u before target callee =>
    have hu := before.steady.trans hs
    have hc := (hgo callee.entries (u.entering .run target callee) hu).map fun _ => Value.null
    exact Minds.after before.later.undisturbed (hc.minds hu)
  | @marker u before _ sec =>
    have hu := before.steady.trans hs
    have hc := (hgo sec { u with context := { u.context with kind := .run } } hu).map
      fun _ => Value.null
    exact Minds.after before.later.undisturbed (hc.minds hu)

/-- **A leaf command** that is reached heeds cancellation. -/
theorem heeds_runCommand (command : Command) {s : State W} (hs : s.world.cancelled = false) :
    Heeds s (runCommand env inner command s).1 (runCommand env inner command s).2 := by
  obtain ⟨r, t, r', u, hr, hc, h⟩ := runCommand_concluded env inner command s
  have hstart : Undisturbed s (s.note (.dispatched command s.context)) :=
    ⟨[.dispatched command s.context], by simp, by simp [Event.halting]⟩
  have hdone := (Minds.after hstart (hr.minds ho hgo hs)).heeds command hs
  rw [h]
  cases hc with
  | same => exact hdone
  | unknown => exact hdone.logged rfl _ _ _

end Command

/-! ## Sections -/

/-- **A run of a section** that is not cancelled when it starts heeds cancellation. -/
theorem heeds_runSection {env : Env W} (ho : env.registry.Orderly) (depth : Nat) (sec : Section)
    {s : State W} (hs : s.world.cancelled = false) :
    Heeds s (runSection env depth sec s).1 (runSection env depth sec s).2 := by
  induction depth generalizing sec s with
  | zero => exact (State.Local.refl (N := anyName) s).heeds hs _
  | succ depth ih =>
    have hgo : ∀ sec s, s.world.cancelled = false →
        Heeds s (runSection env depth sec s).1 (runSection env depth sec s).2 :=
      fun sec _ => ih sec
    have h : Keeps (executor env (interpreter env depth)) (fun s => s.world.cancelled = false)
        anyName Heeds :=
      { running := id
        going := fun hs hl => hl.steady.trans hs
        loops := .inl rfl
        done := fun s => .refl s []
        passed := fun hs hl => hl.heeds hs _
        fault := fun hs hl _ => hl.heeds hs _
        join := fun hx hy => (hx.trans hy).map _
        scope := id
        leaf := fun e s _ hs => by
          rw [Meets, executor_leaf]
          exact (heeds_runCommand ho hgo _ hs).map _
        skipped := fun e s hs => (Heeds.refl s ()).logged rfl _ _ _ }
    rw [runSection_succ]
    exact (walk_meets env.host h sec (fun _ _ => trivial) false s).map _

/-- What a run says of the entry it stops at. -/
def skipping (e : Entry) : Event :=
  .logged .running .debug ("Run cancelled, skipping '" ++ e.tag ++ "'")

/-- A run that is cancelled before it starts stops at its first entry. -/
theorem runSection_of_cancelled (env : Env W) (depth : Nat) (sec : Section) {s : State W}
    (hs : s.world.cancelled = true) :
    runSection env (depth + 1) sec s =
      (.ok (), match sec with
        | [] => s
        | e :: _ => s.note (skipping e)) := by
  rw [runSection_succ]
  cases sec with
  | nil => rw [walk_nil]; rfl
  | cons e rest => rw [walk_cons_of_cancelled _ _ _ _ _ hs]; rfl

/-! ## Runs that stay cancelled -/

/-- A computation that takes no cancellation back. -/
def Run.StaysCancelled (x : Run W α) : Prop :=
  ∀ s, s.world.cancelled = true → (x s).2.world.cancelled = true

/-- An interpreter that takes no cancellation back. -/
structure Interpreter.Lasting (inner : Interpreter W) : Prop where
  runSection : ∀ sec, StaysCancelled (inner.runSection sec)
  dispatch : ∀ command, StaysCancelled (inner.dispatch command)
  install : ∀ deps, StaysCancelled (inner.install deps)

/-- Runners and installers that take no cancellation back, if what they ask for does not. -/
structure Registry.Lasting (r : Registry W) : Prop where
  extras : ∀ x, .extra x ∈ r.runners → ∀ inner : Interpreter W, inner.Lasting → ∀ command,
    StaysCancelled (x.carryOut inner command)
  installers : ∀ i, r.Installs i → ∀ inner : Interpreter W, inner.Lasting → ∀ deps,
    StaysCancelled (i.install inner deps)

theorem Registry.Orderly.lasting {r : Registry W} (h : r.Orderly) : r.Lasting where
  extras x hx inner _ command s := (h.extras x hx inner command s).cancelled
  installers i hi inner _ deps s := (h.installers i hi inner deps s).cancelled

section Lasting

variable {env : Env W} {inner : Interpreter W} (hr : env.registry.Lasting) (hinner : inner.Lasting)

include hr hinner

theorem Handled.cancelled {command : Command} {s t : State W} {r : Except Failure Value}
    (h : Handled env inner command s r t) (hs : s.world.cancelled = true) :
    t.world.cancelled = true := by
  cases h with
  | plain stays => exact stays.cancelled hs
  | extra here before => exact hr.extras _ here inner hinner command _ (before.cancelled hs)
  | installed here before deps =>
    exact hr.installers _ here inner hinner deps _ (before.cancelled hs)
  | called before => exact hinner.runSection _ _ (before.cancelled hs)
  | marker before _ sec => exact hinner.runSection sec _ (before.cancelled hs)

theorem staysCancelled_runCommand (command : Command) :
    StaysCancelled (runCommand env inner command) := fun s hs => by
  obtain ⟨r, t, r', u, hr', hc, h⟩ := runCommand_concluded env inner command s
  have ht : t.world.cancelled = true := hr'.cancelled hr hinner hs
  rw [h]
  cases hc <;> exact ht

theorem staysCancelled_installResolved (deps : List Dependency) :
    StaysCancelled (installResolved env inner deps) := by
  unfold installResolved
  split
  · exact hr.installers _ (.inl ‹_›) inner hinner deps
  · exact fun _ => id

end Lasting

/-- **A run that is cancelled** stays so, at any depth. -/
theorem lasting_interpreter {env : Env W} (hr : env.registry.Lasting) :
    ∀ depth, (interpreter env depth).Lasting
  | 0 => ⟨fun _ _ => id, fun _ _ => id, fun _ _ => id⟩
  | depth + 1 =>
    have hinner := lasting_interpreter hr depth
    { runSection := fun sec s hs => by
        change (Run.runSection env (depth + 1) sec s).2.world.cancelled = true
        rw [runSection_of_cancelled env depth sec hs]
        cases sec <;> exact hs
      dispatch := fun command s hs => by
        obtain ⟨r, t, h, hd⟩ := handled_dispatch env (interpreter env depth) command s
        change (Run.dispatch env (interpreter env depth) command s).2.world.cancelled = true
        rw [hd]
        exact h.cancelled hr hinner hs
      install := staysCancelled_installResolved hr hinner }

/-! ## Invoked paths -/

/-- The second state is the first after some messages. -/
inductive State.Told (s : State W) : State W → Prop
  | refl : Told s s
  | note {t : State W} (h : Told s t) (origin : Origin) (level : Level) (message : String) :
      Told s (t.note (.logged origin level message))

namespace State.Told

variable {s t u : State W}

theorem trans (h : Told s t) (k : Told t u) : Told s u := by
  induction k with
  | refl => exact h
  | note _ origin level message ih => exact ih.note origin level message

theorem context (h : Told s t) : t.context = s.context := by
  induction h with
  | refl => rfl
  | note _ _ _ _ ih => exact ih

theorem cancelled (h : Told s t) : t.world.cancelled = s.world.cancelled := by
  induction h with
  | refl => rfl
  | note _ _ _ _ ih => exact ih

theorem forked {c : Context} (h : Told { s with context := c } t) :
    Told s { t with context := s.context } := by
  induction h with
  | refl => exact .refl
  | note _ origin level message ih => exact ih.note origin level message

end State.Told

section Paths

variable {s : State W} (host : Host W) (hs : s.world.cancelled = true)

include hs

theorem collectNamed_of_cancelled (a : Assistant) (names : List String) :
    (collectNamed host a names s).1 = .ok [] ∧ s.Told (collectNamed host a names s).2 := by
  induction names generalizing s with
  | nil => exact ⟨rfl, .refl⟩
  | cons name rest ih =>
    rw [collectNamed]
    rcases a.sections.get? name with _ | sec
    · exact ih hs
    · let t := s.note (.logged .collecting .debug ("Resolving " ++ name ++ " of " ++ a.name))
      obtain ⟨hok, htold⟩ := ih (s := t) hs
      have ht : s.Told t := .note .refl _ _ _
      dsimp only
      rw [bind_of_ok (show log _ _ _ s = (.ok (), t) from rfl), andThen,
        bind_of_ok (dependencies_of_cancelled host sec (s := t) hs), bind_of_ok (Prod.ext hok rfl)]
      exact ⟨rfl, ht.trans htold⟩

theorem assistantDependencies_of_cancelled (a : Assistant) :
    (assistantDependencies host a s).1 = .ok [] ∧ s.Told (assistantDependencies host a s).2 := by
  rw [assistantDependencies, context_bind]
  have h := collectNamed_of_cancelled host
    (s := { s with context := { s.context with kind := .dependencies, assistant := a } }) hs a
    (dependencySections a s.context.vars)
  exact ⟨h.1, h.2.forked⟩

theorem chainDependencies_of_cancelled (chain : List Assistant) :
    (chainDependencies host chain s).1 = .ok [] ∧ s.Told (chainDependencies host chain s).2 := by
  induction chain generalizing s with
  | nil => exact ⟨rfl, .refl⟩
  | cons a rest ih =>
    obtain ⟨ha, hta⟩ := assistantDependencies_of_cancelled host hs a
    obtain ⟨hr, htr⟩ := ih (hta.cancelled.trans hs)
    rw [chainDependencies, andThen, bind_of_ok (Prod.ext ha rfl), bind_of_ok (Prod.ext hr rfl)]
    exact ⟨rfl, hta.trans htr⟩

end Paths

/-- A path that is invoked in a cancelled run installs nothing and runs nothing. -/
theorem carryOut_of_cancelled (i : Invocation) (env : Env W) {s : State W}
    (hs : s.world.cancelled = true) :
    (i.carryOut env s).1 = .ok () ∧ s.Told (i.carryOut env s).2 := by
  let t := s.note (.logged .invocation .info "Resolving dependencies...")
  obtain ⟨hok, htold⟩ := chainDependencies_of_cancelled env.host (s := t) hs i.chain
  have ht : s.Told t := .note .refl _ _ _
  have hc := htold.cancelled.trans hs
  rw [Invocation.carryOut, context_bind, bind_of_ok (show log _ _ _ s = (.ok (), t) from rfl),
    bind_of_ok (Prod.ext hok rfl), isCancelled_bind, hc]
  exact ⟨rfl, ht.trans htold⟩

/-- **Cancellation is heeded.** A run of a section that is cancelled on the way comes to nothing
behind the command that cancelled it, and fails only if that command did. In a run that is cancelled
before it starts a section does nothing, no dependencies are collected, and an invoked path ends in
the context it starts in, each after messages only. -/
theorem cancellation_heeded {env : Env W} (ho : env.registry.Orderly) (depth : Nat) (sec : Section)
    (s : State W) :
    (s.world.cancelled = false →
      Heeds s (runSection env depth sec s).1 (runSection env depth sec s).2) ∧
    (s.world.cancelled = true →
      (runSection env (depth + 1) sec s).1 = .ok () ∧
      s.Told (runSection env (depth + 1) sec s).2 ∧
      dependencies env.host sec s = (.ok [], s) ∧
      ∀ (i : Invocation) (l : Library) (base : Context) (vars ready : Vars),
        i.prepare vars = .ok ready → i.chain ≠ [] →
        ∃ c t, i.start l base vars = .ok c ∧ c.vars = ready ∧ State.Told ⟨c, s.world⟩ t ∧
          i.run env l base vars s.world = (.ok c, t.world)) := by
  refine ⟨heeds_runSection ho depth sec, fun hs => ⟨?_, ?_, dependencies_of_cancelled _ sec hs, ?_⟩⟩
  · rw [runSection_of_cancelled env depth sec hs]
  · rw [runSection_of_cancelled env depth sec hs]
    cases sec with
    | nil => exact .refl
    | cons e rest => exact .note .refl _ _ _
  · intro i l base vars ready hp hc
    let c : Context :=
      { base with vars := ready, assistant := i.chain.getLast hc, library := l }
    have hstart : i.start l base vars = .ok c := by
      rw [Invocation.start, Invocation.assistant?, List.getLast?_eq_some_getLast hc, hp]
    obtain ⟨hok, htold⟩ := carryOut_of_cancelled i env (s := ⟨c, s.world⟩) hs
    refine ⟨c, _, hstart, rfl, htold, ?_⟩
    rw [Invocation.run, hstart]
    exact Prod.ext (by simp [hok, Except.map, htold.context]) rfl

/-- A command that cancels the run in front of one that would end it with an error, in a run that is
not yet cancelled; and an invoked path in one that is. -/
theorem cancellation_heeded_watched :
    (Env.watched "").registry.Orderly ∧
      (let s : State Unit := ⟨{}, ⟨(), false, []⟩⟩
        let sec : Section := [⟨"stop", .text "now"⟩, ⟨"log_e", .text "never"⟩]
        (runSection (Env.watched "") 4 sec s).2.world.cancelled = true ∧
          Heeds s (runSection (Env.watched "") 4 sec s).1 (runSection (Env.watched "") 4 sec s).2) ∧
      (let s : State Unit := ⟨{}, ⟨(), true, []⟩⟩
        let i : Invocation := { role := "creator", chain := [{ name := "a" }] }
        i.prepare ∅ =
            .ok (.ofList [("subassistant_0", .text "creator"), ("subassistant_1", .text "a")]) ∧
          ∃ c t, i.start {} {} ∅ = .ok c ∧ State.Told ⟨c, s.world⟩ t ∧
            i.run (Env.watched "") {} {} ∅ s.world = (.ok c, t.world)) := by
  have ho := (standard_watched "").orderly
  refine ⟨ho, ⟨by decide +kernel, (cancellation_heeded ho 4 _ _).1 rfl⟩, rfl, ?_⟩
  obtain ⟨c, t, hc, -, ht, hr⟩ := ((cancellation_heeded ho 0 [] ⟨{}, ⟨(), true, []⟩⟩).2 rfl).2.2.2
    { role := "creator", chain := [{ name := "a" }] } {} {} ∅ _ rfl nofun
  exact ⟨c, t, hc, ht, hr⟩

end Scaffold
