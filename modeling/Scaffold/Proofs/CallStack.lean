import Scaffold.Proofs.Frame

/-!
# The stacks of a run

A context has a stack of calls, a stack of files and a stack of scopes, pushed in different places:
a call by whoever enters a section, its files only where the section is one of a snippet, labels by
the walk. Where a leaf command is dispatched, at whatever depth, they still fit together.

* `Context.Reaches c d`: the contexts `d` that leaf commands may see in a run that starts in `c`.
  The stack of calls has grown by some targets, the stack of files by those of the snippets that
  these targets name, and the rest is only pushed on or the same.

Results:
* `Context.Reaches.of_entering`: a call that there is room for.
* **`dispatches_runSection`**: every leaf command of a run is dispatched in a context that is
  reached from the one it starts in.
* **`call_stack_bounded`**: the same together with what a call does: it enters the section it names,
  unless there is none, or there are `maxCalls` calls already.
-/

namespace Scaffold

open Run

variable {W α : Type}

/-! ## Targets -/

/-- The script that a target names. -/
def targetScript (target : String) : String := (callTarget .run target).1

/-- The files that come with a target: those of the snippet it names. -/
def Library.targetFiles? (l : Library) (target : String) : Option FileTable :=
  if targetScript target = "self" then none
  else (l.snippet? (targetScript target)).map Snippet.fileTable

theorem callTarget_fst (kind : SectionKind) (target : String) :
    (callTarget kind target).1 = targetScript target := by
  unfold targetScript callTarget
  cases Text.splitFirst? '.' target <;> rfl

/-- The files of a section that is found are those of its target. -/
theorem files_of_resolve {c : Context} {kind : SectionKind} {target : String} {callee : Callee}
    (h : c.resolve? kind target = some callee) :
    callee.files = c.library.targetFiles? target := by
  unfold Context.resolve? at h
  dsimp only at h
  rw [callTarget_fst] at h
  unfold Library.targetFiles?
  split at h
  · rename_i hself
    rw [if_pos hself]
    obtain ⟨entries, -, rfl⟩ := Option.map_eq_some_iff.mp h
    rfl
  · rename_i hself
    rw [if_neg hself]
    obtain ⟨snippet, hsn, hs⟩ := Option.bind_eq_some_iff.mp h
    obtain ⟨entries, -, rfl⟩ := Option.map_eq_some_iff.mp hs
    rw [hsn]
    rfl

theorem resolve_congr {c d : Context} {kind : SectionKind} {target : String}
    (assistant : d.assistant = c.assistant) (library : d.library = c.library) :
    d.resolve? kind target = c.resolve? kind target := by
  unfold Context.resolve?
  rw [assistant, library]

/-! ## Contexts that are reached -/

/-- The contexts that leaf commands may see in a run that starts in `c`. -/
structure Context.Reaches (c d : Context) : Prop where
  grown : ∃ targets : List String, d.calls = c.calls ++ targets ∧
    d.files = c.files ++ targets.filterMap c.library.targetFiles? ∧
    ∀ target ∈ targets, (c.resolve? .run target).isSome = true
  bounded : d.calls.length ≤ max maxCalls c.calls.length
  scopes : c.scopes <+: d.scopes
  assistant : d.assistant = c.assistant
  library : d.library = c.library
  interpreter : d.interpreter = c.interpreter

namespace Context.Reaches

variable {c d e : Context}

theorem refl (c : Context) : c.Reaches c where
  grown := ⟨[], by simp⟩
  bounded := Nat.le_max_right _ _
  scopes := List.prefix_rfl
  assistant := rfl
  library := rfl
  interpreter := rfl

/-- Only the stacks, the scripts and the interpreter of the start matter, and labels may have been
pushed there. -/
theorem of_same (calls : d.calls = c.calls) (files : d.files = c.files)
    (scopes : c.scopes <+: d.scopes) (assistant : d.assistant = c.assistant)
    (library : d.library = c.library) (interpreter : d.interpreter = c.interpreter)
    (h : d.Reaches e) : c.Reaches e where
  grown := by
    obtain ⟨targets, hcalls, hfiles, hres⟩ := h.grown
    rw [calls] at hcalls
    rw [files, library] at hfiles
    exact ⟨targets, hcalls, hfiles, fun t ht => resolve_congr assistant library ▸ hres t ht⟩
  bounded := calls ▸ h.bounded
  scopes := scopes.trans h.scopes
  assistant := h.assistant.trans assistant
  library := h.library.trans library
  interpreter := h.interpreter.trans interpreter

theorem of_aligned (h : c.Aligned d) (hr : d.Reaches e) : c.Reaches e :=
  hr.of_same h.calls h.files (h.scopes ▸ List.prefix_rfl) h.assistant h.library h.interpreter

/-- **A call** that there is room for. -/
theorem of_entering {target : String} {callee : Callee}
    (hc : c.resolve? .run target = some callee) (hroom : c.calls.length < maxCalls)
    (h : (c.entering .run target callee).Reaches d) : c.Reaches d where
  grown := by
    obtain ⟨targets, hcalls, hfiles, hres⟩ := h.grown
    refine ⟨target :: targets, ?_, ?_, fun t ht => ?_⟩
    · rw [hcalls, Context.entering, List.append_assoc]
      rfl
    · rw [hfiles, Context.entering, List.append_assoc, files_of_resolve hc, List.filterMap_cons]
      cases c.library.targetFiles? target <;> rfl
    · rcases List.mem_cons.mp ht with rfl | ht
      · rw [hc]
        rfl
      · exact hres t ht
  bounded := by
    have := h.bounded
    simp only [Context.entering, List.length_append, List.length_singleton] at this
    omega
  scopes := h.scopes
  assistant := h.assistant
  library := h.library
  interpreter := h.interpreter

end Context.Reaches

/-! ## Runs -/

/-- From one state to another, leaf commands were dispatched in reached contexts only. -/
def Dispatches (s t : State W) : Prop :=
  ∃ new, t.world.history = s.world.history ++ new ∧
    ∀ command c, .dispatched command c ∈ new → s.context.Reaches c

theorem State.Later.dispatches {s t : State W} (h : State.Later s t) : Dispatches s t := by
  obtain ⟨new, hn, hd⟩ := h.events
  exact ⟨new, hn, fun command c hc => nomatch hd _ hc⟩

namespace Dispatches

variable {s t u : State W}

theorem trans (h : Dispatches s t) (ha : s.context.Aligned t.context) (k : Dispatches t u) :
    Dispatches s u := by
  obtain ⟨a, hna, hda⟩ := h
  obtain ⟨b, hnb, hdb⟩ := k
  refine ⟨a ++ b, by rw [hnb, hna, List.append_assoc], fun command c hc => ?_⟩
  rcases List.mem_append.mp hc with hc | hc
  · exact hda command c hc
  · exact (hdb command c hc).of_aligned ha

/-- A run in a context from which less is reached. -/
theorem imp (h : Dispatches s t) (hw : s.world = u.world)
    (hr : ∀ c, s.context.Reaches c → u.context.Reaches c) : Dispatches u t := by
  obtain ⟨new, hn, hd⟩ := h
  exact ⟨new, hw ▸ hn, fun command c hc => hr c (hd command c hc)⟩

end Dispatches

section Command

variable {env : Env W} {inner : Interpreter W} (hstd : env.registry.Standard env.host)
variable (hframe : ∀ sec s, State.Frame anyName s (inner.runSection sec s).2)
variable (hgo : ∀ sec s, Dispatches s (inner.runSection sec s).2)

include hstd hgo

theorem Handled.dispatches {command : Command} {s t : State W} {r : Except Failure Value}
    (h : Handled env inner command s r t) : Dispatches s t := by
  have horderly := hstd.orderly
  cases h with
  | plain stays => exact stays.later.dispatches
  | @extra x u here before =>
    exact before.later.dispatches.trans before.context
      (horderly.extras x here inner command u).dispatches
  | @installed i u here before deps =>
    exact before.later.dispatches.trans before.context
      (horderly.installers i here inner deps u).dispatches
  | @called u before target callee here room =>
    have hc : Dispatches u (inner.runSection callee.entries (u.entering .run target callee)).2 :=
      (hgo callee.entries _).imp rfl fun _ => .of_entering here room
    exact before.later.dispatches.trans before.context hc
  | @marker u before _ sec =>
    have hc : Dispatches u
        (inner.runSection sec { u with context := { u.context with kind := .run } }).2 :=
      (hgo sec _).imp rfl fun _ => .of_same rfl rfl List.prefix_rfl rfl rfl rfl
    exact before.later.dispatches.trans before.context hc

include hframe

theorem dispatches_runCommand (command : Command) (s : State W) :
    Dispatches s (runCommand env inner command s).2 := by
  obtain ⟨r, t, r', u, hr, hc, h⟩ := runCommand_concluded env inner command s
  have hstart : Dispatches s (s.note (.dispatched command s.context)) := by
    refine ⟨[.dispatched command s.context], by simp, fun command' c hc => ?_⟩
    cases List.mem_singleton.mp hc
    exact .refl _
  have hrun : Dispatches s t := hstart.trans (.refl _) (hr.dispatches hstd hgo)
  have ht : s.context.Aligned t.context := (hr.frame hstd hframe).context
  have hdone : Dispatches s (t.note (.settled command r t.world.cancelled)) := by
    refine hrun.trans ht ⟨[.settled command r t.world.cancelled], by simp, fun _ _ hc => ?_⟩
    cases List.mem_singleton.mp hc
  rw [h]
  cases hc with
  | same => exact hdone
  | unknown => exact hdone.trans ht (State.Local.note (N := anyName) _ rfl).later.dispatches

end Command

/-- **Every leaf command** of a run is dispatched in a context that is reached. The induction is on
the bound on nested runs, and a walk reaches what its leaves do. -/
theorem dispatches_runSection {env : Env W} (hstd : env.registry.Standard env.host) (depth : Nat)
    (sec : Section) (s : State W) : Dispatches s (runSection env depth sec s).2 := by
  induction depth generalizing sec s with
  | zero => exact (State.Local.refl (N := anyName) s).later.dispatches
  | succ depth ih =>
    have hframe : ∀ sec s, State.Frame anyName s (runSection env depth sec s).2 :=
      fun sec s => frame_runSection hstd depth (fun _ _ => trivial) s
    have h : KeepsLocal (executor env (interpreter env depth)) anyName
        fun s _ t => s.context.Aligned t.context ∧ Dispatches s t :=
      { step := fun hl _ => ⟨hl.context, hl.later.dispatches⟩
        join := fun hx hy => ⟨hx.1.trans hy.1, hx.2.trans hx.1 hy.2⟩
        scope := fun hg => ⟨State.aligned_outScope hg.1, hg.2.imp rfl fun _ =>
          .of_same rfl rfl (List.prefix_append _ _) rfl rfl rfl⟩
        leaf := fun e s => by
          rw [Meets, executor_leaf]
          exact ⟨(frame_runCommand hstd hframe _ s).context,
            dispatches_runCommand hstd hframe ih _ s⟩
        skipped := fun e s =>
          ⟨.refl _, (State.Local.note (N := anyName) s rfl).later.dispatches⟩ }
    rw [runSection_succ]
    exact (walk_meets env.host h.keeps sec (fun _ _ => trivial) false s).2

/-- **The stacks of a run.** Where a leaf command is dispatched, at whatever depth, the stack of
calls has grown by targets that are found, to no more than `maxCalls` if it was not longer before,
the stack of files by the files of the snippets among them, the scopes have only been pushed on, and
assistant, library and interpreter are the same. A call of a section that is found is refused
exactly where there are `maxCalls` calls already, in the state it was made in; else the section is
entered. A call that names none is a warning. -/
theorem call_stack_bounded {env : Env W} (hstd : env.registry.Standard env.host) (depth : Nat)
    (sec : Section) (s : State W) :
    (∃ new, (runSection env depth sec s).2.world.history = s.world.history ++ new ∧
      ∀ command c, .dispatched command c ∈ new → s.context.Reaches c) ∧
    ∀ (kind : SectionKind) (target : String) (go : Section → Run W α) (otherwise : α) (t : State W),
      (t.context.resolve? kind target = none →
        called kind target go otherwise t = (.ok otherwise, t.note (missingCallee kind target))) ∧
      ∀ callee, t.context.resolve? kind target = some callee →
        (maxCalls ≤ t.context.calls.length →
          called kind target go otherwise t = (.error (tooDeep t.context.calls target), t)) ∧
        (t.context.calls.length < maxCalls →
          called kind target go otherwise t =
            ((go callee.entries (t.entering kind target callee)).1,
              { (go callee.entries (t.entering kind target callee)).2 with
                context := t.context })) :=
  ⟨dispatches_runSection hstd depth sec s, fun _ _ _ _ _ =>
    ⟨called_of_missing, fun _ hc => ⟨called_of_deep hc, called_of_callee hc⟩⟩⟩

/-- A section that calls itself, and the call of it that is one too many. -/
theorem call_stack_bounded_watched :
    (Env.watched "").registry.Standard (Env.watched "").host ∧
      (let sec : Section := [⟨"call", .text "self.x"⟩]
        let a : Assistant := { sections := .ofList [("x", sec)] }
        let s : State Unit := ⟨{ assistant := a }, ⟨(), false, []⟩⟩
        let t : State Unit :=
          ⟨{ assistant := a, calls := List.replicate 64 "self.x" }, ⟨(), false, []⟩⟩
        (∃ new, (runSection (Env.watched "") 80 sec s).2.world.history = s.world.history ++ new ∧
          ∀ command c, .dispatched command c ∈ new → s.context.Reaches c) ∧
        t.context.resolve? .run "self.x" = some ⟨sec, none⟩ ∧ maxCalls ≤ t.context.calls.length ∧
        called .run "self.x" (runSection (Env.watched "") 80) () t =
          (.error (tooDeep t.context.calls "self.x"), t)) := by
  have h := fun s => call_stack_bounded (α := Unit) (standard_watched "") 80
    [⟨"call", .text "self.x"⟩] s
  exact ⟨standard_watched "", (h _).1, rfl, by decide,
    (((h ⟨{}, ⟨(), false, []⟩⟩).2 .run "self.x" _ () _).2 _ rfl).1 (by decide)⟩

end Scaffold
