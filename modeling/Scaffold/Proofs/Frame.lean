import Scaffold.Proofs.Command

/-!
# The frame of a run

Sections call sections of other scripts, run sections of marker files and collect dependencies, each
on a copy of the context or with something pushed for a while. Whatever happens in between, and
whether the run fails or is cancelled, it changes only what its own section says it changes.

* A leaf command sets no variable at all: what runs on a copy is forgotten with the copy.
* So the variables that a run sets are those that its own assignments and loops write
  (`Section.written`), and every stack is back where it was.

Results:
* `Handled.frame`: one leaf command, from what the sections it runs may change.
* **`frame_of_run`**: a run of a section, and collecting its dependencies.
-/

namespace Scaffold

open Run

variable {W : Type}

/-- A state of which only the world is later. -/
theorem State.Later.frame {N : String → Prop} {s t : State W} (h : State.Later s t)
    (hc : t.context = s.context) : State.Frame N s t where
  context := hc ▸ .refl _
  cancelled := h.cancelled
  kept _ hx := hc ▸ hx
  changed x hx := absurd (congrArg (fun c => c.vars.get? x) hc) hx

section Command

variable {env : Env W} {inner : Interpreter W} (hstd : env.registry.Standard env.host)
variable (hgo : ∀ sec s, State.Frame anyName s (inner.runSection sec s).2)

include hstd hgo

/-- A command sets no variable of the section that it is a leaf of. -/
theorem Handled.frame {command : Command} {s t : State W} {r : Except Failure Value}
    (h : Handled env inner command s r t) : State.Frame noName s t := by
  cases h with
  | plain stays => exact stays.toFrame
  | @extra x u here before =>
    have hx := hstd.extras x here
    exact before.toFrame.trans ((hx.orderly inner command u).frame (hx.context inner command u))
  | @installed i u here before deps =>
    have hi := confined_install env.host (hstd.installers i here) inner deps
    exact before.toFrame.trans (hi.stays u).toFrame
  | called before => exact before.toFrame.trans (hgo _ _).forked
  | marker before _ sec => exact before.toFrame.trans (hgo sec _).forked

theorem frame_runCommand (command : Command) (s : State W) :
    State.Frame noName s (runCommand env inner command s).2 := by
  obtain ⟨r, t, r', u, hr, hc, h⟩ := runCommand_concluded env inner command s
  have hdone : State.Frame noName s (t.note (.settled command r t.world.cancelled)) :=
    (State.Frame.note s _).trans ((hr.frame hstd hgo).trans (.note t _))
  rw [h]
  cases hc with
  | same => exact hdone
  | unknown => exact hdone.trans (.note _ _)

end Command

theorem frame_runSection {env : Env W} (hstd : env.registry.Standard env.host) (depth : Nat)
    {N : String → Prop} {sec : Section} (hN : ∀ x ∈ sec.written, N x) (s : State W) :
    State.Frame N s (runSection env depth sec s).2 := by
  induction depth generalizing N sec s with
  | zero => exact .refl s
  | succ depth ih =>
    have hgo : ∀ sec s, State.Frame anyName s (runSection env depth sec s).2 :=
      fun sec s => ih (fun _ _ => trivial) s
    have h : KeepsLocal (executor env (interpreter env depth)) N fun s _ t => State.Frame N s t :=
      { step := fun hl _ => hl.toFrame
        join := .trans
        scope := .scope
        leaf := fun e s => by
          rw [Meets, executor_leaf]
          exact (frame_runCommand hstd hgo _ s).mono fun _ => False.elim
        skipped := fun _ s => .note s _ }
    rw [runSection_succ]
    exact walk_meets env.host h.keeps sec hN false s

/-- **The frame of a run.** Running a section, and collecting its dependencies, leaves all of the
context but variables and working directory as it was, takes no cancellation back, unsets no
variable, and changes only those that the section itself writes; however it ends, and whatever the
host does. -/
theorem frame_of_run {env : Env W} (hstd : env.registry.Standard env.host) (depth : Nat)
    (sec : Section) (s : State W) :
    State.Frame (· ∈ sec.written) s (runSection env depth sec s).2 ∧
      State.Frame (· ∈ sec.written) s (dependencies env.host sec s).2 :=
  ⟨frame_runSection hstd depth (fun _ => id) s,
    ((confined_dependencies env.host fun _ => id).stays s).toFrame⟩

/-- A section that sets a variable and calls another, which sets one of its own. The run and the
collecting both finish, and behind them only the variable of the first is set. -/
theorem frame_of_run_watched :
    let sec : Section := [⟨"$x", .text "$l"⟩, ⟨"call", .text "self.other"⟩]
    let other : Section := [⟨"$y", .text "$x"⟩, ⟨"rpm", .list [.text "$y"]⟩]
    let s : State Unit :=
      ⟨{ vars := .ofList [("l", .text "a b")], assistant.sections := .ofList [("other", other)] },
        ⟨(), false, []⟩⟩
    let ran := runSection (Env.watched "") 2 sec s
    let collected := dependencies (Env.watched "").host sec s
    (Env.watched "").registry.Standard (Env.watched "").host ∧
      ran.1.isOk = true ∧ ran.2.context.vars.keys = ["l", "x"] ∧
      collected.1.toOption = some [⟨"rpm", .list [.text "a b"]⟩] ∧
      collected.2.context.vars.keys = ["l", "x"] ∧
      State.Frame (· ∈ sec.written) s ran.2 ∧ State.Frame (· ∈ sec.written) s collected.2 :=
  ⟨standard_watched "", by decide +kernel, by decide +kernel, by decide +kernel, by decide +kernel,
    frame_of_run (standard_watched "") 2 _ _⟩

/-- Loops and assignments write, also inside a loop; what is called does not count. -/
example : Section.written [⟨"$x", .text "y"⟩, ⟨"call", .text "self.other"⟩,
    ⟨"for $i in $l", .list [.mapping [(.text "$a, $b", .text "c")]]⟩] = ["x", "i", "a", "b"] := by
  decide +kernel

end Scaffold
