import Scaffold.Proofs.Runners

/-!
# The bound on re-entries

`Run.runSection` recurses on a bound on how many re-entries may be nested. The bound is no part of
what a run does: one that finishes does the same under every larger bound.

* `Run.Refines x y`: where `x` does not run out of its bound, `y` does the same.

Results:
* `structural_refines`: this goes through whatever surrounds a section that is run.
* `refines_interpreter`: an interpreter refines the one with a larger bound.
* **`runSection_of_le`**: a run that finishes does not depend on the bound.
* `refines_collect`: nor does what is collected.
-/

namespace Scaffold

variable {W α β : Type}

namespace Run

/-- Where `x` does not run out of its bound, `y` does the same. -/
def Refines (x y : Run W α) : Prop := ∀ s, (x s).1 ≠ .error .exhausted → y s = x s

theorem Refines.refl (x : Run W α) : Refines x x := fun _ _ => rfl

theorem refines_exhausted (y : Run W α) : Refines exhausted y := fun _ h => absurd rfl h

theorem Refines.bind {x y : Run W α} {f g : α → Run W β} (hx : Refines x y)
    (hf : ∀ a, Refines (f a) (g a)) : Refines (x >>= f) (y >>= g) := by
  intro s hs
  rcases hxs : x s with ⟨e | a, t⟩
  · rw [bind_of_error hxs] at hs ⊢
    have hy := hx s (by rw [hxs]; exact fun h => hs (by cases h; rfl))
    rw [bind_of_error (hy.trans hxs)]
  · rw [bind_of_ok hxs] at hs ⊢
    have hy := hx s (by rw [hxs]; nofun)
    rw [bind_of_ok (hy.trans hxs)]
    exact hf a t hs

theorem Refines.between {x y : Run W α} (h : Refines x y) (push pop : Context → Context) :
    Refines (between push pop x) (between push pop y) := by
  intro s hs
  simp only [Run.between] at hs ⊢
  rw [h _ hs]

theorem Refines.forked {x y : Run W α} (h : Refines x y) (change : Context → Context) :
    Refines (forked change x) (forked change y) := by
  intro s hs
  simp only [Run.forked] at hs ⊢
  rw [h _ hs]

theorem Refines.witnessed {x y : Run W Value} (h : Refines x y) (command : Command) :
    Refines (witnessed command x) (witnessed command y) := by
  intro s hs
  simp only [Run.witnessed] at hs ⊢
  rw [h _ hs]

theorem Refines.caught {x y : Run W α} (h : Refines x y) : Refines (caught x) (caught y) := by
  intro s hs
  have hx : (x s).1 ≠ .error .exhausted := fun hend => hs <| by
    have hxs : x s = (.error .exhausted, (x s).2) := Prod.ext hend rfl
    rw [Run.caught, hxs]
  simp only [Run.caught]
  rw [h s hx]

/-- A computation refines itself, and refinement goes through whatever surrounds a section. -/
theorem structural_refines : Structural Eq fun _ : Type => Refines (W := W) where
  confined _ := .refl _
  sequence := Refines.bind
  between push pop h := h.between push pop
  forked change h := h.forked change
  witnessed command h := h.witnessed command
  apart _ _ _ h s := h s.unrecorded _
  caught h := h.caught
  consult hfaces h := by
    rw [hfaces]
    exact (Refines.refl _).bind fun _ => h _

/-! ## Sections -/

/-- **An interpreter**, from the one that carries out the re-entries. -/
theorem refines_interpreter (env : Env W) :
    ∀ depth, Interpreter.Related Eq (fun _ : Type => Refines (W := W)) (interpreter env depth)
      (interpreter env (depth + 1))
  | 0 =>
    { runSection := fun _ => refines_exhausted _
      dispatch := fun _ => refines_exhausted _
      install := fun _ => refines_exhausted _
      runners := rfl
      hasInstaller := rfl }
  | depth + 1 =>
    structural_refines.around (refines_interpreter env depth) rfl rfl fun _ =>
      structural_refines.dispatch (refines_interpreter env depth) rfl rfl

theorem refines_runSection (env : Env W) (depth : Nat) (sec : Section) :
    Refines (runSection env depth sec) (runSection env (depth + 1) sec) :=
  (refines_interpreter env depth).runSection sec

/-- **A run that finishes** does not depend on the bound. -/
theorem runSection_of_le {env : Env W} {sec : Section} {s : State W} {depth more : Nat}
    (hle : depth ≤ more) (h : (runSection env depth sec s).1 ≠ .error .exhausted) :
    runSection env more sec s = runSection env depth sec s := by
  induction hle with
  | refl => rfl
  | @step more _ ih =>
    rw [← ih]
    exact refines_runSection env more sec s (by rw [ih]; exact h)

/-! ## Collecting -/

theorem refines_dependencyLeaf {go go' : Section → Run W (List Dependency)}
    (hgo : ∀ sec, Refines (go sec) (go' sec)) (e : Entry) :
    Refines (dependencyLeaf go e) (dependencyLeaf go' e) := by
  refine (Refines.refl _).bind fun c => ?_
  split
  · exact structural_refines.called hgo _ _ _
  · exact .refl _

theorem refines_collect (host : Host W) (depth : Nat) (sec : Section) :
    Refines (collect host depth sec) (collect host (depth + 1) sec) := by
  induction depth generalizing sec with
  | zero => exact refines_exhausted _
  | succ depth ih =>
    have hleaf : ∀ e, Refines ((collector (collect host depth)).leaf e)
        ((collector (collect host (depth + 1))).leaf e) := refines_dependencyLeaf ih
    exact structural_refines.walk (fun _ => confined_pure (N := noName) (E := never) ()) hleaf sec

end Run

end Scaffold
