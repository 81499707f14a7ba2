import Scaffold.Proofs.Confined
import Scaffold.Run.Walk

/-!
# Walks, one entry at a time

A walk is one recursion over nested sections. What it keeps is proved here once, for any relation
between the state before, the outcome and the state after (`Meets`), from what the relation says of
the parts: the control steps, the leaves, and how two outcomes follow each other.

* `Section.written`: the names that a section writes by assignments and loops, in its own entries
  and in the bodies of its control constructs, but not in sections that it calls.
* `Run.Keeps`: what a relation must satisfy at the parts. `Run.KeepsLocal` is what is left of it for
  a relation that holds of every control step.

Results:
* `walk_cons_of_cancelled`, `walk_cons_of_running`: a walk by its first entry.
* **`walk_meets`**: a relation that is kept at the parts is met by every walk.
-/

namespace Scaffold

variable {W α β : Type}

/-! ## The names a section writes -/

/-- The names that a tag writes: the targets of an assignment, the control variables of a loop. -/
def tagNames (tag : String) : List String :=
  match Construct.ofTag tag with
  | .assign => (Text.split ',' tag).filterMap fun part => (variableName part).toOption
  | .loop =>
    match LoopHeader.read tag with
    | .ok h => h.names
    | .error _ => []
  | _ => []

/-- The names that a section writes, in its entries and in the bodies of its control constructs. -/
def Section.written (s : Section) : List String :=
  match s with
  | [] => []
  | e :: rest =>
    let inner :=
      if (Construct.ofTag e.tag).hasBody then
        match _h : e.body with
        | .ok b => Section.written b
        | .error _ => []
      else []
    tagNames e.tag ++ inner ++ Section.written rest
termination_by Section.size s
decreasing_by
  · have := Entry.size_body_lt _h
    simp only [Section.size_cons]
    omega
  · simp only [Section.size_cons, Entry.size]
    omega

theorem Section.mem_written_of_tag {e : Entry} {x : String} (rest : Section)
    (h : x ∈ tagNames e.tag) : x ∈ Section.written (e :: rest) := by
  rw [Section.written]
  exact List.mem_append_left _ (List.mem_append_left _ h)

theorem Section.mem_written_of_body {e : Entry} {b : Section} {x : String} (rest : Section)
    (he : (Construct.ofTag e.tag).hasBody = true) (hb : e.body = .ok b)
    (h : x ∈ Section.written b) : x ∈ Section.written (e :: rest) := by
  rw [Section.written]
  refine List.mem_append_left _ (List.mem_append_right _ ?_)
  rw [if_pos he]
  split
  · rename_i b' hb'
    cases hb.symm.trans hb'
    exact h
  · rename_i x hx
    cases hb.symm.trans hx

theorem Section.mem_written_of_rest {x : String} (e : Entry) {rest : Section}
    (h : x ∈ Section.written rest) : x ∈ Section.written (e :: rest) := by
  rw [Section.written]
  exact List.mem_append_right _ h

theorem mem_tagNames_of_target {tag x : String} (ht : Construct.ofTag tag = .assign)
    (h : x ∈ Run.targetNames tag) : x ∈ tagNames tag := by
  simp only [tagNames, ht]
  unfold Run.targetNames assignedNames at h
  split at h
  · rename_i first second hn
    split at hn
    · rename_i part hs
      rcases hv : variableName part with _ | n <;> rw [hv] at hn <;> cases hn
      simpa [hs, hv, Except.toOption] using h
    · rename_i p q hs
      rcases hv : variableName p with _ | n <;> rw [hv] at hn
      · cases hn
      · rcases hw : variableName q with _ | m <;> rw [hw] at hn <;> cases hn
        simpa [hs, hv, hw, Except.toOption] using h
    · cases hn
  · cases h

namespace Run

/-! ## The equations of a walk -/

section Equations

variable (host : Host W) (p : Walker W α)

/-- The other branch of an `if`: the body of an `else` directly behind it. -/
def alternative (go : Section → Run W (List α)) :
    Section → Option (Except SyntaxError (Run W (List α)))
  | [] => none
  | f :: _ => if f.tag = "else" then some (f.body.map go) else none

theorem alternative_eq_some {go : Section → Run W (List α)} {rest : Section} {x : Run W (List α)}
    (h : alternative go rest = some (.ok x)) :
    ∃ f tail b, rest = f :: tail ∧ f.tag = "else" ∧ f.body = .ok b ∧ x = go b := by
  cases rest with
  | nil => cases h
  | cons f tail =>
    rw [alternative] at h
    split at h
    · rename_i hf
      rcases hb : f.body with _ | b <;> rw [hb] at h <;> cases h
      exact ⟨f, tail, b, rfl, hf, hb, rfl⟩
    · cases h

theorem alternative_eq_none {go : Section → Run W (List α)} {rest : Section}
    (h : ∀ f ∈ rest.head?, f.tag ≠ "else") : alternative go rest = none := by
  cases rest with
  | nil => rfl
  | cons f rest => exact if_neg (h f rfl)

theorem walk_nil (paired : Bool) : walk host p paired [] = pure [] := by rw [walk]

theorem walk_cons (paired : Bool) (e : Entry) (rest : Section) :
    walk host p paired (e :: rest) =
      (do
        if ← isCancelled then
          p.skipped e
          return []
        else
          walkEntry host p paired e (e.body.map (walk host p false))
            (alternative (walk host p false) rest) fun paired => walk host p paired rest) := by
  rw [walk.eq_def host p paired (e :: rest)]
  dsimp only
  refine congrArg _ (funext fun cancelled => ?_)
  congr 2
  · split <;> rename_i hb <;> rw [hb] <;> rfl
  · cases rest with
    | nil => rfl
    | cons f rest =>
      simp only [alternative]
      split
      · split <;> rename_i hb <;> rw [hb] <;> rfl
      · rfl

theorem walk_cons_of_cancelled (paired : Bool) (e : Entry) (rest : Section) {s : State W}
    (hs : s.world.cancelled = true) :
    walk host p paired (e :: rest) s = (do p.skipped e; return []) s := by
  rw [walk_cons, isCancelled_bind, hs]
  rfl

theorem walk_cons_of_running (paired : Bool) (e : Entry) (rest : Section) {s : State W}
    (hs : s.world.cancelled = false) :
    walk host p paired (e :: rest) s =
      walkEntry host p paired e (e.body.map (walk host p false))
        (alternative (walk host p false) rest) (fun paired => walk host p paired rest) s := by
  rw [walk_cons, isCancelled_bind, hs]
  rfl

theorem walk_cons_of_command (paired : Bool) {e : Entry} (rest : Section) {s : State W}
    (he : Construct.ofTag e.tag = .command) (hs : s.world.cancelled = false) :
    walk host p paired (e :: rest) s = andThen (p.leaf e) (walk host p paired rest) s := by
  rw [walk_cons_of_running host p paired e rest hs]
  unfold walkEntry
  rw [he]

end Equations

/-! ## The names a loop binds -/

theorem names_of_rounds {h : LoopHeader} {v : Value} {bs : List Bindings}
    (hb : h.rounds v = .ok bs) : ∀ b ∈ bs, ∀ x ∈ b, x.1 ∈ h.names := by
  intro b hbs x hx
  unfold LoopHeader.rounds at hb
  unfold LoopHeader.names
  split at hb
  · rename_i second hs
    split at hb
    · cases hb
      obtain ⟨e, -, rfl⟩ := List.mem_map.mp hbs
      rw [hs]
      rcases List.mem_cons.mp hx with rfl | hx
      · exact List.mem_cons_self
      · rw [List.mem_singleton.mp hx]
        exact List.mem_cons_of_mem _ List.mem_cons_self
    · cases hb
  · split at hb <;> cases hb
    · obtain ⟨w, -, rfl⟩ := List.mem_map.mp hbs
      rw [List.mem_singleton.mp hx]
      exact List.mem_cons_self
    · obtain ⟨w, -, rfl⟩ := List.mem_map.mp hbs
      rw [List.mem_singleton.mp hx]
      exact List.mem_cons_self
    · cases hbs

/-- A loop binds the control variables of its header. -/
theorem names_of_expandLoop {host : Host W} {tag : String} {s t : State W} {bs : List Bindings}
    (ht : Construct.ofTag tag = .loop) (hx : expandLoop host tag s = (.ok bs, t)) :
    ∀ b ∈ bs, ∀ x ∈ b, x.1 ∈ tagNames tag := by
  simp only [tagNames, ht]
  unfold expandLoop at hx
  rcases hh : LoopHeader.read tag with e | h <;> rw [hh] at hx
  · cases hx
  · rw [bind_of_ok (show ofSyntax (.ok h) s = (.ok h, s) from rfl)] at hx
    rcases hv : evaluate host (.text h.expression) s with ⟨e | r, u⟩
    · rw [bind_of_error hv] at hx
      cases hx
    · rw [bind_of_ok hv] at hx
      rcases hr : h.rounds r.value with e | bs' <;> rw [hr] at hx <;> cases hx
      exact names_of_rounds hr

/-! ## Relations on outcomes -/

/-- A relation between a state, how a walk from it ended, and the state it ended in. -/
abbrev Outcome (W α : Type) := State W → Except Failure (List α) → State W → Prop

/-- The run of `x` from `s` satisfies the relation. -/
def Meets (G : Outcome W α) (x : Run W (List α)) (s : State W) : Prop := G s (x s).1 (x s).2

/-- What a relation on outcomes must satisfy at the parts of a walk. `ready` holds where the walk
goes on, and `N` of the names it may write. -/
structure Keeps (p : Walker W α) (ready : State W → Prop) (N : String → Prop) (G : Outcome W α) :
    Prop where
  /-- A walk goes on where it is not cancelled. -/
  running : ∀ {s}, s.world.cancelled = false → ready s
  /-- Control steps do not end a walk. -/
  going : ∀ {s t}, ready s → State.Local N s t → ready t
  /-- Rounds of a loop follow each other only where the walk goes on. -/
  loops : p.stopsLoops = true ∨ ∀ s, ready s
  done : ∀ s, G s (.ok []) s
  /-- A control step gives nothing. -/
  passed : ∀ {s t}, ready s → State.Local N s t → G s (.ok []) t
  /-- A control step may fail. -/
  fault : ∀ {s t f}, ready s → State.Local N s t → f.IsSyntax → G s (.error f) t
  /-- One part of a walk may follow another. -/
  join : ∀ {s t u a r}, G s (.ok a) t → G t r u → G s (r.map (a ++ ·)) u
  scope : ∀ {s t r labels}, G (s.inScope labels) r t → G s r t.outScope
  leaf : ∀ e s, Construct.ofTag e.tag = .command → ready s → Meets G (p.leaf e) s
  skipped : ∀ e s, s.world.cancelled = true → Meets G (do p.skipped e; return []) s

/-- What is left of it for a relation that holds of everything local. -/
structure KeepsLocal (p : Walker W α) (N : String → Prop) (G : Outcome W α) : Prop where
  /-- A control step gives something of no matter, or fails for what is wrong with its text. -/
  step : ∀ {s t r}, State.Local N s t → (∀ f, r = .error f → f.IsSyntax) → G s r t
  join : ∀ {s t u a r}, G s (.ok a) t → G t r u → G s (r.map (a ++ ·)) u
  scope : ∀ {s t r labels}, G (s.inScope labels) r t → G s r t.outScope
  leaf : ∀ e s, Meets G (p.leaf e) s
  skipped : ∀ e s, Meets G (do p.skipped e; return []) s

theorem KeepsLocal.keeps {p : Walker W α} {N : String → Prop} {G : Outcome W α}
    (h : KeepsLocal p N G) : Keeps p (fun _ => True) N G where
  running _ := trivial
  going _ _ := trivial
  loops := .inr fun _ => trivial
  done s := h.step (.refl s) nofun
  passed _ hl := h.step hl nofun
  fault _ hl hf := h.step hl fun _ he => by cases he; exact hf
  join := h.join
  scope := h.scope
  leaf e s _ _ := h.leaf e s
  skipped e s _ := h.skipped e s

namespace Keeps

variable {p : Walker W α} {ready : State W → Prop} {N : String → Prop} {G : Outcome W α}
variable (h : Keeps p ready N G) {s : State W}

include h

/-- Something may follow a control step. -/
theorem control {t u : State W} {r : Except Failure (List α)} (hs : ready s)
    (hl : State.Local N s t) (hr : G t r u) : G s r u := by
  have hj := h.join (h.passed hs hl) hr
  cases r <;> exact hj

theorem meets_bind {x : Run W β} {f : β → Run W (List α)} (hs : ready s)
    (hx : Confined N Failure.IsSyntax x)
    (hf : ∀ a t, x s = (.ok a, t) → ready t → Meets G (f a) t) : Meets G (x >>= f) s := by
  have hl := hx.stays s
  rcases hxs : x s with ⟨e | a, t⟩ <;> rw [hxs] at hl
  · have he := hx.errs s e (by rw [hxs])
    rw [Meets, bind_of_error hxs]
    exact h.fault hs hl he
  · rw [Meets, bind_of_ok hxs]
    exact h.control hs hl (hf a t hxs (h.going hs hl))

theorem meets_fail (hs : ready s) (e : SyntaxError) : Meets G (fail (.syntaxFault e)) s :=
  h.fault hs (.refl s) trivial

/-- What is given so far, and what is given behind it. -/
theorem join_append {t : State W} {a : List α} {y : Run W (List α)} (ha : G s (.ok a) t)
    (hy : Meets G y t) :
    G s (((do return a ++ (← y)) : Run W (List α)) t).1
      (((do return a ++ (← y)) : Run W (List α)) t).2 := by
  have hj := h.join ha hy
  rcases hyt : y t with ⟨e | b, u⟩ <;> rw [hyt] at hj
  · rw [bind_of_error hyt]
    exact hj
  · rw [bind_of_ok hyt]
    exact hj

theorem meets_andThen {x y : Run W (List α)} (hx : Meets G x s) (hy : ∀ t, Meets G y t) :
    Meets G (andThen x y) s := by
  rw [Meets] at hx
  rcases hxs : x s with ⟨e | a, t⟩ <;> rw [hxs] at hx
  · rw [Meets, andThen, bind_of_error hxs]
    exact hx
  · rw [Meets, andThen, bind_of_ok hxs]
    exact h.join_append hx (hy t)

/-- The rounds of a loop, from what one round keeps. -/
theorem meets_rounds {body : Run W (List α)} (hbody : ∀ t, Meets G body t) :
    ∀ {bs : List Bindings} {s : State W}, (∀ b ∈ bs, ∀ v ∈ b, N v.1) → ready s →
      Meets G (rounds p.stopsLoops body bs) s
  | [], s, _, _ => h.done s
  | b :: bs, s, hbs, hs => by
    have hrest : ∀ {t}, ready t → Meets G (rounds p.stopsLoops body bs) t := fun ht =>
      meets_rounds hbody (fun b hb => hbs b (List.mem_cons_of_mem _ hb)) ht
    rw [rounds]
    have hbind : Confined N never (bindAll b : Run W Unit) :=
      confined_bindAll (hbs b List.mem_cons_self)
    refine h.meets_bind hs hbind.anyFailure fun _ t _ _ => ?_
    have hx := hbody t
    rw [Meets] at hx
    rcases hxt : body t with ⟨e | a, u⟩ <;> rw [hxt] at hx
    · rw [Meets, bind_of_error hxt]
      exact hx
    · rw [Meets, bind_of_ok hxt, isCancelled_bind]
      split
      · exact hx
      · rename_i hstop
        have hu : ready u := by
          rcases h.loops with hl | hl
          · refine h.running ?_
            simpa [hl] using hstop
          · exact hl u
        exact h.join_append hx (hrest hu)

variable {host : Host W}

/-- One entry, from what its bodies and the rest of the walk keep. -/
theorem meets_walkEntry {paired : Bool} {e : Entry} {body : Except SyntaxError (Run W (List α))}
    {other : Option (Except SyntaxError (Run W (List α)))} {next : Bool → Run W (List α)}
    (hN : ∀ x ∈ tagNames e.tag, N x)
    (hbody : (Construct.ofTag e.tag).hasBody = true → ∀ x, body = .ok x → ∀ t, Meets G x t)
    (hother : ∀ x, other = some (.ok x) → ∀ t, Meets G x t) (hnext : ∀ b t, Meets G (next b) t)
    (hs : ready s) : Meets G (walkEntry host p paired e body other next) s := by
  unfold walkEntry
  cases hc : Construct.ofTag e.tag with
  | assign =>
    exact h.meets_bind hs (confined_assign host (fun x hx => hN x (mem_tagNames_of_target hc hx)) _)
      fun _ t _ _ => hnext paired t
  | cond =>
    refine h.meets_bind hs (confined_condition host _).anyName fun holds t _ ht => ?_
    split
    · refine h.meets_andThen ?_ (hnext _)
      cases body with
      | ok x => exact hbody (by rw [hc]; rfl) x rfl t
      | error x => exact h.meets_fail ht x
    · cases other with
      | none => exact hnext false t
      | some alternative =>
        refine h.meets_andThen ?_ (hnext true)
        cases alternative with
        | ok x => exact hother x rfl t
        | error x => exact h.meets_fail ht x
  | otherwise =>
    dsimp only
    split
    · exact h.meets_bind hs (confined_log _ _ _) fun _ t _ _ => hnext false t
    · exact hnext false s
  | loop =>
    cases body with
    | error x => exact h.meets_fail hs x
    | ok x =>
      refine h.meets_bind hs (confined_expandLoop host _).anyName fun bs t hbs ht => ?_
      have hround := hbody (by rw [hc]; rfl) x rfl
      refine h.meets_andThen (h.meets_rounds hround (fun b hb v hv => ?_) ht) (hnext paired)
      exact hN _ (names_of_expandLoop hc hbs b hb v hv)
  | scope =>
    cases body with
    | error x => exact h.meets_fail hs x
    | ok x => exact h.meets_andThen (h.scope (hbody (by rw [hc]; rfl) x rfl _)) (hnext paired)
  | command => exact h.meets_andThen (h.leaf e s hc hs) (hnext paired)

end Keeps

/-- **A walk keeps** what its control steps and its leaves keep. The induction is on the nesting
measure of the section, which covers the bodies as well as the rest. -/
theorem walk_meets {p : Walker W α} {ready : State W → Prop} {N : String → Prop} {G : Outcome W α}
    (host : Host W) (h : Keeps p ready N G) (sec : Section) (hN : ∀ x ∈ sec.written, N x)
    (paired : Bool) (s : State W) : Meets G (walk host p paired sec) s := by
  match sec with
  | [] =>
    rw [walk_nil]
    exact h.done s
  | e :: rest =>
    cases hs : s.world.cancelled with
    | true =>
      rw [Meets, walk_cons_of_cancelled host p paired e rest hs]
      exact h.skipped e s hs
    | false =>
      rw [Meets, walk_cons_of_running host p paired e rest hs]
      refine h.meets_walkEntry (fun x hx => hN x (Section.mem_written_of_tag rest hx)) ?_ ?_
        (fun b t =>
          walk_meets host h rest (fun x hx => hN x (Section.mem_written_of_rest e hx)) b t)
        (h.running hs)
      · intro he x hx t
        rcases hb : e.body with _ | b <;> rw [hb] at hx <;> cases hx
        exact walk_meets host h b
          (fun x hx => hN x (Section.mem_written_of_body rest he hb hx)) false t
      · intro x hx t
        obtain ⟨f, tail, b, hr, hf, hb, rfl⟩ := alternative_eq_some hx
        refine walk_meets host h b (fun x hx => hN x (Section.mem_written_of_rest e ?_)) false t
        rw [hr]
        exact Section.mem_written_of_body tail (by rw [hf]; decide) hb hx
termination_by Section.size sec
decreasing_by
  · have := Entry.size_body_lt hb
    simp only [Section.size_cons]
    omega
  · have := Entry.size_body_lt hb
    simp only [hr, Section.size_cons]
    omega
  · simp only [Section.size_cons, Entry.size]
    omega

end Run

end Scaffold
