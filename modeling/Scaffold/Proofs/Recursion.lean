import Mathlib.Data.Prod.Lex
import Scaffold.Proofs.Bound
import Scaffold.Proofs.Command

/-!
# How collecting recurses

Collecting the dependencies of a section recurses in two ways: into the bodies of its control
constructs, and into the sections that it calls. A body is nested less deep than the section that it
is in, and a call leaves room for one call less, so the recursion goes down in the lexicographic
order of the two, however often a loop repeats its body and whatever sections call each other.

* `Run.collectStep`: one pass over the entries of a section, in which a given function stands for
  both ways to recurse.
* `Run.Lower`: the order in which the recursion goes down.
* `Run.collectFreely`: collecting where calls are nested without a limit, to a given depth.

Results:
* `dependencies_eq_step`: collecting is a pass in which it recurses into itself, without any bound.
* `collectStep_congr`: a pass recurses only into what is lower.
* **`eq_dependencies_of_step`**: so no other function recurses like this.
* `limited_dependencies`: the limit on calls shows only where calls are nested too deep.
* **`collecting_ends`**: collecting ends, with packages or with an error.
-/

namespace Scaffold

variable {W α β γ : Type}

namespace Run

section Collecting

variable (host : Host W)

/-! ## One pass over a section -/

/-- A pass over the entries of a section; `go` collects the bodies of the entries, and the sections
that they call. -/
def collectStep (go : Section → Run W (List Dependency)) (paired : Bool) :
    Section → Run W (List Dependency)
  | [] => pure []
  | e :: rest =>
    reached (collector go) e
      (walkEntry host (collector go) paired e (e.body.map go) (alternative go rest)
        fun paired => collectStep go paired rest)

/-- Inside a call, the bound that is left is large enough. -/
theorem collect_of_called {sec : Section} {s : State W} (h : s.context.calls ≠ []) :
    dependencies host sec s = collect host maxCalls sec s := by
  refine refines_collect host maxCalls sec s fun hexhausted => ?_
  have hpos := List.length_pos_iff.mpr h
  rcases (local_collect (N := anyName) host maxCalls (fun _ _ => trivial) s).2 _ hexhausted with
    hf | ⟨-, hroom⟩
  · exact hf.ne_exhausted rfl
  · have hmax : 0 < maxCalls := by decide
    omega

/-- What is called is collected without a bound. -/
theorem dependencyLeaf_collect :
    dependencyLeaf (collect host maxCalls) = dependencyLeaf (dependencies host) := by
  funext e s
  rw [dependencyLeaf, dependencyLeaf, context_bind, context_bind]
  split
  · rcases hr : s.context.resolve? .dependencies (s.context.format e.argument.render) with
      _ | callee
    · rw [called_of_missing hr, called_of_missing hr]
    · rcases Nat.lt_or_ge s.context.calls.length maxCalls with hd | hd
      · rw [called_of_callee hr hd, called_of_callee hr hd, collect_of_called]
        simp [State.entering, Context.entering]
      · rw [called_of_deep hr hd, called_of_deep hr hd]
  · rfl

theorem dependencies_eq_walk (sec : Section) :
    dependencies host sec = walk host (collector (dependencies host)) false sec := by
  have hcollector : collector (collect host maxCalls) = collector (dependencies host) := by
    rw [collector, collector, dependencyLeaf_collect]
  rw [← hcollector]
  rfl

/-- **Collecting** is a pass over the entries that recurses into collecting, without a bound. -/
theorem dependencies_eq_step (sec : Section) :
    dependencies host sec = collectStep host (dependencies host) false sec := by
  have hwalk : walk host (collector (dependencies host)) false = dependencies host :=
    funext fun sec => (dependencies_eq_walk host sec).symm
  have hstep : ∀ sec paired, walk host (collector (dependencies host)) paired sec =
      collectStep host (dependencies host) paired sec := by
    intro sec
    induction sec with
    | nil => exact fun paired => walk_nil host _ paired
    | cons e rest ih =>
      intro paired
      rw [walk_cons_reached, hwalk, funext ih, collectStep]
  rw [dependencies_eq_walk, hstep]

/-! ## The order in which it goes down -/

/-- Collecting `b` from `t` is lower than collecting `sec` from `s`: there is room for fewer calls,
or for as many, and the section is nested less. -/
def Lower (t : State W) (b : Section) (s : State W) (sec : Section) : Prop :=
  Prod.Lex (· < ·) (· < ·)
    (maxCalls - t.context.calls.length, Section.size b)
    (maxCalls - s.context.calls.length, Section.size sec)

theorem wellFounded_lower :
    WellFounded fun p q : State W × Section => Lower p.1 p.2 q.1 q.2 :=
  InvImage.wf (fun p : State W × Section => (maxCalls - p.1.context.calls.length, Section.size p.2))
    (WellFounded.prod_lex Nat.lt_wfRel.wf Nat.lt_wfRel.wf)

/-- Collecting that leaves the stack of calls as it was. -/
def KeepsCalls (go : Section → Run W (List Dependency)) : Prop :=
  ∀ sec s, (go sec s).2.context.calls = s.context.calls

theorem keepsCalls_dependencies : KeepsCalls (dependencies host) := fun sec s =>
  have hlocal : Confined anyName Failure.Ordinary (dependencies host sec) :=
    confined_dependencies host fun _ _ => trivial
  (hlocal.stays s).context.calls

end Collecting

/-- With `n` calls on the stack, two computations do the same and leave `n` calls there, or they
fail, with failures that `Q` relates. -/
def SameAt (n : Nat) (Q : Failure → Failure → Prop) (x y : Run W α) : Prop :=
  ∀ s, s.context.calls.length = n →
    (∃ f g, Q f g ∧ (x s).1 = .error f ∧ (y s).1 = .error g) ∨
      y s = x s ∧ (x s).2.context.calls.length = n

section SameAt

variable {n : Nat} {Q : Failure → Failure → Prop}

theorem sameAt_of_confined {N : String → Prop} {E : Failure → Prop} {x : Run W α}
    (h : Confined N E x) : SameAt n Q x x :=
  fun s hs => .inr ⟨rfl, by rw [(h.stays s).context.calls, hs]⟩

theorem SameAt.bind {x y : Run W α} {f g : α → Run W β} (hx : SameAt n Q x y)
    (hf : ∀ a, SameAt n Q (f a) (g a)) : SameAt n Q (x >>= f) (y >>= g) := by
  intro s hs
  rcases h : x s with ⟨r, t⟩
  rcases h' : y s with ⟨r', t'⟩
  have hxs := hx s hs
  rw [h, h'] at hxs
  rcases hxs with ⟨e, e', hQ, rfl, rfl⟩ | ⟨hsame, hn⟩
  · rw [bind_of_error h, bind_of_error h']
    exact .inl ⟨e, e', hQ, rfl, rfl⟩
  · cases hsame
    cases r with
    | error e =>
      rw [bind_of_error h, bind_of_error h']
      exact .inr ⟨rfl, hn⟩
    | ok a =>
      rw [bind_of_ok h, bind_of_ok h']
      exact hf a t hn

theorem sameAt_pure (a : α) : SameAt n Q (pure a : Run W α) (pure a) := fun _ hs => .inr ⟨rfl, hs⟩

theorem SameAt.withScope {x y : Run W α} (h : SameAt n Q x y) (labels : List String) :
    SameAt n Q (withScope labels x) (withScope labels y) := by
  intro s hs
  refine (h (s.inScope labels) hs).imp id fun ⟨hsame, hn⟩ => ⟨?_, hn⟩
  change ((y (s.inScope labels)).1, (y (s.inScope labels)).2.outScope) = _
  rw [hsame]
  rfl

theorem compositional_sameAt : Compositional fun _ : Type => SameAt (W := W) n Q where
  value := sameAt_pure
  sequence := SameAt.bind
  scope labels h := h.withScope labels
  bindings b :=
    have hbind : Confined anyName never (bindAll b : Run W Unit) :=
      confined_bindAll fun _ _ => trivial
    sameAt_of_confined hbind
  cancelled _ hs := .inr ⟨rfl, hs⟩
  message _ _ _ _ hs := .inr ⟨rfl, hs⟩

/-- The constructs of a block do the same if its leaves do. -/
theorem relates_sameAt {host : Host W} {p : Walker W α} {leaf : Entry → Run W (List α)}
    (hskip : ∀ e, Confined anyName never (p.skipped e))
    (hleaf : ∀ e, SameAt n Q (p.leaf e) (leaf e)) :
    Relates host p { p with leaf } (fun _ => True) (SameAt n Q) :=
  have hassign : ∀ e : Entry,
      Confined anyName Failure.IsSyntax (assign host e.tag e.argument) :=
    fun _ => confined_assign host (fun _ _ => trivial) _
  compositional_sameAt.relates
    { assign := fun _ => sameAt_of_confined (hassign _)
      condition := fun _ _ => sameAt_of_confined (confined_condition host _)
      rounds := fun _ => sameAt_of_confined (confined_expandLoop host _)
      malformed := fun _ _ _ hs => .inr ⟨rfl, hs⟩
      leaf := fun _ => hleaf _
      skipped := fun e => sameAt_of_confined (hskip e) }

end SameAt

section Collecting

variable (host : Host W) {n : Nat} {go go' : Section → Run W (List Dependency)}

/-- A leaf, from the sections that it can call: those are collected with one call more on the
stack. -/
theorem sameAt_dependencyLeaf {Q : Failure → Failure → Prop}
    (h : ∀ b t, n < maxCalls → t.context.calls.length = n + 1 → go' b t = go b t) (e : Entry) :
    SameAt n Q (dependencyLeaf go e) (dependencyLeaf go' e) := by
  intro s hs
  right
  rw [dependencyLeaf, dependencyLeaf, context_bind, context_bind]
  split
  · rcases hr : s.context.resolve? .dependencies (s.context.format e.argument.render) with
      _ | callee
    · rw [called_of_missing hr, called_of_missing hr]
      exact ⟨rfl, hs⟩
    · rcases Nat.lt_or_ge s.context.calls.length maxCalls with hd | hd
      · have hcallee := h callee.entries
          (s.entering .dependencies (s.context.format e.argument.render) callee) (hs ▸ hd)
          (by simp [State.entering, Context.entering, hs])
        rw [called_of_callee hr hd, called_of_callee hr hd, hcallee]
        exact ⟨rfl, hs⟩
      · rw [called_of_deep hr hd, called_of_deep hr hd]
        exact ⟨rfl, hs⟩
  · split <;> exact ⟨rfl, hs⟩

/-- A pass does the same if its bodies do, and what it calls. The induction is on the entries;
`size` bounds the nesting of all bodies on the way. -/
theorem sameAt_collectStep {size : Nat} {Q : Failure → Failure → Prop}
    (hcall : ∀ b t, n < maxCalls → t.context.calls.length = n + 1 → go' b t = go b t)
    (hbody : ∀ b, Section.size b < size → SameAt n Q (go b) (go' b)) :
    ∀ (sec : Section) (paired : Bool), Section.size sec ≤ size →
      SameAt n Q (collectStep host go paired sec) (collectStep host go' paired sec)
  | [], _, _ => sameAt_pure []
  | e :: rest, paired, hsize => by
    have hrel : Relates host (collector go) (collector go') (fun _ => True) (SameAt n Q) :=
      relates_sameAt (fun _ => confined_pure ()) (sameAt_dependencyLeaf hcall)
    rw [Section.size_cons] at hsize
    have hinner : ∀ b, e.body = .ok b → SameAt n Q (go b) (go' b) := fun b hb =>
      hbody b (by have := Entry.size_body_lt hb; omega)
    have hother : ∀ f tail b, rest = f :: tail → f.body = .ok b → SameAt n Q (go b) (go' b) := by
      rintro f tail b rfl hb
      have := Entry.size_body_lt hb
      rw [Section.size_cons] at hsize
      exact hbody b (by omega)
    rw [collectStep, collectStep]
    exact hrel.reached (relates_walkEntry hrel (bodyRel_map hinner) (alternative_rel _ hother)
      fun paired => sameAt_collectStep hcall hbody rest paired (by omega))

/-- **A pass recurses only into what is lower**: it does not depend on how anything else is
collected. -/
theorem collectStep_congr (hgo : KeepsCalls go) {sec : Section} {s : State W}
    (h : ∀ b t, Lower t b s sec → go' b t = go b t) :
    collectStep host go' false sec s = collectStep host go false sec s := by
  have hcall : ∀ b t, s.context.calls.length < maxCalls →
      t.context.calls.length = s.context.calls.length + 1 → go' b t = go b t :=
    fun b t hroom ht => h b t (.left _ _ (by omega))
  have hbody : ∀ b, Section.size b < Section.size sec →
      SameAt s.context.calls.length (fun _ _ => False) (go b) (go' b) := by
    intro b hb t ht
    refine .inr ⟨h b t ?_, by rw [hgo b t, ht]⟩
    rw [Lower, ht]
    exact .right _ hb
  rcases sameAt_collectStep host hcall hbody sec false (Nat.le_refl _) s rfl with
    ⟨f, g, hfalse, -⟩ | ⟨hsame, -⟩
  · exact hfalse.elim
  · exact hsame

/-- **Collecting** is the only function that is a pass in which it recurses into itself. -/
theorem eq_dependencies_of_step (h : ∀ sec, go sec = collectStep host go false sec)
    (sec : Section) : go sec = dependencies host sec := by
  funext s
  induction hp : (s, sec) using wellFounded_lower.induction generalizing s sec with
  | _ p ih =>
    subst hp
    rw [h sec, dependencies_eq_step]
    exact collectStep_congr host (keepsCalls_dependencies host)
      fun b t hlower => ih (t, b) hlower b t rfl

/-! ## Calls without a limit -/

/-- Run the section that a call names, however deep calls are nested. -/
def calledFreely (kind : SectionKind) (target : String) (go : Section → Run W α) (otherwise : α) :
    Run W α := fun s =>
  match s.context.resolve? kind target with
  | none => (.ok otherwise, s.note (missingCallee kind target))
  | some callee =>
    let inner := go callee.entries (s.entering kind target callee)
    (inner.1, { inner.2 with context := s.context })

/-- A leaf of a section of dependencies that calls sections however deep calls are nested. -/
def freeLeaf (collect : Section → Run W (List Dependency)) (e : Entry) :
    Run W (List Dependency) := do
  let c ← context
  if e.tag = "call" then calledFreely .dependencies (c.format e.argument.render) collect []
  else dependencyLeaf collect e

/-- The dependencies that a section declares where calls are nested without a limit; it runs out of
its bound if they are nested `depth` deep. -/
def collectFreely : (depth : Nat) → Section → Run W (List Dependency)
  | 0, _ => exhausted
  | depth + 1, sec =>
    walk host { collector (collectFreely depth) with leaf := freeLeaf (collectFreely depth) }
      false sec

/-- The one failure is that of a bound that is used up, the other that of calls that are nested too
deep. -/
def Beyond (f g : Failure) : Prop :=
  f = .exhausted ∧ ∃ calls target, maxCalls ≤ calls.length ∧ g = tooDeep calls target

/-- A call without a limit beside one that is limited, where `n` calls are nested and there is room
for `depth` more. -/
theorem sameAt_called {depth : Nat} {x y : Section → Run W α} (hdepth : depth = maxCalls - n)
    (hgo : ∀ sec, n < maxCalls → SameAt (n + 1) Beyond (x sec) (y sec))
    (hend : depth = 0 → ∀ sec s, (x sec s).1 = .error .exhausted) (kind : SectionKind)
    (target : String) (otherwise : α) :
    SameAt n Beyond (calledFreely kind target x otherwise) (called kind target y otherwise) := by
  intro s hs
  unfold calledFreely
  rcases hr : s.context.resolve? kind target with _ | callee
  · rw [called_of_missing hr]
    exact .inr ⟨rfl, hs⟩
  · rcases Nat.lt_or_ge s.context.calls.length maxCalls with hd | hd
    · have hentered : (s.entering kind target callee).context.calls.length = n + 1 := by
        simp [State.entering, Context.entering, hs]
      rw [called_of_callee hr hd]
      rcases hgo callee.entries (hs ▸ hd) _ hentered with hfail | ⟨hsame, -⟩
      · exact .inl hfail
      · rw [hsame]
        exact .inr ⟨rfl, hs⟩
    · rw [called_of_deep hr hd]
      exact .inl ⟨_, _, ⟨rfl, _, _, hd, rfl⟩, hend (by omega) _ _, rfl⟩

theorem sameAt_freeLeaf {depth : Nat} (hdepth : depth = maxCalls - n)
    (hgo : ∀ sec, n < maxCalls →
      SameAt (n + 1) Beyond (collectFreely host depth sec) (dependencies host sec)) (e : Entry) :
    SameAt n Beyond (freeLeaf (collectFreely host depth) e)
      (dependencyLeaf (dependencies host) e) := by
  intro s hs
  by_cases htag : e.tag = "call"
  · rw [freeLeaf, context_bind, if_pos htag, dependencyLeaf, context_bind, if_pos htag]
    exact sameAt_called hdepth hgo (by rintro rfl _ _; rfl) .dependencies _ [] s hs
  · have hleaf : freeLeaf (collectFreely host depth) e s =
        dependencyLeaf (dependencies host) e s := by
      rw [freeLeaf, context_bind, if_neg htag, dependencyLeaf, dependencyLeaf, context_bind,
        context_bind, if_neg htag, if_neg htag]
    refine .inr ⟨hleaf.symm, ?_⟩
    rw [hleaf, dependencyLeaf, context_bind, if_neg htag]
    split <;> exact hs

/-- Collecting with calls nested without a limit, to the depth that there is room for. -/
theorem sameAt_collectFreely : ∀ (depth n : Nat) (sec : Section), depth = maxCalls - n + 1 →
    SameAt n Beyond (collectFreely host depth sec) (dependencies host sec)
  | depth + 1, n, sec, hdepth => by
    rw [dependencies_eq_walk]
    have hleaf : ∀ e, SameAt n Beyond (freeLeaf (collectFreely host depth) e)
        (dependencyLeaf (dependencies host) e) := sameAt_freeLeaf host (by omega) fun sec hroom =>
      sameAt_collectFreely depth (n + 1) sec (by omega)
    exact relates_anyWalk (relates_sameAt (fun _ => confined_pure ()) hleaf) sec

/-- **The limit on calls** shows only where calls are nested deeper than it allows. -/
theorem limited_dependencies (sec : Section) (s : State W) :
    let free := collectFreely host (maxCalls - s.context.calls.length + 1) sec s
    (free.1 ≠ .error .exhausted → dependencies host sec s = free) ∧
      (free.1 = .error .exhausted → ∃ calls target, maxCalls ≤ calls.length ∧
        (dependencies host sec s).1 = .error (tooDeep calls target)) := by
  rcases sameAt_collectFreely host _ _ sec rfl s rfl with
    ⟨f, g, ⟨rfl, hdeep⟩, hfree, hlimited⟩ | ⟨hsame, -⟩
  · refine ⟨fun h => absurd hfree h, fun _ => ?_⟩
    obtain ⟨calls, target, hlen, rfl⟩ := hdeep
    exact ⟨calls, target, hlen, hlimited⟩
  · refine ⟨fun _ => hsame, fun h => ?_⟩
    have hlocal : Confined anyName Failure.Ordinary (dependencies host sec) :=
      confined_dependencies host fun _ _ => trivial
    exact absurd rfl (hlocal.errs s _ (hsame ▸ h)).ne_exhausted

/-! ## Collecting ends -/

/-- A computation ends with a result or with an error of the program, from every state. -/
def Ends (x : Run W α) : Prop :=
  ∀ s, (∃ a, (x s).1 = .ok a) ∨ ∃ e, (x s).1 = .error (.error e)

theorem Confined.ends {N : String → Prop} {x : Run W α} (h : Confined N Failure.Ordinary x) :
    Ends x := by
  intro s
  rcases hx : (x s).1 with f | a
  · cases f with
    | error e => exact .inr ⟨e, rfl⟩
    | exhausted => exact absurd rfl (h.errs s _ hx).ne_exhausted
  · exact .inl ⟨a, rfl⟩

/-- **Collecting ends**, whatever calls what. It is a pass over the entries of a section that
recurses only into what is lower, and where calls would be nested past the limit, it ends with the
error for that. -/
theorem collecting_ends :
    (∀ sec, Ends (dependencies host sec)) ∧
    (∀ target, Ends (callDependencies host target)) ∧
    (∀ a, Ends (assistantDependencies host a)) ∧
    (WellFounded fun p q : State W × Section => Lower p.1 p.2 q.1 q.2) ∧
    (∀ sec, dependencies host sec = collectStep host (dependencies host) false sec) ∧
    (∀ (go' : Section → Run W (List Dependency)) sec s,
      (∀ b t, Lower t b s sec → go' b t = dependencies host b t) →
        collectStep host go' false sec s = dependencies host sec s) ∧
    ∀ sec s,
      let free := collectFreely host (maxCalls - s.context.calls.length + 1) sec s
      (free.1 ≠ .error .exhausted → dependencies host sec s = free) ∧
        (free.1 = .error .exhausted → ∃ calls target, maxCalls ≤ calls.length ∧
          (dependencies host sec s).1 = .error (tooDeep calls target)) := by
  have hdep : ∀ sec, Confined anyName Failure.Ordinary (dependencies host sec) :=
    fun sec => confined_dependencies host fun _ _ => trivial
  have hcall : ∀ target, Confined anyName Failure.Ordinary (callDependencies host target) :=
    confined_callDependencies host
  have hassistant : ∀ a, Confined anyName Failure.Ordinary (assistantDependencies host a) :=
    confined_assistantDependencies host
  refine ⟨fun sec => (hdep sec).ends, fun target => (hcall target).ends,
    fun a => (hassistant a).ends, wellFounded_lower, dependencies_eq_step host, ?_,
    limited_dependencies host⟩
  intro go' sec s h
  rw [collectStep_congr host (keepsCalls_dependencies host) h, ← dependencies_eq_step]

end Collecting

end Run

open Run

namespace Cycle

/-- A snippet that calls whatever a variable lists, in a loop. -/
def ping : Snippet :=
  { name := "ping"
    sections := Table.ofList [("dependencies",
      [⟨"for $i in $both", .list [.mapping [(.text "call", .text "$i")]]⟩])] }

/-- A snippet that calls the first one. -/
def pong : Snippet :=
  { name := "pong", sections := Table.ofList [("dependencies", [⟨"call", .text "ping"⟩])] }

/-- A context in which the two call each other. -/
def start : State Unit where
  context :=
    { vars := Table.ofList [("both", .text "pong ping")]
      library := Library.addSnippet (Library.addSnippet {} ping) pong }
  world := { outside := () }

end Cycle

/-- Sections that call each other, with a loop between them, end with the error for that. -/
example : (match (dependencies (Host.still "") [⟨"call", .text "ping"⟩] Cycle.start).1 with
    | .error (.error (.execution (.recursionLimit _))) => true
    | _ => false) = true := by
  decide +kernel

end Scaffold
