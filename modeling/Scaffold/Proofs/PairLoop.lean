import Scaffold.Proofs.Header
import Scaffold.Proofs.Recursion

/-!
# Loops over the entries of a mapping

A loop with two control variables goes over a mapping: one round for each entry, with its key in the
first variable and its value in the second. What it goes over is the value of an expression, and a
variable that does not count as true is the empty text there. So the empty mapping, which has no
entry to go over, is refused like a text.

* `pairHeader`: the header of such a loop over a variable. `PairLoop`: an entry that is one, and has
  no commands in it.
* `State.set`: a state after a variable is set.
* `GoesOver`, `Refuses`: what such an entry does in a run and in the collection of dependencies.

Results:
* `rounds_of_nothing`, `walk_of_nothing`: a loop without commands sets its variables round by round.
* `expandLoop_of_variable`: the rounds of a loop over a variable.
* **`pairLoop_iff`**: a mapping with entries is gone over in order; anything else is refused, with
  nothing done.
* **`not_pairLoop_of_empty`**: the empty mapping is refused.
-/

namespace Scaffold

open Chars

variable {W α : Type}

/-! ## Loops without commands -/

/-- A state after a variable is set. -/
def State.set (s : State W) (b : String × Value) : State W :=
  { s.note (.assigned b.1 b.2) with
    context := { s.context with vars := s.context.vars.insert b.1 b.2 } }

theorem State.cancelled_setAll (bs : Bindings) (s : State W) :
    (bs.foldl State.set s).world.cancelled = s.world.cancelled := by
  induction bs generalizing s with
  | nil => rfl
  | cons b bs ih => exact ih (s.set b)

/-- The variables after several are set, later ones winning. -/
theorem State.vars_setAll (bs : Bindings) (s : State W) :
    (bs.foldl State.set s).context.vars = s.context.vars.insertAll bs := by
  induction bs generalizing s with
  | nil => rfl
  | cons b bs ih => exact ih (s.set b)

namespace Run

variable {s : State W}

theorem bindAll_apply (bs : Bindings) (s : State W) :
    bindAll bs s = (.ok (), bs.foldl State.set s) := by
  induction bs generalizing s with
  | nil => rfl
  | cons b bs ih =>
    rw [bindAll, bind_of_ok (setVar_apply b.1 b.2 s), ih]
    rfl

/-- A loop without commands sets its variables, round by round. -/
theorem rounds_of_nothing (stops : Bool) (bs : List Bindings) (hs : s.world.cancelled = false) :
    rounds stops (pure []) bs s = (.ok ([] : List α), bs.flatten.foldl State.set s) := by
  induction bs generalizing s with
  | nil => rfl
  | cons b bs ih =>
    have hb : (b.foldl State.set s).world.cancelled = false := by
      rw [State.cancelled_setAll, hs]
    have hstep : rounds stops (pure []) (b :: bs) s =
        rounds stops (pure ([] : List α)) bs (b.foldl State.set s) := by
      rw [rounds, bind_of_ok (bindAll_apply b s), bind_of_ok (pure_apply _ _), isCancelled_bind, hb,
        Bool.and_false, if_neg Bool.false_ne_true]
      exact congrFun (bind_pure _) _
    rw [hstep, ih hb, List.flatten_cons, List.foldl_append]

theorem andThen_pure_nil (x : Run W (List α)) : andThen x (pure []) = x := by
  simp [andThen]

/-- Walking a loop without commands is going over its rounds. -/
theorem walk_of_nothing (host : Host W) (p : Walker W α) {e : Entry}
    (he : Construct.ofTag e.tag = .loop) (hbody : e.body = .ok [])
    (hs : s.world.cancelled = false) :
    walk host p false [e] s = (expandLoop host e.tag >>= rounds p.stopsLoops (pure [])) s := by
  have hmap : e.body.map (walk host p false) = .ok (pure []) := by
    rw [hbody, Except.map, walk_nil]
  have hnext : (fun paired => walk host p paired []) = fun _ => pure [] :=
    funext fun paired => walk_nil host p paired
  rw [walk_cons_of_running host p false e [] hs, hmap, hnext, walkEntry.eq_def, he]
  simp only [andThen_pure_nil]

/-- The rounds of a loop over a variable are those over what the variable reads as. -/
theorem expandLoop_of_variable (host : Host W) {header x : String} {l : LoopHeader}
    (hl : LoopHeader.read header = .ok l)
    (hx : Expr.read l.expression = .ok ⟨false, .variable x⟩) (s : State W) :
    expandLoop host header s =
      ofSyntax (l.rounds (Evaluated.ofVariable (s.context.vars.get? x)).value)
        (s.note (.evaluated (.text l.expression))) := by
  obtain ⟨r, t, hask, heval⟩ := evaluate_of_read host hx s
  cases hask
  rw [expandLoop, hl, bind_of_ok (show ofSyntax (.ok l) s = (.ok l, s) from rfl), bind_of_ok heval]
  rfl

end Run

/-! ## Loops with two control variables -/

/-- The rounds over the entries of a mapping. -/
def pairRounds (k v : String) (entries : List (Value × Value)) : List Bindings :=
  entries.map fun e => [(k, e.1), (v, e.2)]

/-- What a variable holds is a mapping with entries. -/
def HasEntries (held : Option Value) : Prop := ∃ m, held = some (.mapping m) ∧ m ≠ []

theorem rounds_of_entries {l : LoopHeader} {v : String} (hl : l.second = some v)
    {m : List (Value × Value)} (hm : m ≠ []) :
    l.rounds (Evaluated.ofVariable (some (.mapping m))).value = .ok (pairRounds l.first v m) := by
  have hread : Evaluated.ofVariable (some (.mapping m)) = ⟨true, .mapping m⟩ := by
    simp [Evaluated.ofVariable, Value.truthy, hm]
  rw [hread, LoopHeader.rounds.eq_def, hl]
  rfl

/-- Nothing but a mapping with entries reads as a mapping. -/
theorem rounds_of_not_hasEntries {l : LoopHeader} {v : String} (hl : l.second = some v)
    {held : Option Value} (hheld : ¬ HasEntries held) :
    ∃ found, l.rounds (Evaluated.ofVariable held).value = .error (.notAMapping found) := by
  have hread : ∀ m, (Evaluated.ofVariable held).value ≠ .mapping m := by
    intro m hm
    rw [Evaluated.ofVariable.eq_def] at hm
    split at hm
    · split at hm
      · rename_i w htrue
        subst hm
        exact hheld ⟨m, rfl, by simpa [Value.truthy] using htrue⟩
      · cases hm
    · cases hm
  rw [LoopHeader.rounds.eq_def, hl]
  dsimp only
  split
  · exact absurd ‹_› (hread _)
  · exact ⟨_, rfl⟩

/-- The header of a loop over the entries of the mapping in a variable. -/
def pairHeader (k v x : String) : String := "for $" ++ k ++ ", $" ++ v ++ " in $" ++ x

/-- A loop without commands, with two control variables, over a variable. -/
structure PairLoop (e : Entry) (k v x : String) : Prop where
  construct : Construct.ofTag e.tag = .loop
  header : LoopHeader.read e.tag = .ok ⟨k, some v, "$" ++ x⟩
  subject : Expr.read ("$" ++ x) = .ok ⟨false, .variable x⟩
  body : e.body = .ok []

section Header

variable {k v x : String}

theorem toList_pairHeader : (pairHeader k v x).toList =
    "for".toList ++ ([' '] ++ (('$' :: k.toList ++ ([] ++ ',' :: ([' '] ++ '$' :: v.toList))) ++
      ([' '] ++ ("in".toList ++ ([' '] ++ '$' :: x.toList))))) := by
  simp [pairHeader]

theorem layout_pairHeader (hk : Name k.toList) (hv : Name v.toList) (hx : Name x.toList) :
    LoopHeader.Layout LoopHeader.Control k.toList (some v.toList) ('$' :: x.toList)
      (trim (pairHeader k v x).toList) := by
  have hblank : Blanks [' '] := fun c hc => by rw [List.mem_singleton.mp hc]; decide
  have hgap : LoopHeader.Gap [' '] := ⟨List.cons_ne_nil _ _, hblank⟩
  have hline : '\n' ∉ '$' :: x.toList := by
    rw [List.mem_cons, not_or]
    exact ⟨by decide, hx.not_mem (by decide)⟩
  have htight : Tight (pairHeader k v x).toList := by
    rw [toList_pairHeader]
    refine ⟨flush_cons (by decide) _, ?_⟩
    simpa using (hx.flush_reverse
      (("for $" ++ k ++ ", $" ++ v ++ " in $").toList))
  rw [trim_of_tight htight, toList_pairHeader]
  exact .intro hgap (.two (.reference (.bare hk)) nofun hblank (.reference (.bare hv))) hgap hgap
    ⟨List.cons_ne_nil _ _, tight_of_refers (.bare hx), hline⟩

theorem pairLoop_of_names (hk : Name k.toList) (hv : Name v.toList) (hx : Name x.toList)
    {body : Value} (hbody : Section.ofValue body = .ok []) :
    PairLoop ⟨pairHeader k v x, body⟩ k v x where
  construct := by
    have helse : pairHeader k v x ≠ "else" := fun h => by
      have hchars := congrArg String.toList h
      rw [toList_pairHeader] at hchars
      simp at hchars
    simp [Construct.ofTag, Text.startsWith, Text.stripPrefix?, toList_pairHeader, stripPrefix?,
      helse]
  header := by
    have hread := LoopHeader.read_of_layout (layout_pairHeader hk hv hx)
    simpa using hread
  subject := by
    have hread := read_of_refers (.bare hx)
    simpa using hread
  body := by
    rw [Entry.body, hbody]
    rfl

end Header

/-! ## What they do -/

section

open Run

variable {k v x : String} {e : Entry} {env : Env W} {depth : Nat} {s : State W}

/-- The state after the expression of a loop over `x` is evaluated. -/
def State.looked (s : State W) (x : String) : State W := s.note (.evaluated (.text ("$" ++ x)))

/-- A loop without commands goes through the given rounds: they are what its header expands to, and
unless the run is cancelled, they are bound one after the other. -/
structure GoesOver (env : Env W) (depth : Nat) (e : Entry) (x : String) (bs : List Bindings)
    (s : State W) : Prop where
  expands : expandLoop env.host e.tag s = (.ok bs, s.looked x)
  runs : s.world.cancelled = false →
    runSection env (depth + 1) [e] s = (.ok (), bs.flatten.foldl State.set (s.looked x))
  collects : s.world.cancelled = false →
    dependencies env.host [e] s = (.ok [], bs.flatten.foldl State.set (s.looked x))

/-- The failure of a loop whose value is of a kind that two control variables do not go over. -/
def notPairs (found : String) : Failure := .error (.syntaxFault (.notAMapping found))

/-- A loop is refused: its header does not expand, and unless the run is cancelled, it fails with
nothing done but that its expression was evaluated. -/
structure Refuses (env : Env W) (depth : Nat) (e : Entry) (x : String) (found : String)
    (s : State W) : Prop where
  expands : expandLoop env.host e.tag s = (.error (notPairs found), s.looked x)
  runs : s.world.cancelled = false →
    runSection env (depth + 1) [e] s = (.error (notPairs found), s.looked x)
  collects : s.world.cancelled = false →
    dependencies env.host [e] s = (.error (notPairs found), s.looked x)

theorem PairLoop.goesOver (he : PairLoop e k v x) {m : List (Value × Value)} (hm : m ≠ [])
    (hx : s.context.vars.get? x = some (.mapping m)) :
    GoesOver env depth e x (pairRounds k v m) s := by
  have hexpands : expandLoop env.host e.tag s = (.ok (pairRounds k v m), s.looked x) := by
    rw [expandLoop_of_variable env.host he.header he.subject, hx, rounds_of_entries rfl hm]
    rfl
  have hwalk : ∀ {α : Type} (p : Walker W α), s.world.cancelled = false →
      walk env.host p false [e] s =
        (.ok [], (pairRounds k v m).flatten.foldl State.set (s.looked x)) := by
    intro α p hs
    rw [walk_of_nothing env.host p he.construct he.body hs, bind_of_ok hexpands]
    exact rounds_of_nothing p.stopsLoops _ hs
  refine ⟨hexpands, fun hs => ?_, fun hs => ?_⟩
  · rw [runSection_succ, hwalk _ hs]
    rfl
  · rw [dependencies_eq_walk, hwalk _ hs]

theorem PairLoop.refuses (he : PairLoop e k v x) (hx : ¬ HasEntries (s.context.vars.get? x)) :
    ∃ found, Refuses env depth e x found s := by
  obtain ⟨found, hrounds⟩ := rounds_of_not_hasEntries (l := ⟨k, some v, "$" ++ x⟩) rfl hx
  have hexpands : expandLoop env.host e.tag s = (.error (notPairs found), s.looked x) := by
    rw [expandLoop_of_variable env.host he.header he.subject, hrounds]
    rfl
  have hwalk : ∀ {α : Type} (p : Walker W α), s.world.cancelled = false →
      walk env.host p false [e] s = (.error (notPairs found), s.looked x) := by
    intro α p hs
    rw [walk_of_nothing env.host p he.construct he.body hs, bind_of_error hexpands]
  refine ⟨found, hexpands, fun hs => ?_, fun hs => ?_⟩
  · rw [runSection_succ, hwalk _ hs]
    rfl
  · rw [dependencies_eq_walk, hwalk _ hs]

/-- **Loops with two control variables**, over a variable and without commands. Over a mapping with
entries there is a round for each of them, in order, and running the loop and collecting from it
succeed. In any other case, and only then, the loop is refused before any round, with no variable
set. A cancelled run does not reach it. -/
theorem pairLoop_iff (hk : Name k.toList) (hv : Name v.toList) (hx : Name x.toList) {body : Value}
    (hbody : Section.ofValue body = .ok []) (env : Env W) (depth : Nat) (s : State W) :
    (∀ m, s.context.vars.get? x = some (.mapping m) → m ≠ [] →
      GoesOver env depth ⟨pairHeader k v x, body⟩ x (pairRounds k v m) s) ∧
    ((∃ found, Refuses env depth ⟨pairHeader k v x, body⟩ x found s) ↔
      ¬ HasEntries (s.context.vars.get? x)) ∧
    (s.world.cancelled = true →
      (runSection env (depth + 1) [⟨pairHeader k v x, body⟩] s).1 = .ok () ∧
      dependencies env.host [⟨pairHeader k v x, body⟩] s = (.ok [], s)) := by
  have hloop := pairLoop_of_names hk hv hx hbody
  refine ⟨fun m hheld hm => hloop.goesOver hm hheld, ⟨?_, hloop.refuses⟩, fun hs => ⟨?_, ?_⟩⟩
  · rintro ⟨found, hrefused⟩ ⟨m, hheld, hm⟩
    have hgone : GoesOver env depth _ x _ s := hloop.goesOver hm hheld
    cases hgone.expands.symm.trans hrefused.expands
  · rw [runSection_succ, walk_cons_of_cancelled _ _ _ _ _ hs]
    rfl
  · exact dependencies_of_cancelled env.host _ hs

end

/-- The start of a run with one variable. -/
def State.holding (x : String) (held : Value) : State Unit :=
  ⟨{ vars := Table.ofList [(x, held)] }, { outside := () }⟩

/-- Two entries: the control variables keep what the last round gave them. -/
theorem pairLoop_iff_two :
    ∃ t, Run.runSection (Env.watched "") 1 [⟨"for $k, $v in $x", .null⟩]
        (.holding "x" (.mapping [(.text "one", .int 1), (.text "two", .int 2)])) = (.ok (), t) ∧
      t.context.vars.get? "k" = some (.text "two") ∧ t.context.vars.get? "v" = some (.int 2) := by
  have hk : Name "k".toList := name_of_all (by decide) (by decide +kernel)
  have hv : Name "v".toList := name_of_all (by decide) (by decide +kernel)
  have hx : Name "x".toList := name_of_all (by decide) (by decide +kernel)
  have hbody : Section.ofValue .null = .ok [] := rfl
  have hgone := (pairLoop_iff hk hv hx hbody (Env.watched "") 0
    (.holding "x" (.mapping [(.text "one", .int 1), (.text "two", .int 2)]))).1
    [(.text "one", .int 1), (.text "two", .int 2)] (by decide +kernel) (by simp)
  refine ⟨_, hgone.runs rfl, ?_, ?_⟩
  · rw [State.vars_setAll]
    decide +kernel
  · rw [State.vars_setAll]
    decide +kernel

/-- **The empty mapping** is refused, though there is nothing to go over. -/
theorem not_pairLoop_of_empty :
    ¬ ∀ (k v x : String) (m : List (Value × Value)) (s : State Unit),
      Name k.toList → Name v.toList → Name x.toList →
      s.context.vars.get? x = some (.mapping m) →
      (Run.expandLoop (Host.still "") (pairHeader k v x) s).1 = .ok (pairRounds k v m) := by
  intro h
  have hk : Name "k".toList := name_of_all (by decide) (by decide +kernel)
  have hv : Name "v".toList := name_of_all (by decide) (by decide +kernel)
  have hx : Name "x".toList := name_of_all (by decide) (by decide +kernel)
  have hheld : (State.holding "x" (.mapping [])).context.vars.get? "x" = some (.mapping []) := by
    decide +kernel
  have hempty : ¬ HasEntries ((State.holding "x" (.mapping [])).context.vars.get? "x") := by
    rintro ⟨m, hm, hne⟩
    cases hheld.symm.trans hm
    exact hne rfl
  have hloop : PairLoop ⟨pairHeader "k" "v" "x", .null⟩ "k" "v" "x" :=
    pairLoop_of_names hk hv hx rfl
  obtain ⟨found, hrefused⟩ :
      ∃ found, Refuses (Env.watched "") 0 ⟨pairHeader "k" "v" "x", .null⟩ "x" found
        (.holding "x" (.mapping [])) := hloop.refuses hempty
  have hexpands := h "k" "v" "x" [] _ hk hv hx hheld
  cases (congrArg Prod.fst hrefused.expands).symm.trans hexpands

end Scaffold
